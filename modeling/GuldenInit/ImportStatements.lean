import GuldenInit.ImportShutdown

namespace gulden.import_statements

open block_files thread_import import_shutdown

/-- The statement of ThreadImport that runs next. -/
inductive ImportPC
  /-- `if (fReindex)` -/
  | reindex
  /-- the body of the `while (true)` loop for block file `nFile` -/
  | reindexFile (nFile : Nat)
  /-- `pblocktree->WriteReindexing(false)`, `fReindex = false` and the `InitBlockIndex` retry -/
  | reindexFinished
  /-- `if (fs::exists(pathBootstrap))`, its `fopen` and the import -/
  | bootstrap
  /-- `RenameOver(pathBootstrap, pathBootstrapOld)` -/
  | renameOver
  /-- the `-loadblock` loop, with the files it has still to try -/
  | loadblock (rest : List String)
  /-- `if (!ActivateBestChain(state, chainparams))` and its shutdown -/
  | activate
  /-- `if (GetBoolArg("-stopafterblockimport", …))` and its shutdown -/
  | stopAfterBlockImport
  /-- `if (GetArg("-persistmempool", …))` and `LoadMempool()` -/
  | persistMempool
  /-- `fDumpMempoolLater = !ShutdownRequested()` -/
  | setFlag
  /-- ThreadImport has returned -/
  | done
  deriving DecidableEq, Repr

section Statements

variable (env : ImportEnv) (vImportFiles : List String)

/-- One statement of `ThreadImport(vImportFiles)`. The reindex loop runs one file per
    statement with no bound of its own, as the `while (true)` of the source does. -/
def stepStatement : ImportPC × ImportState → ImportPC × ImportState
  | (.reindex, s) => (if s.fReindex then .reindexFile 0 else .bootstrap, s)
  | (.reindexFile nFile, s) =>
    if !BlockFileExists env.dir nFile then (.reindexFinished, s)
    else if !env.GetBlockFile nFile then (.reindexFinished, s)
    else (.reindexFile (nFile + 1),
      { s with actions := s.actions ++ [.reindex (.LoadExternalBlockFile nFile)] })
  | (.reindexFinished, s) =>
    (.bootstrap, { s with
      fReindex := false
      actions := s.actions ++ [.reindex (.WriteReindexing false), .InitBlockIndex] })
  | (.bootstrap, s) =>
    if s.bootstrap ∧ env.fopen "bootstrap.dat" then
      (.renameOver, { s with actions := s.actions ++ [.LoadBootstrap] })
    else (.loadblock vImportFiles, s)
  | (.renameOver, s) =>
    (.loadblock vImportFiles,
      { s with bootstrap := !env.RenameOver, actions := s.actions ++ [.RenameOver] })
  | (.loadblock [], s) => (.activate, s)
  | (.loadblock (path :: rest), s) =>
    (.loadblock rest,
      if env.fopen path then { s with actions := s.actions ++ [.LoadBlockFile path] } else s)
  | (.activate, s) =>
    let s := { s with actions := s.actions ++ [.ActivateBestChain] }
    (.stopAfterBlockImport,
      if !env.ActivateBestChain then { s with actions := s.actions ++ [.shutdown] } else s)
  | (.stopAfterBlockImport, s) =>
    (.persistMempool,
      if env.stopAfterBlockImport then { s with actions := s.actions ++ [.shutdown] } else s)
  | (.persistMempool, s) =>
    if env.persistMempool then (.setFlag, { s with actions := s.actions ++ [.LoadMempool] })
    else (.done, s)
  | (.setFlag, s) => (.done, { s with fDumpMempoolLater := !ShutdownRequested env s })
  | (.done, s) => (.done, s)

/-- `n` statements of ThreadImport. -/
def runStatements (n : Nat) : ImportPC × ImportState → ImportPC × ImportState :=
  (stepStatement env vImportFiles)^[n]

/-- From `c`, ThreadImport reaches `c'` within `b` statements. -/
def ReachesWithin (b : Nat) (c c' : ImportPC × ImportState) : Prop :=
  ∃ n ≤ b, runStatements env vImportFiles n c = c'

variable {env vImportFiles}

theorem runStatements_succ (n : Nat) (c : ImportPC × ImportState) :
    runStatements env vImportFiles (n + 1) c =
      runStatements env vImportFiles n (stepStatement env vImportFiles c) :=
  Function.iterate_succ_apply _ _ _

theorem runStatements_one (c : ImportPC × ImportState) :
    runStatements env vImportFiles 1 c = stepStatement env vImportFiles c :=
  rfl

theorem runStatements_add (m n : Nat) (c : ImportPC × ImportState) :
    runStatements env vImportFiles (m + n) c =
      runStatements env vImportFiles m (runStatements env vImportFiles n c) :=
  Function.iterate_add_apply _ _ _ _

/-- Once returned, ThreadImport stays returned. -/
theorem runStatements_done (n : Nat) (s : ImportState) :
    runStatements env vImportFiles n (.done, s) = (.done, s) :=
  Function.iterate_fixed (f := stepStatement env vImportFiles) rfl n

theorem ReachesWithin.trans {b₁ b₂ : Nat} {c c' c'' : ImportPC × ImportState}
    (h₁ : ReachesWithin env vImportFiles b₁ c c')
    (h₂ : ReachesWithin env vImportFiles b₂ c' c'') :
    ReachesWithin env vImportFiles (b₁ + b₂) c c'' := by
  obtain ⟨n₁, hn₁, rfl⟩ := h₁
  obtain ⟨n₂, hn₂, rfl⟩ := h₂
  exact ⟨n₂ + n₁, by omega, runStatements_add _ _ _⟩

theorem ReachesWithin.mono {b b' : Nat} {c c' : ImportPC × ImportState} (hb : b ≤ b')
    (h : ReachesWithin env vImportFiles b c c') : ReachesWithin env vImportFiles b' c c' :=
  let ⟨n, hn, hrun⟩ := h
  ⟨n, hn.trans hb, hrun⟩

/-- Within its bound, a run that has returned has returned for good. -/
theorem ReachesWithin.run_eq_done {b : Nat} {c : ImportPC × ImportState} {s : ImportState}
    (h : ReachesWithin env vImportFiles b c (.done, s)) (n : Nat) :
    runStatements env vImportFiles (b + n) c = (.done, s) := by
  obtain ⟨m, hm, hrun⟩ := h
  rw [show b + n = (b + n - m) + m by omega, runStatements_add, hrun, runStatements_done]

end Statements

section Phases

variable {env : ImportEnv} {vImportFiles : List String}

/-- The loop from `nFile` goes through `n` files that exist and open, feeding each. -/
theorem runStatements_reindexFile (n : Nat) :
    ∀ nFile (s : ImportState), (∀ i, nFile ≤ i → i < nFile + n →
      BlockFileExists env.dir i ∧ env.GetBlockFile i) →
    runStatements env vImportFiles n (.reindexFile nFile, s) =
      (.reindexFile (nFile + n),
        { s with actions := s.actions ++
                   (List.range' nFile n).map (.reindex ∘ .LoadExternalBlockFile) }) := by
  induction n with
  | zero => intro nFile s _; simp [runStatements]
  | succ n ih =>
    intro nFile s hok
    obtain ⟨hexists, hopens⟩ := hok nFile le_rfl (by omega)
    rw [runStatements_succ]
    simp only [stepStatement, hexists, hopens, Bool.not_true, Bool.false_eq_true, ↓reduceIte]
    rw [ih (nFile + 1) _ fun i hi hin => hok i (by omega) (by omega)]
    simp [Nat.add_right_comm nFile 1 n, Nat.add_assoc, List.range'_succ]

/-- The loop leaves at a file that is missing or does not open. -/
theorem stepStatement_reindexFile_stop {nFile : Nat} (s : ImportState)
    (hstop : ¬ (BlockFileExists env.dir nFile ∧ env.GetBlockFile nFile)) :
    stepStatement env vImportFiles (.reindexFile nFile, s) = (.reindexFinished, s) := by
  unfold stepStatement
  cases hexists : BlockFileExists env.dir nFile <;> cases hopens : env.GetBlockFile nFile <;>
    simp_all

/-- The `-reindex` phase takes at most `dir.length + 3` statements: each file the loop feeds is
    a distinct entry of the directory. -/
theorem reaches_reindexStep (s : ImportState) :
    ReachesWithin env vImportFiles (env.dir.length + 3) (.reindex, s)
      (.bootstrap, reindexStep env s) := by
  obtain ⟨k, hok, hstop⟩ := exists_reindexStop env.dir env.GetBlockFile
  have hk := (reindexPhase_eq hok hstop).1
  rw [reindexStep_eq env s hok hstop]
  cases hre : s.fReindex
  · exact ⟨1, by omega, by simp [runStatements, stepStatement, hre]⟩
  · have hfirst : stepStatement env vImportFiles (.reindex, s) = (.reindexFile 0, s) := by
      simp [stepStatement, hre]
    refine ⟨1 + 1 + k + 1, by omega, ?_⟩
    simp only [runStatements_add, runStatements_one]
    rw [hfirst, runStatements_reindexFile k 0 s fun i _ hi => hok i (by omega),
      stepStatement_reindexFile_stop _ (by simpa using hstop)]
    simp [stepStatement, List.range_eq_range']

theorem reaches_bootstrapStep (s : ImportState) :
    ReachesWithin env vImportFiles 2 (.bootstrap, s)
      (.loadblock vImportFiles, bootstrapStep env s) := by
  unfold bootstrapStep
  cases hb : s.bootstrap
  · exact ⟨1, by omega, by simp [runStatements, stepStatement, hb]⟩
  · cases hf : env.fopen "bootstrap.dat"
    · exact ⟨1, by omega, by simp [runStatements, stepStatement, hb, hf]⟩
    · exact ⟨2, le_rfl, by simp [runStatements, stepStatement, hb, hf]⟩

/-- The `-loadblock` loop tries each file in turn. -/
theorem runStatements_loadblock (l : List String) (s : ImportState) :
    runStatements env vImportFiles l.length (.loadblock l, s) =
      (.loadblock [], loadblockLoop env l s) := by
  induction l generalizing s with
  | nil => rfl
  | cons path rest ih => exact (runStatements_succ _ _).trans (ih _)

theorem reaches_loadblockLoop (s : ImportState) :
    ReachesWithin env vImportFiles (vImportFiles.length + 1) (.loadblock vImportFiles, s)
      (.activate, loadblockLoop env vImportFiles s) :=
  ⟨1 + vImportFiles.length, by omega, by rw [runStatements_add, runStatements_loadblock]; rfl⟩

theorem reaches_activateStep (s : ImportState) :
    ReachesWithin env vImportFiles 2 (.activate, s) (.persistMempool, activateStep env s) :=
  ⟨2, le_rfl, rfl⟩

theorem reaches_mempoolStep (s : ImportState) :
    ReachesWithin env vImportFiles 2 (.persistMempool, s) (.done, mempoolStep env s) := by
  unfold mempoolStep
  cases h : env.persistMempool
  · exact ⟨1, by omega, by simp [runStatements, stepStatement, h]⟩
  · exact ⟨2, le_rfl, by simp [runStatements, stepStatement, h]⟩

end Phases

/-- ThreadImport run statement by statement from its first one, for every blocks directory,
    every `-loadblock` list and every answer of its surroundings: it reaches `-persistmempool`
    having done the work that the interleaving model's import thread replays, and after
    `dir.length + |vImportFiles| + 10` statements it has returned, in the state the sequential
    ThreadImport gives. -/
theorem runStatements_refines_ThreadImport (env : ImportEnv) (vImportFiles : List String)
    (fReindex bootstrap : Bool) :
    (∃ m, runStatements env vImportFiles m (.reindex, .start fReindex bootstrap) =
      (.persistMempool, importWork env vImportFiles (.start fReindex bootstrap))) ∧
    ∀ n, runStatements env vImportFiles (env.dir.length + vImportFiles.length + 10 + n)
        (.reindex, .start fReindex bootstrap) =
      (.done, ThreadImport env vImportFiles (.start fReindex bootstrap)) := by
  have hwork : ReachesWithin env vImportFiles (env.dir.length + vImportFiles.length + 8)
      (.reindex, .start fReindex bootstrap)
      (.persistMempool, importWork env vImportFiles (.start fReindex bootstrap)) :=
    ((((reaches_reindexStep _).trans (reaches_bootstrapStep _)).trans
      (reaches_loadblockLoop _)).trans (reaches_activateStep _)).mono (by omega)
  have ⟨m, _, hrun⟩ := hwork
  exact ⟨⟨m, hrun⟩, ((hwork.trans (reaches_mempoolStep _)).mono
    (show _ ≤ env.dir.length + vImportFiles.length + 10 by omega)).run_eq_done⟩

end gulden.import_statements
