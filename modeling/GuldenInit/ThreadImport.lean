import GuldenInit.BlockFiles
import Mathlib.Data.List.Count

namespace gulden.thread_import

open block_files

/-- What ThreadImport does that outlives it, in the order it does it. -/
inductive ImportAction
  /-- an event of the `-reindex` phase -/
  | reindex (e : ImportEvent)
  /-- the `InitBlockIndex` retry after reindexing -/
  | InitBlockIndex
  /-- `LoadExternalBlockFile` on `bootstrap.dat` -/
  | LoadBootstrap
  /-- `RenameOver(pathBootstrap, pathBootstrapOld)` -/
  | RenameOver
  /-- `LoadExternalBlockFile` on the `-loadblock` file `path` -/
  | LoadBlockFile (path : String)
  | ActivateBestChain
  /-- `GuldenAppManager::gApp->shutdown()` -/
  | shutdown
  | LoadMempool
  deriving DecidableEq, Repr

/-- What ThreadImport asks of its surroundings. -/
structure ImportEnv where
  /-- the blocks directory, and whether `GetBlockFile` opens each block file -/
  dir : List Entry
  GetBlockFile : Nat → Bool
  /-- whether `fsbridge::fopen(path, "rb")` opens `path`, `bootstrap.dat` included -/
  fopen : String → Bool
  /-- `ActivateBestChain(state, chainparams)` -/
  ActivateBestChain : Bool
  /-- `GetBoolArg("-stopafterblockimport", DEFAULT_STOPAFTERBLOCKIMPORT)` -/
  stopAfterBlockImport : Bool
  /-- `GetArg("-persistmempool", DEFAULT_PERSIST_MEMPOOL) != 0` -/
  persistMempool : Bool
  /-- whether another thread has requested shutdown by the time `LoadMempool` returns -/
  shutdownElsewhere : Bool
  /-- whether `RenameOver(pathBootstrap, pathBootstrapOld)` moves `bootstrap.dat` away; its
      result is not looked at -/
  RenameOver : Bool

/-- The state ThreadImport works on: `fReindex`, whether `bootstrap.dat` exists,
    `fDumpMempoolLater`, and the actions of this run so far. -/
structure ImportState where
  fReindex : Bool
  bootstrap : Bool
  fDumpMempoolLater : Bool
  actions : List ImportAction

/-- The state a run starts from. -/
def ImportState.start (fReindex bootstrap : Bool) : ImportState := ⟨fReindex, bootstrap, false, []⟩

section Steps

variable (env : ImportEnv)

/-- `if (fReindex)`: the reindex phase, then the `InitBlockIndex` retry. -/
def reindexStep (s : ImportState) : ImportState :=
  if s.fReindex then
    let r := reindexPhase env.dir env.GetBlockFile
    { s with fReindex := r.2, actions := s.actions ++ r.1.map .reindex ++ [.InitBlockIndex] }
  else s

/-- `bootstrap.dat` is imported, then renamed to `bootstrap.dat.old`, when it exists and
    opens; it stays where it is when the rename fails. -/
def bootstrapStep (s : ImportState) : ImportState :=
  if s.bootstrap then
    if env.fopen "bootstrap.dat" then
      { s with bootstrap := !env.RenameOver, actions := s.actions ++ [.LoadBootstrap, .RenameOver] }
    else s
  else s

/-- The loop over `-loadblock`: each file that opens is imported. -/
def loadblockLoop : List String → ImportState → ImportState
  | [], s => s
  | path :: rest, s =>
    loadblockLoop rest
      (if env.fopen path then { s with actions := s.actions ++ [.LoadBlockFile path] } else s)

/-- `ActivateBestChain`, whose failure requests shutdown, then `-stopafterblockimport`. -/
def activateStep (s : ImportState) : ImportState :=
  let s := { s with actions := s.actions ++ [.ActivateBestChain] }
  let s := if !env.ActivateBestChain then { s with actions := s.actions ++ [.shutdown] } else s
  if env.stopAfterBlockImport then { s with actions := s.actions ++ [.shutdown] } else s

/-- `ShutdownRequested()`: this thread or another has requested it. -/
def ShutdownRequested (s : ImportState) : Bool :=
  env.shutdownElsewhere || s.actions.contains .shutdown

/-- `-persistmempool`: `LoadMempool`, then `fDumpMempoolLater = !ShutdownRequested()`. -/
def mempoolStep (s : ImportState) : ImportState :=
  if env.persistMempool then
    let s := { s with actions := s.actions ++ [ImportAction.LoadMempool] }
    { s with fDumpMempoolLater := !ShutdownRequested env s }
  else s

/-- `ThreadImport(vImportFiles)`. -/
def ThreadImport (vImportFiles : List String) (s : ImportState) : ImportState :=
  mempoolStep env (activateStep env (loadblockLoop env vImportFiles (bootstrapStep env
    (reindexStep env s))))

end Steps

/-- Runs of ThreadImport one after another, the node restarting in between: each with its own
    surroundings, `fReindex` and `-loadblock` files, and `bootstrap.dat` as the run before left
    it. The actions of all the runs. -/
def importRuns : List (ImportEnv × Bool × List String) → Bool → List ImportAction
  | [], _ => []
  | (env, fReindex, files) :: rest, bootstrap =>
    let s := ThreadImport env files (ImportState.start fReindex bootstrap)
    s.actions ++ importRuns rest s.bootstrap

section StepLemmas

variable (env : ImportEnv) (s : ImportState)

/-- The reindex phase reads the block files before the first one that is missing or does not
    open. -/
theorem reindexStep_eq {k : Nat} (hok : ∀ i < k, BlockFileExists env.dir i ∧ env.GetBlockFile i)
    (hstop : ¬ (BlockFileExists env.dir k ∧ env.GetBlockFile k)) :
    reindexStep env s = if s.fReindex then
      { s with fReindex := false, actions := s.actions ++
        ((List.range k).map (.reindex ∘ .LoadExternalBlockFile) ++
          [.reindex (.WriteReindexing false), .InitBlockIndex]) } else s := by
  unfold reindexStep
  split
  · simp [(reindexPhase_eq hok hstop).2]
  · rfl

theorem bootstrapStep_eq :
    bootstrapStep env s =
      { s with
        bootstrap := s.bootstrap && !(env.fopen "bootstrap.dat" && env.RenameOver)
        actions := s.actions ++
          if s.bootstrap ∧ env.fopen "bootstrap.dat" then [.LoadBootstrap, .RenameOver] else [] } := by
  obtain ⟨fReindex, _ | _, fDumpMempoolLater, actions⟩ := s <;> unfold bootstrapStep <;>
    cases env.fopen "bootstrap.dat" <;> simp

theorem loadblockLoop_eq (l : List String) :
    loadblockLoop env l s =
      { s with actions := s.actions ++ (l.filter env.fopen).map ImportAction.LoadBlockFile } := by
  induction l generalizing s with
  | nil => simp [loadblockLoop]
  | cons path rest ih =>
    rw [loadblockLoop, ih]
    cases h : env.fopen path <;> simp [h, List.filter_cons]

theorem activateStep_eq :
    activateStep env s = { s with actions := s.actions ++ .ActivateBestChain ::
      ((if env.ActivateBestChain then [] else [.shutdown]) ++
        if env.stopAfterBlockImport then [.shutdown] else []) } := by
  unfold activateStep
  cases env.ActivateBestChain <;> cases env.stopAfterBlockImport <;> simp

theorem mempoolStep_eq :
    mempoolStep env s = { s with
      fDumpMempoolLater := if env.persistMempool then
        !(env.shutdownElsewhere || s.actions.contains .shutdown) else s.fDumpMempoolLater,
      actions := s.actions ++ if env.persistMempool then [.LoadMempool] else [] } := by
  unfold mempoolStep ShutdownRequested
  cases env.persistMempool <;> simp

end StepLemmas

/-- One run of ThreadImport, for every blocks directory and every answer of its surroundings:
    it imports the block files `0, …, k - 1` when reindexing (`k` the first index whose file is
    missing or does not open), clears the reindexing flag and retries `InitBlockIndex`; then
    imports `bootstrap.dat` when it exists and opens, renaming it right after (it stays when the
    rename fails); then the
    `-loadblock` files that open, in the order given; only then does it call
    `ActivateBestChain`, request shutdown when that fails and after `-stopafterblockimport`, and
    load the mempool when `-persistmempool`, with `fDumpMempoolLater` set unless shutdown was
    requested by then. -/
theorem ThreadImport_actions (env : ImportEnv) (vImportFiles : List String)
    (fReindex bootstrap : Bool) :
    ∃ k, (∀ i < k, BlockFileExists env.dir i ∧ env.GetBlockFile i) ∧
      ¬ (BlockFileExists env.dir k ∧ env.GetBlockFile k) ∧
      (ThreadImport env vImportFiles (.start fReindex bootstrap)).actions =
        (if fReindex then (List.range k).map (.reindex ∘ .LoadExternalBlockFile) ++
            [.reindex (.WriteReindexing false), .InitBlockIndex] else []) ++
        (if bootstrap ∧ env.fopen "bootstrap.dat" then [.LoadBootstrap, .RenameOver] else []) ++
        (vImportFiles.filter env.fopen).map .LoadBlockFile ++
        .ActivateBestChain :: ((if env.ActivateBestChain then [] else [.shutdown]) ++
          (if env.stopAfterBlockImport then [.shutdown] else []) ++
          (if env.persistMempool then [.LoadMempool] else [])) ∧
      (ThreadImport env vImportFiles (.start fReindex bootstrap)).fDumpMempoolLater =
        (env.persistMempool &&
          !(env.shutdownElsewhere || !env.ActivateBestChain || env.stopAfterBlockImport)) ∧
      (ThreadImport env vImportFiles (.start fReindex bootstrap)).fReindex = false ∧
      (ThreadImport env vImportFiles (.start fReindex bootstrap)).bootstrap =
        (bootstrap && !(env.fopen "bootstrap.dat" && env.RenameOver)) := by
  obtain ⟨k, hok, hstop⟩ := exists_reindexStop env.dir env.GetBlockFile
  refine ⟨k, hok, hstop, ?_⟩
  simp only [ThreadImport, mempoolStep_eq, activateStep_eq, loadblockLoop_eq, bootstrapStep_eq,
    reindexStep_eq env _ hok hstop, ImportState.start]
  cases fReindex <;> cases env.persistMempool <;> simp [List.mem_ite_nil_right, Bool.and_assoc]

section Bootstrap

variable (env : ImportEnv) (vImportFiles : List String) (fReindex bootstrap : Bool)

theorem ThreadImport_bootstrap :
    (ThreadImport env vImportFiles (.start fReindex bootstrap)).bootstrap =
      (bootstrap && !(env.fopen "bootstrap.dat" && env.RenameOver)) := by
  obtain ⟨k, hok, hstop⟩ := exists_reindexStop env.dir env.GetBlockFile
  simp only [ThreadImport, mempoolStep_eq, activateStep_eq, loadblockLoop_eq, bootstrapStep_eq,
    reindexStep_eq env _ hok hstop, ImportState.start]
  split <;> rfl

theorem count_ite (c : Prop) [Decidable c] (l₁ l₂ : List ImportAction) (a : ImportAction) :
    (if c then l₁ else l₂).count a = if c then l₁.count a else l₂.count a := by
  split <;> rfl

/-- A run imports `bootstrap.dat` once when it exists and opens, and never otherwise. -/
theorem ThreadImport_count_LoadBootstrap :
    (ThreadImport env vImportFiles (.start fReindex bootstrap)).actions.count .LoadBootstrap =
      if bootstrap ∧ env.fopen "bootstrap.dat" then 1 else 0 := by
  obtain ⟨k, hok, hstop⟩ := exists_reindexStop env.dir env.GetBlockFile
  simp only [ThreadImport, mempoolStep_eq, activateStep_eq, loadblockLoop_eq, bootstrapStep_eq,
    reindexStep_eq env _ hok hstop, ImportState.start]
  have hreindex : ((List.range k).map (ImportAction.reindex ∘ .LoadExternalBlockFile)).count
      .LoadBootstrap = 0 := List.count_eq_zero_of_not_mem (by simp)
  have hloadblock : ((vImportFiles.filter env.fopen).map ImportAction.LoadBlockFile).count
      .LoadBootstrap = 0 := List.count_eq_zero_of_not_mem (by simp)
  cases fReindex <;> simp [List.count_append, List.count_cons, hreindex, hloadblock, count_ite]

end Bootstrap

/-- However often the node restarts, `bootstrap.dat` is imported by each run that opens it, up
    to the first run whose `RenameOver` moves it away, and by none after; not at all when it was
    missing at the start. ThreadImport ignores the result of `RenameOver`, so a failed rename
    has the next run import the same file again. -/
theorem importRuns_count_LoadBootstrap (runs : List (ImportEnv × Bool × List String))
    (bootstrap : Bool) :
    (importRuns runs bootstrap).count .LoadBootstrap =
      if bootstrap then
        (runs.takeWhile fun r => !(r.1.fopen "bootstrap.dat" && r.1.RenameOver)).countP
            (fun r => r.1.fopen "bootstrap.dat") +
          if runs.any fun r => r.1.fopen "bootstrap.dat" && r.1.RenameOver then 1 else 0
      else 0 := by
  induction runs generalizing bootstrap with
  | nil => simp [importRuns]
  | cons run rest ih =>
    obtain ⟨env, fReindex, files⟩ := run
    simp only [importRuns, List.count_append, ThreadImport_count_LoadBootstrap,
      ThreadImport_bootstrap, ih, List.takeWhile_cons, List.any_cons]
    rcases Bool.eq_false_or_eq_true (env.fopen "bootstrap.dat") with hf | hf <;>
      rcases Bool.eq_false_or_eq_true env.RenameOver with hr | hr <;>
      cases bootstrap <;>
      simp only [hf, hr, List.countP_cons, List.countP_nil, Bool.and_true, Bool.and_false,
        Bool.not_true, Bool.not_false, Bool.true_or, Bool.false_or, Bool.false_eq_true, and_true,
        and_false, ↓reduceIte] <;> omega

end gulden.thread_import
