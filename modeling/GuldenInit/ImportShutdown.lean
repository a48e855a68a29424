import GuldenInit.ThreadImport
import GuldenInit.CoreShutdown

namespace gulden.import_shutdown

open thread_import core_shutdown

/-- ThreadImport up to the end of the `CImportingNow` scope: its work before the mempool. -/
def importWork (env : ImportEnv) (vImportFiles : List String) (s : ImportState) : ImportState :=
  activateStep env (loadblockLoop env vImportFiles (bootstrapStep env (reindexStep env s)))

/-- What the threads do that outlives them, in the order they do it. -/
inductive Event
  /-- AppInitMain reaches the read of `fee_estimates.dat` and sets `fFeeEstimatesInitialized` -/
  | FeeRead
  /-- an action of ThreadImport -/
  | imp (a : ImportAction)
  /-- ThreadImport's `fDumpMempoolLater = !ShutdownRequested()`, with the value it assigns -/
  | dumpLater (b : Bool)
  /-- a shutdown request from outside ThreadImport: a signal, the RPC `stop`, the GUI -/
  | request
  /-- a step of CoreShutdown's teardown -/
  | teardown (e : Teardown)
  deriving DecidableEq, Repr

/-- Where AppInitMain, then Shutdown, is. -/
inductive MainPlace
  /-- AppInitMain before the read of `fee_estimates.dat` in Step 7 -/
  | beforeFeeRead
  /-- past it, before `threadGroup.create_thread(boost::bind(&ThreadImport, vImportFiles))` -/
  | beforeImport
  /-- past the creation of the import thread -/
  | afterImport
  /-- AppInitMain has returned; Shutdown calls CoreInterrupt -/
  | returned
  /-- CoreShutdown at `threadGroup.join_all()` -/
  | join
  /-- CoreShutdown at statement `k` of its teardown -/
  | body (k : Nat)
  deriving DecidableEq, Repr

/-- Where the import thread is. -/
inductive ImportPlace
  /-- not created -/
  | idle
  /-- before action `k` of its work -/
  | work (k : Nat)
  /-- at `LoadMempool()` -/
  | loadMempool
  /-- `LoadMempool` has returned; at `fDumpMempoolLater = !ShutdownRequested()` -/
  | setFlag
  | exited
  deriving DecidableEq, Repr

/-- Who takes the next step. -/
inductive Actor
  /-- AppInitMain, then Shutdown -/
  | main
  /-- AppInitMain returns early: an `InitError`, or `ShutdownRequested()` at one of its checks -/
  | mainFails
  | importThread
  /-- `threadGroup.interrupt_all()` ends the import thread at an interruption point -/
  | interruption
  | request
  deriving DecidableEq, Repr

/-- AppInitMain and Shutdown, the import thread, `fRequestShutdown`, whether CoreInterrupt has
    interrupted the thread group, the globals CoreShutdown reads, and the events so far. -/
structure System where
  main : MainPlace
  imp : ImportPlace
  fRequestShutdown : Bool
  interrupted : Bool
  g : Globals
  trace : List Event

/-- A process from any globals, with `fDumpMempoolLater(false)` and
    `fFeeEstimatesInitialized = false` as they are initialised. -/
def System.init (g : Globals) : System :=
  ⟨.beforeFeeRead, .idle, false, false,
    { g with fDumpMempoolLater := false, fFeeEstimatesInitialized := false }, []⟩

/-- One step of AppInitMain, then of Shutdown: the fee-estimate read, the creation of the
    thread that runs ThreadImport, the return, CoreInterrupt, the join, and the statements of
    CoreShutdown's teardown. -/
def System.stepMain (s : System) : System :=
  match s.main with
  | .beforeFeeRead => { s with main := .beforeImport, trace := s.trace ++ [.FeeRead],
                               g := { s.g with fFeeEstimatesInitialized := true } }
  | .beforeImport => { s with main := .afterImport, imp := .work 0 }
  | .afterImport => { s with main := .returned }
  | .returned => { s with main := .join, interrupted := true }
  | .join => if s.imp = .idle ∨ s.imp = .exited then { s with main := .body 0 } else s
  | .body k =>
    match body[k]? with
    | some st => { s with main := .body (k + 1), g := st.effect s.g,
                          trace := s.trace ++ (st.steps s.g).map .teardown }
    | none => s

/-- AppInitMain returns before it has finished. -/
def System.stepMainFails (s : System) : System :=
  match s.main with
  | .beforeFeeRead | .beforeImport | .afterImport => { s with main := .returned }
  | _ => s

/-- One step of the import thread, whose work is `work`: an action, which requests shutdown
    when it is `shutdown`; `-persistmempool`; `LoadMempool`; the assignment of
    `fDumpMempoolLater`. -/
def System.stepImport (work : List ImportAction) (s : System) : System :=
  match s.imp with
  | .work k =>
    match work[k]? with
    | some a => { s with imp := .work (k + 1), trace := s.trace ++ [.imp a],
                         fRequestShutdown := s.fRequestShutdown || decide (a = .shutdown) }
    | none => { s with imp := if s.g.persistMempool then .loadMempool else .exited }
  | .loadMempool => { s with imp := .setFlag, trace := s.trace ++ [.imp .LoadMempool] }
  | .setFlag => { s with imp := .exited, trace := s.trace ++ [.dumpLater !s.fRequestShutdown],
                         g := { s.g with fDumpMempoolLater := !s.fRequestShutdown } }
  | .idle | .exited => s

/-- The interruption ends the import thread before `LoadMempool` has returned. -/
def System.stepInterruption (s : System) : System :=
  match s.imp with
  | .work _ | .loadMempool => if s.interrupted then { s with imp := .exited } else s
  | _ => s

def System.step (work : List ImportAction) (s : System) : Actor → System
  | .main => s.stepMain
  | .mainFails => s.stepMainFails
  | .importThread => s.stepImport work
  | .interruption => s.stepInterruption
  | .request => { s with fRequestShutdown := true, trace := s.trace ++ [.request] }

/-- The actors take steps in the order of `schedule`. -/
def System.run (work : List ImportAction) (s : System) (schedule : List Actor) : System :=
  schedule.foldl (System.step work) s

section Prefix

variable {α : Type} {pre t E : List α} {x : α}

/-- A prefix of `t ++ E` that ends in `x` is one of `t`, or extends `t` with its `x` from `E`. -/
theorem snoc_prefix_append (h : pre ++ [x] <+: t ++ E) : pre ++ [x] <+: t ∨ (t <+: pre ∧ x ∈ E) := by
  by_cases hlen : (pre ++ [x]).length ≤ t.length
  · exact .inl (List.prefix_of_prefix_length_le h (List.prefix_append t E) hlen)
  · have ht : t <+: pre := List.prefix_of_prefix_length_le (List.prefix_append t E)
      ((List.prefix_append pre [x]).trans h) (by simp at hlen; omega)
    obtain ⟨u, rfl⟩ := ht
    obtain ⟨r, hr⟩ := h
    simp only [List.append_assoc, List.append_cancel_left_eq] at hr
    exact .inr ⟨List.prefix_append t u, by simp [← hr]⟩

/-- What holds of every prefix ending in `x` still holds once `E` is appended, when it is
    kept by extension and holds of `t` in case `E` brings an `x`. -/
theorem forall_prefix_append {Q : List α → Prop} (hQ : ∀ {a b}, Q a → a <+: b → Q b)
    (h : ∀ pre, pre ++ [x] <+: t → Q pre) (hE : x ∈ E → Q t) :
    ∀ pre, pre ++ [x] <+: t ++ E → Q pre := fun pre hpre =>
  (snoc_prefix_append hpre).elim (h pre) fun ⟨ht, hx⟩ => hQ (hE hx) ht

end Prefix

/-- `fDumpMempoolLater = true` ran in `t`, after `LoadMempool` had returned and while no
    shutdown had been requested. -/
def LoadedBefore (t : List Event) : Prop :=
  ∃ p, p ++ [.dumpLater true] <+: t ∧ .imp .LoadMempool ∈ p ∧ .request ∉ p ∧ .imp .shutdown ∉ p

theorem LoadedBefore.mono {t t' : List Event} (h : LoadedBefore t) (ht : t <+: t') :
    LoadedBefore t' :=
  let ⟨p, hp, hl, hr, hs⟩ := h
  ⟨p, hp.trans ht, hl, hr, hs⟩

/-- What CoreShutdown's statements read of the two flags and do to them. -/
theorem body_flags {k : Nat} {st : Statement} (hk : body[k]? = some st) (g : Globals) :
    (st.effect g).fDumpMempoolLater = g.fDumpMempoolLater ∧
    ((st.effect g).fFeeEstimatesInitialized = true → g.fFeeEstimatesInitialized = true) ∧
    (.DumpMempool ∈ st.steps g → g.fDumpMempoolLater = true) ∧
    (.WriteFeeEstimates ∈ st.steps g → g.fFeeEstimatesInitialized = true) := by
  rcases k with _ | _ | _ | _ | _ | _ | _ | _ | _ | k <;>
  simp only [body, List.getElem?_cons_succ, List.getElem?_cons_zero, List.getElem?_nil,
    Option.some.injEq, reduceCtorEq] at hk <;> subst hk <;> dsimp only <;>
  (try split) <;> simp_all

/-- What holds of every state the threads reach. -/
structure Inv (s : System) : Prop where
  /-- while `fRequestShutdown` is unset, nobody has requested shutdown -/
  requested : s.fRequestShutdown = false → .request ∉ s.trace ∧ .imp .shutdown ∉ s.trace
  /-- the import thread assigns the flag only after `LoadMempool` has returned -/
  loaded : s.imp = .setFlag → .imp .LoadMempool ∈ s.trace
  /-- `fDumpMempoolLater` is set only by an assignment that followed a load -/
  dumpLater : s.g.fDumpMempoolLater = true → LoadedBefore s.trace
  /-- `fFeeEstimatesInitialized` is set only by the read -/
  feeRead : s.g.fFeeEstimatesInitialized = true → .FeeRead ∈ s.trace
  /-- every dump so far had its reason before it -/
  dumps : ∀ pre, pre ++ [.teardown .DumpMempool] <+: s.trace → LoadedBefore pre
  /-- every write so far had the read before it -/
  writes : ∀ pre, pre ++ [.teardown .WriteFeeEstimates] <+: s.trace → .FeeRead ∈ pre

theorem inv_init (g : Globals) : Inv (System.init g) where
  requested _ := by simp [System.init]
  loaded h := nomatch h
  dumpLater h := nomatch h
  feeRead h := nomatch h
  dumps pre h := by simpa [System.init] using h.length_le
  writes pre h := by simpa [System.init] using h.length_le

section Step

variable {s : System}

/-- A step that appends `E` to the trace keeps the two prefix fields when `E` holds no dump
    without the flag's reason and no write without the read. -/
theorem Inv.prefixes_append (h : Inv s) {E : List Event}
    (hd : .teardown .DumpMempool ∈ E → LoadedBefore s.trace)
    (hw : .teardown .WriteFeeEstimates ∈ E → .FeeRead ∈ s.trace) :
    (∀ pre, pre ++ [.teardown .DumpMempool] <+: s.trace ++ E → LoadedBefore pre) ∧
    (∀ pre, pre ++ [.teardown .WriteFeeEstimates] <+: s.trace ++ E → .FeeRead ∈ pre) :=
  ⟨forall_prefix_append (fun ha hab => ha.mono hab) h.dumps hd,
    forall_prefix_append (fun ha hab => hab.subset ha) h.writes hw⟩

/-- What a step that appends `E` to the trace has to show to keep the invariant: `E` holds
    no request while the flag stays unset, the import thread reaches the assignment only with
    `LoadMempool` in `E`, neither flag is newly set but by `E`, and a dump or a write in `E`
    has its reason in the trace before. -/
theorem Inv.append (h : Inv s) {s' : System} (E : List Event) (htrace : s'.trace = s.trace ++ E)
    (hreq : s'.fRequestShutdown = false →
      s.fRequestShutdown = false ∧ .request ∉ E ∧ .imp .shutdown ∉ E)
    (himp : s'.imp = .setFlag → s.imp = .setFlag ∨ .imp .LoadMempool ∈ E)
    (hdump : s'.g.fDumpMempoolLater = true → s.g.fDumpMempoolLater = true)
    (hfee : s'.g.fFeeEstimatesInitialized = true →
      s.g.fFeeEstimatesInitialized = true ∨ .FeeRead ∈ E)
    (hd : .teardown .DumpMempool ∈ E → LoadedBefore s.trace)
    (hw : .teardown .WriteFeeEstimates ∈ E → .FeeRead ∈ s.trace) : Inv s' := by
  obtain ⟨_, _, _, _, _, t⟩ := s'
  dsimp only at htrace hreq himp hdump hfee ⊢
  subst htrace
  have hp := h.prefixes_append hd hw
  refine ⟨fun hr => ?_, fun hs => ?_, fun hl => (h.dumpLater (hdump hl)).mono (List.prefix_append _ _),
    fun hf => ?_, hp.1, hp.2⟩
  · obtain ⟨hr, hrE, hsE⟩ := hreq hr
    obtain ⟨h1, h2⟩ := h.requested hr
    simp only [List.mem_append, not_or]
    exact ⟨⟨h1, hrE⟩, ⟨h2, hsE⟩⟩
  · rcases himp hs with hs | hs
    · exact List.mem_append_left _ (h.loaded hs)
    · exact List.mem_append_right _ hs
  · rcases hfee hf with hf | hf
    · exact List.mem_append_left _ (h.feeRead hf)
    · exact List.mem_append_right _ hf

/-- A step that changes none of what the invariant reads keeps it. -/
theorem Inv.frame (h : Inv s) {s' : System} (htrace : s'.trace = s.trace)
    (hreq : s'.fRequestShutdown = s.fRequestShutdown)
    (himp : s'.imp = .setFlag → s.imp = .setFlag) (hg : s'.g = s.g) : Inv s' :=
  h.append [] (by simp [htrace]) (by simp [hreq]) (fun hs => .inl (himp hs)) (by simp [hg])
    (by simp [hg]) (by simp) (by simp)

theorem Inv.stepMain (h : Inv s) : Inv s.stepMain := by
  unfold System.stepMain
  split
  · exact h.append [.FeeRead] rfl (fun hr => ⟨hr, by simp, by simp⟩) .inl id
      (fun _ => .inr (by simp)) (by simp) (by simp)
  · exact h.frame rfl rfl (fun hs => nomatch hs) rfl
  · exact h.frame rfl rfl id rfl
  · exact h.frame rfl rfl id rfl
  · split
    · exact h.frame rfl rfl id rfl
    · exact h
  · split
    · rename_i k st hk
      obtain ⟨hd, hf, hdm, hwr⟩ := body_flags hk s.g
      exact h.append _ rfl (fun hr => ⟨hr, by simp, by simp⟩) .inl (fun hl => hd ▸ hl)
        (fun hl => .inl (hf hl)) (fun hm => h.dumpLater (hdm (by simpa using hm)))
        (fun hm => h.feeRead (hwr (by simpa using hm)))
    · exact h

theorem Inv.stepMainFails (h : Inv s) : Inv s.stepMainFails := by
  unfold System.stepMainFails
  split <;> exact h.frame rfl rfl id rfl

theorem Inv.stepImport (h : Inv s) (work : List ImportAction) : Inv (s.stepImport work) := by
  unfold System.stepImport
  split
  · split
    · rename_i a _
      exact h.append [.imp a] rfl
        (fun hr => have ⟨h1, h2⟩ := Bool.or_eq_false_iff.1 hr
          ⟨h1, by simp, by simpa using Ne.symm (of_decide_eq_false h2)⟩)
        (fun hs => nomatch hs) id .inl (by simp) (by simp)
    · exact h.frame rfl rfl (by split <;> simp) rfl
  · exact h.append [.imp .LoadMempool] rfl (fun hr => ⟨hr, by simp, by simp⟩)
      (fun _ => .inr (by simp)) id .inl (by simp) (by simp)
  · rename_i himp
    have hp := h.prefixes_append (E := [.dumpLater !s.fRequestShutdown]) (by simp) (by simp)
    refine ⟨fun hr => ?_, fun hs => (nomatch hs), fun hl => ?_, fun hf => ?_, hp.1, hp.2⟩
    · simpa using h.requested hr
    · have hr : s.fRequestShutdown = false := by simpa using hl
      obtain ⟨h1, h2⟩ := h.requested hr
      exact ⟨s.trace, by simp [hr], h.loaded himp, h1, h2⟩
    · exact List.mem_append_left _ (h.feeRead hf)
  · exact h
  · exact h

theorem Inv.stepInterruption (h : Inv s) : Inv s.stepInterruption := by
  unfold System.stepInterruption
  split
  · split
    · exact h.frame rfl rfl (fun hs => nomatch hs) rfl
    · exact h
  · split
    · exact h.frame rfl rfl (fun hs => nomatch hs) rfl
    · exact h
  · exact h

theorem Inv.step (h : Inv s) (work : List ImportAction) : ∀ a, Inv (s.step work a)
  | .main => h.stepMain
  | .mainFails => h.stepMainFails
  | .importThread => h.stepImport work
  | .interruption => h.stepInterruption
  | .request => h.append [.request] rfl (fun hr => nomatch hr) .inl id .inl (by simp) (by simp)

theorem Inv.run (h : Inv s) (work : List ImportAction) (schedule : List Actor) :
    Inv (s.run work schedule) := by
  induction schedule generalizing s with
  | nil => exact h
  | cons a as ih => exact ih (h.step work a)

end Step

/-- ThreadImport, a shutdown request from outside and the Shutdown that follows AppInitMain,
    in any interleaving, with AppInitMain failing at any point, from any globals, any
    `-reindex`, `bootstrap.dat` and `-loadblock` files: every `DumpMempool` comes after an
    assignment `fDumpMempoolLater = true` that followed the return of `LoadMempool` with no
    shutdown requested before it, and every write of the fee estimates comes after
    AppInitMain's read of them. -/
theorem coreShutdown_dumps_only_loaded (g : Globals) (env : ImportEnv)
    (vImportFiles : List String) (fReindex bootstrap : Bool) (schedule : List Actor) :
    let s := (System.init g).run
      (importWork env vImportFiles (ImportState.start fReindex bootstrap)).actions schedule
    (∀ pre, pre ++ [.teardown .DumpMempool] <+: s.trace →
      ∃ p, p ++ [.dumpLater true] <+: pre ∧ .imp .LoadMempool ∈ p ∧ .request ∉ p ∧
        .imp .shutdown ∉ p) ∧
    (∀ pre, pre ++ [.teardown .WriteFeeEstimates] <+: s.trace → .FeeRead ∈ pre) :=
  let h := (inv_init g).run _ schedule
  ⟨h.dumps, h.writes⟩

/-- A node with nothing to reindex or import, whose best chain activates, with
    `-persistmempool` on and no shutdown requested elsewhere. -/
def persistingEnv : ImportEnv := ⟨[], fun _ => false, fun _ => false, true, false, true, false, true⟩

/-- A request that arrives while `LoadMempool` runs makes the import thread assign `false`,
    and CoreShutdown then writes the fee estimates but dumps no mempool. -/
example : ((System.init dumpingGlobals).run
    (importWork persistingEnv [] (ImportState.start false false)).actions
    ([.main, .main, .importThread, .importThread, .request, .importThread, .importThread] ++
      List.replicate 13 .main)).trace =
    [.FeeRead, .imp .ActivateBestChain, .request, .imp .LoadMempool, .dumpLater false,
      .teardown .WriteFeeEstimates, .teardown .CloseBlockFiles, .teardown .ECC_Stop] := by
  decide

end gulden.import_shutdown
