import GuldenInit.Stores
import Mathlib.Data.List.Nodup
import Mathlib.Data.List.Count

namespace gulden.core_shutdown

open stores

/-- The teardown steps of CoreShutdown. -/
inductive Teardown
  /-- `pwallet->Flush(fShutdown)` on wallet `w` -/
  | Flush (w : Nat) (fShutdown : Bool)
  | DumpMempool
  /-- `::feeEstimator.FlushUnconfirmed` and the write of the fee estimates -/
  | WriteFeeEstimates
  | FlushStateToDisk
  | CloseBlockFiles
  /-- `delete pwallet` on wallet `w` -/
  | DeleteWallet (w : Nat)
  | ECC_Stop
  /-- the removals under `fullyEraseDatadirOnShutdown || partiallyEraseDatadirOnShutdown` -/
  | EraseDataDir
  deriving DecidableEq, Repr

/-- The globals CoreShutdown reads and writes. The wallets are distinct. -/
structure Globals where
  vpwallets : List Nat
  hwallets : vpwallets.Nodup
  fDumpMempoolLater : Bool
  /-- `GetArg("-persistmempool", DEFAULT_PERSIST_MEMPOOL)` -/
  persistMempool : Bool
  fFeeEstimatesInitialized : Bool
  stores : Stores
  fullyEraseDatadirOnShutdown : Bool
  partiallyEraseDatadirOnShutdown : Bool

/-- A statement of CoreShutdown after the `TRY_LOCK`: the steps it runs and what it does to
    the globals, each read from the globals it starts from. -/
structure Statement where
  steps : Globals → List Teardown
  effect : Globals → Globals

/-- CoreShutdown's teardown statements, in order. The network, RPC and thread shutdowns
    between them run no step of `Teardown`. -/
def body : List Statement :=
  [ ⟨fun g => g.vpwallets.map (.Flush · false), id⟩,
    ⟨fun g => if g.fDumpMempoolLater && g.persistMempool then [.DumpMempool] else [], id⟩,
    ⟨fun g => if g.fFeeEstimatesInitialized then [.WriteFeeEstimates] else [],
      fun g => { g with fFeeEstimatesInitialized := false }⟩,
    ⟨fun g => if (g.stores.slot .pcoinsTip).isSome then [.FlushStateToDisk] else [],
      fun g => if (g.stores.slot .pcoinsTip).isSome then { g with stores := g.stores.use .pcoinsTip }
        else g⟩,
    ⟨fun _ => [.CloseBlockFiles], fun g => { g with stores := deleteCoinDatabases g.stores }⟩,
    ⟨fun g => g.vpwallets.map (.Flush · true), id⟩,
    ⟨fun g => g.vpwallets.map .DeleteWallet, fun g => { g with vpwallets := [], hwallets := .nil }⟩,
    ⟨fun _ => [.ECC_Stop], id⟩,
    ⟨fun g => if g.fullyEraseDatadirOnShutdown || g.partiallyEraseDatadirOnShutdown then
        [.EraseDataDir] else [], id⟩ ]

/-- The statement of `body` that runs a step. -/
def Teardown.stmt : Teardown → Nat
  | .Flush _ false => 0
  | .DumpMempool => 1
  | .WriteFeeEstimates => 2
  | .FlushStateToDisk => 3
  | .CloseBlockFiles => 4
  | .Flush _ true => 5
  | .DeleteWallet _ => 6
  | .ECC_Stop => 7
  | .EraseDataDir => 8

theorem Teardown.stmt_lt_length (e : Teardown) : e.stmt < body.length := by
  rcases e with ⟨_, _ | _⟩ | _ | _ | _ | _ | _ | _ | _ <;> simp [Teardown.stmt, body]

/-- Where an invocation of CoreShutdown is. -/
inductive Place
  /-- before `TRY_LOCK(cs_Shutdown, lockShutdown)` -/
  | start
  /-- holding `cs_Shutdown`, at statement `k` of `body` -/
  | body (k : Nat)
  /-- returned -/
  | done
  deriving DecidableEq, Repr

/-- Invocations of CoreShutdown run by threads `0, 1, …`: where each is, which holds the
    function-static `cs_Shutdown`, the globals, and the steps run so far with the invocation
    that ran each. `acquirers` lists the invocations that took `cs_Shutdown`, in order; nothing
    reads it. -/
structure System where
  place : Nat → Place
  holder : Option Nat
  globals : Globals
  trace : List (Nat × Teardown)
  acquirers : List Nat

/-- `n` invocations, none started, from globals `g`. -/
def System.init (n : Nat) (g : Globals) : System :=
  ⟨fun t => if t < n then .start else .done, none, g, [], []⟩

/-- Invocation `t` takes one step: the `TRY_LOCK` (returning at once when another invocation
    holds `cs_Shutdown`), a statement of `body`, or the return that releases the lock. -/
def System.step (s : System) (t : Nat) : System :=
  match s.place t with
  | .start =>
    match s.holder with
    | none => { s with place := Function.update s.place t (.body 0), holder := some t,
                       acquirers := s.acquirers ++ [t] }
    | some _ => { s with place := Function.update s.place t .done }
  | .body k =>
    match body[k]? with
    | some st => { s with globals := st.effect s.globals,
                          trace := s.trace ++ (st.steps s.globals).map ((t, ·)),
                          place := Function.update s.place t (.body (k + 1)) }
    | none => { s with holder := none, place := Function.update s.place t .done }
  | .done => s

/-- The invocations take steps in the order of `schedule`. -/
def System.run (s : System) (schedule : List Nat) : System := schedule.foldl System.step s

section Invariant

variable {s : System}

private theorem count_le_of_stmt {l : List Teardown} {k : Nat} (hnd : l.Nodup)
    (hall : ∀ x ∈ l, x.stmt = k) (e : Teardown) : l.count e ≤ if e.stmt = k then 1 else 0 := by
  split
  · exact List.nodup_iff_count_le_one.mp hnd e
  · rw [List.count_eq_zero.mpr fun he => ‹¬_› (hall e he)]

/-- Statement `k` runs only steps whose statement is `k`, each at most once. -/
theorem body_steps_count {k : Nat} {st : Statement} (hk : body[k]? = some st) (g : Globals)
    (e : Teardown) : (st.steps g).count e ≤ if e.stmt = k then 1 else 0 := by
  have hinj : ∀ {f : Nat → Teardown}, (∀ a b, f a = f b → a = b) → (g.vpwallets.map f).Nodup :=
    fun hf => g.hwallets.map hf
  refine count_le_of_stmt ?_ ?_ e <;>
  rcases k with _ | _ | _ | _ | _ | _ | _ | _ | _ | k <;>
  simp only [body, List.getElem?_cons_succ, List.getElem?_cons_zero, List.getElem?_nil,
    Option.some.injEq, reduceCtorEq] at hk <;> subst hk
  all_goals first
    | exact hinj fun a b h => by cases h; rfl
    | (dsimp only; split <;> simp [Teardown.stmt])
    | simp [Teardown.stmt]

/-- One step of statement `e.stmt` that the holder of `cs_Shutdown` has still to run, when it
    has not passed that statement. -/
def pending (s : System) (e : Teardown) : Nat :=
  match s.holder with
  | some t =>
    match s.place t with
    | .body k => if k ≤ e.stmt then 1 else 0
    | _ => 0
  | none => 0

/-- What holds of every state the invocations reach. -/
structure Inv (s : System) : Prop where
  /-- the holder of `cs_Shutdown` is the one invocation past the `TRY_LOCK` -/
  holder : ∀ t, s.holder = some t ↔ ∃ k, s.place t = .body k
  holder_acquired : ∀ t, s.holder = some t → t ∈ s.acquirers
  /-- only invocations that took `cs_Shutdown` have run steps -/
  authors : ∀ x ∈ s.trace, x.1 ∈ s.acquirers
  /-- each step has run at most once for each acquisition -/
  count : ∀ e, (s.trace.map (·.2)).count e + pending s e ≤ s.acquirers.length

theorem inv_init (n : Nat) (g : Globals) : Inv (System.init n g) := by
  refine ⟨fun t => ?_, fun _ h => (nomatch h), fun _ h => (nomatch h), fun e => ?_⟩
  · simp only [System.init, reduceCtorEq, false_iff, not_exists]
    intro k
    split <;> simp
  · simp [System.init, pending]

private theorem pending_of_holder {t k : Nat} (hh : s.holder = some t) (hp : s.place t = .body k)
    (e : Teardown) : pending s e = if k ≤ e.stmt then 1 else 0 := by
  simp [pending, hh, hp]

/-- The holder field after invocation `t` moves to place `p` and the lock passes to `o`: it
    holds when `o` is right about `t` and agrees with the old holder about every other
    invocation. -/
private theorem Inv.holder_update (h : Inv s) {t : Nat} {p : Place} {o : Option Nat}
    (hself : o = some t ↔ ∃ k, p = .body k) (hother : ∀ v, v ≠ t → (o = some v ↔ s.holder = some v))
    (v : Nat) : o = some v ↔ ∃ k, Function.update s.place t p v = .body k := by
  by_cases hv : v = t
  · subst hv; simpa using hself
  · rw [Function.update_noteq hv, hother v hv]; exact h.holder v

/-- Each step of an invocation keeps the invariant. -/
theorem Inv.step (h : Inv s) (t : Nat) : Inv (s.step t) := by
  unfold System.step
  split
  next hpl =>
    split
    next hh =>
      -- the `TRY_LOCK` takes the free lock
      refine ⟨h.holder_update (by simp) fun v hv => by simp [hh, Ne.symm hv], fun u hu => ?_,
        fun x hx => List.mem_append_left _ (h.authors x hx), fun e => ?_⟩
      · cases hu; simp
      · have := h.count e
        simp only [pending, hh, Nat.add_zero] at this
        simp only [pending, Function.update_same, Nat.zero_le, if_true, List.length_append,
          List.length_singleton]
        omega
    next u hh =>
      -- the `TRY_LOCK` fails and the invocation returns
      have htu : t ≠ u := by rintro rfl; obtain ⟨k, hk⟩ := (h.holder t).mp hh; simp [hpl] at hk
      refine ⟨h.holder_update (by simp [hh, htu.symm]) fun _ _ => Iff.rfl, h.holder_acquired,
        h.authors, fun e => ?_⟩
      simpa [pending, hh, Function.update_noteq htu.symm] using h.count e
  next k hpl =>
    have hh : s.holder = some t := (h.holder t).mpr ⟨k, hpl⟩
    split
    next st hst =>
      -- statement `k` runs
      refine ⟨h.holder_update (by simp [hh]) fun _ _ => by rw [hh], h.holder_acquired,
        fun x hx => ?_, fun e => ?_⟩
      · rcases List.mem_append.mp hx with hx | hx
        · exact h.authors x hx
        · obtain ⟨_, -, rfl⟩ := List.mem_map.mp hx
          exact h.holder_acquired t hh
      · have hc := h.count e
        have hst := body_steps_count hst s.globals e
        rw [pending_of_holder hh hpl] at hc
        simp only [pending, hh, Function.update_same, List.map_append, List.map_map,
          List.count_append, Function.comp_def, List.map_id']
        split at hst <;> split at hc <;> split <;> omega
    next hst =>
      -- the return releases `cs_Shutdown`
      have hk : body.length ≤ k := List.getElem?_eq_none_iff.mp hst
      refine ⟨h.holder_update (by simp) fun v hv => by simp [hh, Ne.symm hv],
        fun _ hv => (nomatch hv), h.authors, fun e => ?_⟩
      have hc := h.count e
      have hstmt := e.stmt_lt_length
      rw [pending_of_holder hh hpl, if_neg (by omega)] at hc
      simpa [pending] using hc
  next => exact h

theorem Inv.run (h : Inv s) (schedule : List Nat) : Inv (s.run schedule) := by
  induction schedule generalizing s with
  | nil => exact h
  | cons t ts ih => exact ih (h.step t)

end Invariant

/-- CoreShutdown run by `n` invocations in any interleaving, from any globals: at most one
    invocation is past the `TRY_LOCK` at a time; only invocations that took `cs_Shutdown`
    have run teardown steps, so one that found it held returned having run none; and each
    step has run at most once for each time `cs_Shutdown` was taken. When it was taken once,
    that is when every invocation reached the `TRY_LOCK` before the first one returned, each
    step has run at most once, and only the first invocation has run any. -/
theorem coreShutdown_once_per_acquisition (n : Nat) (g : Globals) (schedule : List Nat) :
    let s := (System.init n g).run schedule
    (∀ t u, (∃ k, s.place t = .body k) → (∃ k, s.place u = .body k) → t = u) ∧
    (∀ x ∈ s.trace, x.1 ∈ s.acquirers) ∧
    (∀ e, (s.trace.map (·.2)).count e ≤ s.acquirers.length) ∧
    (s.acquirers.length ≤ 1 →
      (s.trace.map (·.2)).Nodup ∧ ∀ x ∈ s.trace, s.acquirers.head? = some x.1) := by
  intro s
  have h : Inv s := (inv_init n g).run schedule
  have hcount : ∀ e, (s.trace.map (·.2)).count e ≤ s.acquirers.length :=
    fun e => le_trans (Nat.le_add_right _ _) (h.count e)
  refine ⟨fun t u ht hu => ?_, h.authors, hcount, fun h1 => ⟨?_, fun x hx => ?_⟩⟩
  · exact Option.some.inj (((h.holder t).mpr ht).symm.trans ((h.holder u).mpr hu))
  · exact List.nodup_iff_count_le_one.mpr fun e => le_trans (hcount e) h1
  · have hx := h.authors x hx
    rcases hacq : s.acquirers with _ | ⟨a, _ | ⟨b, l⟩⟩ <;> simp_all

/-- A node that will dump its mempool, with no wallet, no fee estimates and no chainstate. -/
def dumpingGlobals : Globals :=
  ⟨[], .nil, true, true, false, Stores.empty, false, false⟩

/-- Two invocations one after the other: the second takes `cs_Shutdown` once the first has
    released it, and dumps the mempool, closes the block files and stops ECC again. -/
theorem coreShutdown_sequential_reruns :
    let s := (System.init 2 dumpingGlobals).run (List.replicate 11 0 ++ List.replicate 11 1)
    s.trace = [(0, .DumpMempool), (0, .CloseBlockFiles), (0, .ECC_Stop),
      (1, .DumpMempool), (1, .CloseBlockFiles), (1, .ECC_Stop)] := by
  decide

end gulden.core_shutdown

namespace gulden.erase_datadir

/-- A file under the data directory, as its path below `GetDataDir()`. -/
abbrev Path := List String

/-- `FEE_ESTIMATES_FILENAME`. -/
def FEE_ESTIMATES_FILENAME : String := "fee_estimates.dat"

/-- `fs::remove(GetDataDir() / name)`: the file of that name goes. A missing file is left
    missing, and a directory with files in it stays (the call throws); so does the file when
    the call fails (`failed`), which the `catch` around it only logs. -/
def remove (failed : Bool) (name : String) (files : List Path) : List Path :=
  if failed then files else files.filter (· ≠ [name])

/-- `fs::remove_all(GetDataDir() / name)`: the file or directory of that name with
    everything under it. A failure stops it part way, leaving the files under it in `kept`. -/
def removeAll (kept : List Path) (name : String) (files : List Path) : List Path :=
  files.filter fun f => f.head? ≠ some name ∨ f ∈ kept

/-- How each removal of the erase block ends: `failed name` for a `fs::remove` that
    throws, `kept name` for the files a failing `fs::remove_all` did not get to. -/
structure Removals where
  failed : String → Bool
  kept : String → List Path

/-- The end of CoreShutdown: the data directory erase under `fullyEraseDatadirOnShutdown`
    or `partiallyEraseDatadirOnShutdown`, each removal in its own `try`. -/
def eraseDatadir (fullyEraseDatadirOnShutdown partiallyEraseDatadirOnShutdown : Bool)
    (r : Removals) (files : List Path) : List Path :=
  let files :=
    if fullyEraseDatadirOnShutdown || partiallyEraseDatadirOnShutdown then
      files |> removeAll (r.kept "autocheckpoints") "autocheckpoints"
        |> remove (r.failed "banlist.dat") "banlist.dat"
        |> remove (r.failed "peers.dat") "peers.dat"
    else files
  if fullyEraseDatadirOnShutdown then
    files |> remove (r.failed "mempool.dat") "mempool.dat"
      |> remove (r.failed FEE_ESTIMATES_FILENAME) FEE_ESTIMATES_FILENAME
      |> removeAll (r.kept "blocks") "blocks"
      |> removeAll (r.kept "chainstate") "chainstate"
      |> removeAll (r.kept "witstate") "witstate"
      |> removeAll (r.kept "database") "database"
      |> remove (r.failed "db.log") "db.log"
  else files

end gulden.erase_datadir
