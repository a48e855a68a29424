import Mathlib.Logic.Function.Basic

namespace gulden.genesis_wait

/-- Where AppInitMain is in Step 10's wait for the genesis block. -/
inductive MainPlace
  /-- before `boost::unique_lock<boost::mutex> lock(cs_GenesisWait)` -/
  | lock
  /-- holding `cs_GenesisWait`, at `while (!fHaveGenesis)` -/
  | test
  /-- inside `condvar_GenesisWait.wait(lock)`, asleep -/
  | asleep
  /-- inside `wait`, woken, taking `cs_GenesisWait` back -/
  | woken
  /-- holding `cs_GenesisWait`, at `uiInterface.NotifyBlockTip.disconnect(BlockNotifyGenesisWait)` -/
  | disconnect
  /-- past the wait, at Step 11 -/
  | started
  deriving DecidableEq, Repr

/-- Where a call of `BlockNotifyGenesisWait` is. -/
inductive NotifyPlace
  /-- not called by `uiInterface.NotifyBlockTip` yet -/
  | idle
  /-- called with a block index, before `boost::unique_lock<boost::mutex> lock_GenesisWait` -/
  | lock
  /-- holding `cs_GenesisWait`, at `fHaveGenesis = true` -/
  | set
  /-- at `condvar_GenesisWait.notify_all()` -/
  | notify
  | done
  deriving DecidableEq, Repr

/-- Who holds `cs_GenesisWait`. -/
inductive Holder
  | main
  | notifier (i : Nat)
  deriving DecidableEq, Repr

/-- Who takes the next step: AppInitMain, the `i`-th call of `BlockNotifyGenesisWait`, or the
    condition variable waking its waiter spuriously. -/
inductive Actor
  | main
  | notifier (i : Nat)
  | spurious
  deriving DecidableEq, Repr

/-- AppInitMain and the calls of `BlockNotifyGenesisWait`: where each is, who holds
    `cs_GenesisWait`, `fHaveGenesis`, and whether `BlockNotifyGenesisWait` is connected to
    `uiInterface.NotifyBlockTip`. -/
structure System where
  main : MainPlace
  notifier : Nat → NotifyPlace
  holder : Option Holder
  fHaveGenesis : Bool
  connected : Bool

/-- `if (chainActive.Tip() == NULL) connect(BlockNotifyGenesisWait); else fHaveGenesis = true;`
    before any background thread starts. -/
def System.init (tipIsNull : Bool) : System :=
  ⟨.lock, fun _ => .idle, none, !tipIsNull, tipIsNull⟩

/-- One step of AppInitMain: taking the mutex, the loop's test (whose `wait` releases the mutex
    and sleeps), and the disconnection with the release at the end of the block. -/
def System.stepMain (s : System) : System :=
  match s.main with
  | .lock | .woken => if s.holder = none then { s with main := .test, holder := some .main } else s
  | .test =>
    if s.fHaveGenesis then { s with main := .disconnect } else { s with main := .asleep, holder := none }
  | .disconnect => { s with main := .started, holder := none, connected := false }
  | .asleep | .started => s

/-- One step of the `i`-th call of `BlockNotifyGenesisWait(bool, pBlockIndex)` with
    `pBlockIndex != NULL`: the signal calls it while it is connected; it sets `fHaveGenesis`
    under the mutex, then `notify_all()` wakes the sleeping waiter. -/
def System.stepNotifier (s : System) (i : Nat) : System :=
  match s.notifier i with
  | .idle => if s.connected then { s with notifier := Function.update s.notifier i .lock } else s
  | .lock =>
    if s.holder = none then
      { s with notifier := Function.update s.notifier i .set, holder := some (.notifier i) }
    else s
  | .set => { s with fHaveGenesis := true, holder := none,
                     notifier := Function.update s.notifier i .notify }
  | .notify => { s with main := if s.main = .asleep then .woken else s.main,
                        notifier := Function.update s.notifier i .done }
  | .done => s

def System.step (s : System) : Actor → System
  | .main => s.stepMain
  | .notifier i => s.stepNotifier i
  | .spurious => if s.main = .asleep then { s with main := .woken } else s

/-- The actors take steps in the order of `schedule`. -/
def System.run (s : System) (schedule : List Actor) : System := schedule.foldl System.step s

/-- What holds of every state the threads reach. -/
structure Inv (s : System) : Prop where
  /-- AppInitMain holds the mutex from taking it to the end of the block, outside `wait` -/
  holder_main : s.holder = some .main ↔ (s.main = .test ∨ s.main = .disconnect)
  /-- a call holds the mutex exactly while it sets `fHaveGenesis` -/
  holder_notifier : ∀ i, s.holder = some (.notifier i) ↔ s.notifier i = .set
  /-- AppInitMain sleeps only while `fHaveGenesis` is unset, or while a call that set it has
      still to notify -/
  asleep : s.main = .asleep → s.fHaveGenesis = false ∨ ∃ i, s.notifier i = .notify
  /-- AppInitMain leaves the wait only once `fHaveGenesis` is set -/
  passed : s.main = .disconnect ∨ s.main = .started → s.fHaveGenesis = true

theorem inv_init (tipIsNull : Bool) : Inv (System.init tipIsNull) where
  holder_main := by simp [System.init]
  holder_notifier _ := by simp [System.init]
  asleep h := nomatch h
  passed h := by simp [System.init] at h

section Step

variable {s : System}

theorem Inv.notifier_ne_set (h : Inv s) {i : Nat} (hh : s.holder ≠ some (.notifier i)) :
    s.notifier i ≠ .set :=
  fun hs => hh ((h.holder_notifier i).mpr hs)

theorem Inv.stepMain (h : Inv s) : Inv s.stepMain := by
  unfold System.stepMain
  split
  case h_1 | h_2 =>
    split
    next hfree =>
      refine ⟨by simp, fun i => ?_, fun h => (nomatch h), fun h => by simp at h⟩
      simpa [hfree] using h.notifier_ne_set (i := i) (by simp [hfree])
    next => exact h
  case h_3 hm =>
    have hh : s.holder = some .main := h.holder_main.mpr (.inl hm)
    have hns : ∀ i, s.notifier i ≠ .set := fun i => h.notifier_ne_set (by simp [hh])
    split
    next hg => exact ⟨by simp [hh], fun i => by simp [hh, hns i], fun h => (nomatch h), fun _ => hg⟩
    next hg =>
      exact ⟨by simp, fun i => by simp [hns i], fun _ => .inl (by simpa using hg),
        fun h => by simp at h⟩
  case h_4 hm =>
    have hh : s.holder = some .main := h.holder_main.mpr (.inr hm)
    have hns : ∀ i, s.notifier i ≠ .set := fun i => h.notifier_ne_set (by simp [hh])
    exact ⟨by simp, fun i => by simp [hns i], fun h => (nomatch h),
      fun _ => h.passed (.inl hm)⟩
  case h_5 | h_6 => exact h

/-- `holder_notifier` after call `i` moves to place `p` and the mutex passes to `o`: it holds
    when `o` is right about `i` and agrees with the old holder about every other call. -/
theorem Inv.holder_notifier_update (h : Inv s) {i : Nat} {p : NotifyPlace} {o : Option Holder}
    (hself : o = some (.notifier i) ↔ p = .set)
    (hother : ∀ j, j ≠ i → (o = some (.notifier j) ↔ s.holder = some (.notifier j))) (j : Nat) :
    o = some (.notifier j) ↔ Function.update s.notifier i p j = .set := by
  by_cases hj : j = i
  · subst hj; simpa using hself
  · rw [Function.update_noteq hj, hother j hj]; exact h.holder_notifier j

/-- Moving a call that is not about to notify keeps every call that is. -/
theorem Inv.asleep_update (h : Inv s) {i : Nat} {p : NotifyPlace} (hi : s.notifier i ≠ .notify)
    (hm : s.main = .asleep) :
    s.fHaveGenesis = false ∨ ∃ j, Function.update s.notifier i p j = .notify := by
  obtain hg | ⟨j, hj⟩ := h.asleep hm
  · exact .inl hg
  · have : j ≠ i := by rintro rfl; exact hi hj
    exact .inr ⟨j, by simpa [this] using hj⟩

theorem Inv.stepNotifier (h : Inv s) (i : Nat) : Inv (s.stepNotifier i) := by
  unfold System.stepNotifier
  split
  case h_1 hi =>
    split
    next =>
      have hns : s.holder ≠ some (.notifier i) := fun hh => by
        simp [(h.holder_notifier i).mp hh] at hi
      exact ⟨h.holder_main, h.holder_notifier_update (by simpa using hns) fun _ _ => Iff.rfl,
        h.asleep_update (by simp [hi]), h.passed⟩
    next => exact h
  case h_2 hi =>
    split
    next hfree =>
      exact ⟨by simpa [hfree] using h.holder_main,
        h.holder_notifier_update (by simp) fun j hj => by simp [hfree, Ne.symm hj],
        h.asleep_update (by simp [hi]), h.passed⟩
    next => exact h
  case h_3 hi =>
    have hh : s.holder = some (.notifier i) := (h.holder_notifier i).mpr hi
    exact ⟨by simpa [hh] using h.holder_main,
      h.holder_notifier_update (by simp) fun j hj => by simp [hh, Ne.symm hj],
      fun _ => .inr ⟨i, by simp⟩, fun _ => rfl⟩
  case h_4 hi =>
    have hns : s.holder ≠ some (.notifier i) := fun hh => by
      simp [(h.holder_notifier i).mp hh] at hi
    refine ⟨?_, h.holder_notifier_update (by simpa using hns) fun _ _ => Iff.rfl, fun hm => ?_,
      fun hm => ?_⟩
    · split <;> simpa [*] using h.holder_main
    · split at hm <;> simp_all
    · exact h.passed (by split at hm <;> simp_all)
  case h_5 => exact h

theorem Inv.step (h : Inv s) : ∀ a, Inv (s.step a)
  | .main => h.stepMain
  | .notifier i => h.stepNotifier i
  | .spurious => by
    dsimp only [System.step]
    split
    next hm => exact ⟨by simpa [hm] using h.holder_main, h.holder_notifier, fun h => (nomatch h),
      fun h => by simp at h⟩
    next => exact h

theorem Inv.run (h : Inv s) (schedule : List Actor) : Inv (s.run schedule) := by
  induction schedule generalizing s with
  | nil => exact h
  | cons a rest ih => exact ih (h.step a)

end Step

theorem Inv.holder_eq_none {s : System} (h : Inv s) (hm : s.main ≠ .test ∧ s.main ≠ .disconnect)
    (hn : ∀ i, s.notifier i ≠ .set) : s.holder = none := by
  rcases hh : s.holder with _ | _ | i
  · rfl
  · exact absurd (h.holder_main.mp hh) fun h' => h'.elim hm.1 hm.2
  · exact absurd ((h.holder_notifier i).mp hh) (hn i)

/-- The wait for the genesis block, for every number of calls of `BlockNotifyGenesisWait`,
    either state of the tip and every interleaving, spurious wakeups included: AppInitMain
    passes it only once `fHaveGenesis` is set; and no wakeup is lost: once `fHaveGenesis` is set
    and no call is between taking the mutex and its `notify_all()`, AppInitMain is awake and
    reaches Step 11 within three steps of its own. -/
theorem genesisWait_no_lost_wakeup (tipIsNull : Bool) (schedule : List Actor) :
    (((System.init tipIsNull).run schedule).main = .started →
      ((System.init tipIsNull).run schedule).fHaveGenesis = true) ∧
    (((System.init tipIsNull).run schedule).fHaveGenesis = true →
      (∀ i, ((System.init tipIsNull).run schedule).notifier i ≠ .set ∧
        ((System.init tipIsNull).run schedule).notifier i ≠ .notify) →
      ((System.init tipIsNull).run schedule).main ≠ .asleep ∧
        (((System.init tipIsNull).run schedule).run [.main, .main, .main]).main = .started) := by
  have h := (inv_init tipIsNull).run schedule
  generalize (System.init tipIsNull).run schedule = s at h ⊢
  refine ⟨fun hm => h.passed (.inr hm), fun hg hn => ?_⟩
  have hawake : s.main ≠ .asleep := fun hm => by
    obtain hf | ⟨i, hi⟩ := h.asleep hm
    · simp [hg] at hf
    · exact (hn i).2 hi
  refine ⟨hawake, ?_⟩
  rcases hm : s.main
  case asleep => exact absurd hm hawake
  case test | disconnect | started =>
    simp [System.run, System.step, System.stepMain, hm, hg]
  case lock | woken =>
    have hfree := h.holder_eq_none (by simp [hm]) fun i => (hn i).1
    simp [System.run, System.step, System.stepMain, hm, hg, hfree]

/-- AppInitMain goes to sleep before the only call sets `fHaveGenesis`; the call's
    `notify_all()` wakes it. -/
example : ((System.init true).run [.main, .main, .notifier 0, .notifier 0, .notifier 0,
    .notifier 0, .main, .main, .main]).main = .started := by
  decide

end gulden.genesis_wait
