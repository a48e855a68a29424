import GuldenInit.LoadPass

namespace gulden.load_loop

variable (cfg : LoadConfig) (env : Env) {s : LoopState}

/-- The loop has ended: AppInitMain goes on with `fLoaded`, or has returned false. -/
def Phase.isDone : Phase → Bool
  | .loaded | .returned => true
  | _ => false

section LeaveTry

variable (s : LoopState) (e : Exit) (p : PassState)

@[simp] theorem leaveTry_fReset : (leaveTry s e p).fReset = s.fReset := by cases e <;> rfl

@[simp] theorem leaveTry_nAsk : (leaveTry s e p).nAsk = s.nAsk := by cases e <;> rfl

@[simp] theorem leaveTry_nAttempt : (leaveTry s e p).nAttempt = s.nAttempt := by cases e <;> rfl

@[simp] theorem leaveTry_nGoto : (leaveTry s e p).nGoto = s.nGoto := by cases e <;> rfl

@[simp] theorem leaveTry_upgradeOnceOnly :
    (leaveTry s e p).pass.upgradeOnceOnly = p.upgradeOnceOnly := by cases e <;> rfl

@[simp] theorem leaveTry_phase_ne_whileTop : (leaveTry s e p).phase ≠ .whileTop := by
  cases e <;> simp [leaveTry]

@[simp] theorem leaveTry_phase_ne_loadblockindex : (leaveTry s e p).phase ≠ .loadblockindex := by
  cases e <;> simp [leaveTry]

end LeaveTry

/-- A step from the loop condition begins an attempt: `fReset = fReindex`, then
    `UnloadBlockIndex()` inside the `try`. -/
theorem step_whileTop (hs : s.phase = .whileTop) :
    (step cfg env s).fReset = s.pass.fReindex ∧
    (step cfg env s).nAttempt = s.nAttempt + 1 ∧
    (step cfg env s).nAsk = s.nAsk ∧ (step cfg env s).nGoto = s.nGoto ∧
    ((step cfg env s).pass.upgradeOnceOnly → s.pass.upgradeOnceOnly) ∧
    (step cfg env s).phase ≠ .whileTop := by
  simp only [step, hs]
  split
  next p hp =>
    have hu := NeverSets.imp (preserves_call framed_neverSets env) hp
    exact ⟨rfl, rfl, rfl, rfl, hu, by simp⟩
  next e p hp =>
    have hu := NeverSets.imp (preserves_call framed_neverSets env) hp
    simpa using hu

/-- A step at `loadblockindex` runs the `try` block: it jumps back, which clears a set
    `upgradeOnceOnly`, or the attempt is over. -/
theorem step_loadblockindex (hs : s.phase = .loadblockindex) :
    (step cfg env s).fReset = s.fReset ∧ (step cfg env s).nAttempt = s.nAttempt ∧
    (step cfg env s).nAsk = s.nAsk ∧
    ((step cfg env s).phase = .loadblockindex ∧ (step cfg env s).nGoto = s.nGoto + 1 ∧
        s.pass.upgradeOnceOnly ∧ ¬ (step cfg env s).pass.upgradeOnceOnly ∨
      (step cfg env s).phase ≠ .loadblockindex ∧ (step cfg env s).phase ≠ .whileTop ∧
        (step cfg env s).nGoto = s.nGoto ∧
        ((step cfg env s).pass.upgradeOnceOnly → s.pass.upgradeOnceOnly)) := by
  simp only [step, hs]
  split
  next p hp => exact ⟨rfl, rfl, rfl, .inr ⟨by simp, by simp, rfl, (neverSets_pass cfg env).imp hp⟩⟩
  next p hp => exact ⟨rfl, rfl, rfl, .inl ⟨rfl, rfl, pass_jumps cfg env hp⟩⟩
  next e p hp =>
    have hu := (neverSets_pass cfg env).imp hp
    simpa using hu

/-- A step after a failed attempt: `return InitError(strLoadError)` when the attempt began
    with `fReindex`, and otherwise the recovery question, whose approval alone starts
    another attempt, with `fReindex` set. -/
theorem step_failed (hs : s.phase = .failed) :
    step cfg env s =
      if s.fReset then { s with phase := .returned }
      else if env.answer s.nAsk = some true then
        { s with nAsk := s.nAsk + 1, pass := { s.pass with fReindex := true }, phase := .whileTop }
      else { s with nAsk := s.nAsk + 1, phase := .returned } := by
  simp only [step, hs]

theorem step_of_isDone (hs : s.phase.isDone) : step cfg env s = s := by
  unfold step
  split <;> simp_all [Phase.isDone]

theorem run_of_isDone (hs : s.phase.isDone) (n : Nat) : run cfg env n s = s := by
  induction n with
  | zero => rfl
  | succ n ih => rw [run, step_of_isDone cfg env hs, ih]

section Termination

private theorem toNat_le_of_imp {a b : Bool} (h : a → b) : a.toNat ≤ b.toNat := by
  cases a <;> cases b <;> simp_all

/-- The steps left after a failed attempt: one for `return InitError(...)`, or the question
    and one more attempt begun with `fReindex`. -/
def failureBound (fReset upgradeOnceOnly : Bool) : Nat :=
  if fReset then 1 else 4 + upgradeOnceOnly.toNat

private theorem failureBound_mono (fReset : Bool) {u u' : Bool} (h : u' → u) :
    failureBound fReset u' ≤ failureBound fReset u := by
  have := toNat_le_of_imp h
  unfold failureBound
  split <;> omega

/-- An upper bound on the steps the loop has left: an attempt jumps back at most once while
    `upgradeOnceOnly` is set, and only an attempt begun without `fReindex` can be followed by
    another. -/
def stepsLeft (s : LoopState) : Nat :=
  match s.phase with
  | .whileTop => 2 + s.pass.upgradeOnceOnly.toNat +
      failureBound s.pass.fReindex s.pass.upgradeOnceOnly
  | .loadblockindex => 1 + s.pass.upgradeOnceOnly.toNat +
      failureBound s.fReset s.pass.upgradeOnceOnly
  | .failed => failureBound s.fReset s.pass.upgradeOnceOnly
  | .loaded | .returned => 0

private theorem stepsLeft_of_whileTop (h : s.phase = .whileTop) :
    stepsLeft s = 2 + s.pass.upgradeOnceOnly.toNat +
      failureBound s.pass.fReindex s.pass.upgradeOnceOnly := by
  simp [stepsLeft, h]

private theorem stepsLeft_of_loadblockindex (h : s.phase = .loadblockindex) :
    stepsLeft s = 1 + s.pass.upgradeOnceOnly.toNat +
      failureBound s.fReset s.pass.upgradeOnceOnly := by
  simp [stepsLeft, h]

private theorem stepsLeft_le_of_ne_whileTop (h : s.phase ≠ .whileTop) :
    stepsLeft s ≤ 1 + s.pass.upgradeOnceOnly.toNat + failureBound s.fReset s.pass.upgradeOnceOnly := by
  unfold stepsLeft
  split <;> simp_all

private theorem stepsLeft_le_of_ne_loadblockindex (h : s.phase ≠ .whileTop)
    (h' : s.phase ≠ .loadblockindex) :
    stepsLeft s ≤ failureBound s.fReset s.pass.upgradeOnceOnly := by
  unfold stepsLeft
  split <;> simp_all

/-- Every step of a loop that has not ended lowers `stepsLeft`. -/
theorem stepsLeft_step_lt (hs : s.phase.isDone = false) :
    stepsLeft (step cfg env s) < stepsLeft s := by
  rcases hph : s.phase with _ | _ | _ | _ | _
  case whileTop =>
    obtain ⟨hR, -, -, -, hu, hne⟩ := step_whileTop cfg env hph
    have h₁ := toNat_le_of_imp hu
    have h₂ := failureBound_mono s.pass.fReindex hu
    have h₃ := stepsLeft_le_of_ne_whileTop hne
    rw [hR] at h₃
    rw [stepsLeft_of_whileTop hph]
    omega
  case loadblockindex =>
    obtain ⟨hR, -, -, ⟨hph', -, hu, hu'⟩ | ⟨hne, hne', -, hu⟩⟩ :=
      step_loadblockindex cfg env hph
    · have h₂ := failureBound_mono s.fReset (u := true) (by simp : false → true)
      rw [stepsLeft_of_loadblockindex hph, stepsLeft_of_loadblockindex hph', hR, hu,
        Bool.eq_false_iff.mpr hu']
      simp only [Bool.toNat_true, Bool.toNat_false]
      omega
    · have h₁ := toNat_le_of_imp hu
      have h₂ := failureBound_mono s.fReset hu
      have h₃ := stepsLeft_le_of_ne_loadblockindex hne' hne
      rw [hR] at h₃
      rw [stepsLeft_of_loadblockindex hph]
      omega
  case failed =>
    have hS : stepsLeft s = failureBound s.fReset s.pass.upgradeOnceOnly := by simp [stepsLeft, hph]
    rw [step_failed cfg env hph, hS]
    cases hR : s.fReset
    · simp only [Bool.false_eq_true, if_false, failureBound]
      split <;> simp only [stepsLeft, failureBound, if_true] <;> omega
    · simp [stepsLeft, failureBound]
  all_goals simp [Phase.isDone, hph] at hs

/-- From any state the loop ends within `stepsLeft` steps. -/
theorem run_isDone : ∀ n, stepsLeft s ≤ n → (run cfg env n s).phase.isDone := by
  intro n
  induction n generalizing s with
  | zero =>
    intro h
    cases hd : s.phase.isDone
    · exact absurd h (by have := stepsLeft_step_lt cfg env hd; omega)
    · simpa [run] using hd
  | succ n ih =>
    intro h
    cases hd : s.phase.isDone
    · exact ih (by have := stepsLeft_step_lt cfg env hd; omega)
    · rw [run_of_isDone cfg env hd]; exact hd

end Termination

section Counters

/-- The attempts begun and the questions asked, by where the loop is: before the question
    only the first attempt, and after it only an attempt begun with `fReindex`. -/
def attemptsOk (s : LoopState) : Prop :=
  match s.phase with
  | .whileTop => s.nAttempt = 0 ∧ s.nAsk = 0 ∨ s.nAttempt = 1 ∧ s.nAsk = 1 ∧ s.pass.fReindex
  | .loadblockindex | .failed =>
    s.nAttempt = 1 ∧ s.nAsk = 0 ∨ s.nAttempt = 2 ∧ s.nAsk = 1 ∧ s.fReset
  | .loaded | .returned => s.nAttempt ≤ 2 ∧ s.nAsk ≤ 1

/-- What holds of every state the loop reaches from `LoopState.init`. -/
structure Counted (s : LoopState) : Prop where
  /-- a jump back uses up `upgradeOnceOnly` -/
  goto : s.nGoto + s.pass.upgradeOnceOnly.toNat ≤ 1
  attempts : attemptsOk s

theorem attemptsOk.bounds (h : attemptsOk s) : s.nAttempt ≤ 2 ∧ s.nAsk ≤ 1 := by
  unfold attemptsOk at h
  split at h <;> omega

theorem counted_init (fReindex : Bool) : Counted (LoopState.init fReindex) :=
  ⟨by cases fReindex <;> decide, .inl ⟨rfl, rfl⟩⟩

theorem Counted.step (h : Counted s) : Counted (step cfg env s) := by
  obtain ⟨hgoto, hatt⟩ := h
  rcases hph : s.phase with _ | _ | _ | _ | _
  case whileTop =>
    obtain ⟨hR, hA, hQ, hG, hu, hne⟩ := step_whileTop cfg env hph
    have := toNat_le_of_imp hu
    refine ⟨by omega, ?_⟩
    simp only [attemptsOk, hph] at hatt
    unfold attemptsOk
    split <;> rcases hatt with ⟨h₁, h₂⟩ | ⟨h₁, h₂, h₃⟩ <;> simp_all
  case loadblockindex =>
    obtain ⟨hR, hA, hQ, ⟨hph', hG, hu, hu'⟩ | ⟨hne, hne', hG, hu⟩⟩ :=
      step_loadblockindex cfg env hph
    · simp only [hu, Bool.toNat_true] at hgoto
      refine ⟨by simp [hG, Bool.eq_false_iff.mpr hu']; omega, ?_⟩
      simp only [attemptsOk, hph] at hatt
      simp only [attemptsOk, hph', hR, hA, hQ]
      exact hatt
    · have := toNat_le_of_imp hu
      refine ⟨by omega, ?_⟩
      simp only [attemptsOk, hph] at hatt
      unfold attemptsOk
      split <;> rcases hatt with ⟨h₁, h₂⟩ | ⟨h₁, h₂, h₃⟩ <;> simp_all
  case failed =>
    simp only [attemptsOk, hph] at hatt
    rw [step_failed cfg env hph]
    refine ⟨?_, ?_⟩
    · split
      · exact hgoto
      · split <;> exact hgoto
    · split
      · simp only [attemptsOk]; omega
      · split <;> simp_all [attemptsOk]
  all_goals rw [step_of_isDone cfg env (by simp [Phase.isDone, hph])]; exact ⟨hgoto, hatt⟩

theorem Counted.run (h : Counted s) (n : Nat) : Counted (run cfg env n s) := by
  induction n generalizing s with
  | zero => exact h
  | succ n ih => exact ih (h.step cfg env)

end Counters

/-- Only the recovery question moves `nAsk`, and it is asked only after an attempt that
    began without `fReindex` failed. -/
theorem step_nAsk (h : (step cfg env s).nAsk ≠ s.nAsk) : s.phase = .failed ∧ s.fReset = false := by
  rcases hph : s.phase with _ | _ | _ | _ | _
  case whileTop => exact absurd (step_whileTop cfg env hph).2.2.1 h
  case loadblockindex => exact absurd (step_loadblockindex cfg env hph).2.2.1 h
  case failed =>
    rw [step_failed cfg env hph] at h
    cases hR : s.fReset
    · exact ⟨rfl, rfl⟩
    · simp [hR] at h
  all_goals rw [step_of_isDone cfg env (by simp [Phase.isDone, hph])] at h; exact absurd rfl h

/-- AppInitMain's block-loading loop, for every outcome of every external step and every
    answer to the question: it has ended after eight steps; it never begins more than two
    attempts, jumps back to `loadblockindex` more than once, or asks more than one question;
    it asks only after a failed attempt that began without `fReindex`; and after a declined
    question, or a failure in an attempt that began with `fReindex`, AppInitMain returns false
    and no attempt follows. -/
theorem loadLoop_bounded (cfg : LoadConfig) (env : Env) (fReindex : Bool) :
    (run cfg env 8 (LoopState.init fReindex)).phase.isDone ∧
    ∀ n, let s := run cfg env n (LoopState.init fReindex)
      s.nAttempt ≤ 2 ∧ s.nGoto ≤ 1 ∧ s.nAsk ≤ 1 ∧
      ((step cfg env s).nAsk ≠ s.nAsk → s.phase = .failed ∧ s.fReset = false) ∧
      (s.phase = .failed → (s.fReset = true ∨ env.answer s.nAsk ≠ some true) →
        (step cfg env s).phase = .returned ∧
        ∀ m, (run cfg env m (step cfg env s)).nAttempt = s.nAttempt) := by
  refine ⟨run_isDone cfg env 8 (by cases fReindex <;> decide), fun n => ?_⟩
  have hc := (counted_init fReindex).run cfg env n
  obtain ⟨hA, hQ⟩ := hc.attempts.bounds
  refine ⟨hA, by have := hc.goto; omega, hQ, step_nAsk cfg env, fun hph hend => ?_⟩
  have hret : (step cfg env (run cfg env n (LoopState.init fReindex))).phase = .returned ∧
      (step cfg env (run cfg env n (LoopState.init fReindex))).nAttempt =
        (run cfg env n (LoopState.init fReindex)).nAttempt := by
    rw [step_failed cfg env hph]
    rcases hend with hR | hno
    · simp [hR]
    · split <;> simp_all
  refine ⟨hret.1, fun m => ?_⟩
  rw [run_of_isDone cfg env (by simp [Phase.isDone, hret.1])]
  exact hret.2

end gulden.load_loop
