import GuldenInit.LoadLoop

namespace gulden.load_loop

open stores

/-- `x` keeps `P`, however it ends: the `catch` and the loop see the state a raised
    exception leaves, so an early exit has to keep `P` too. -/
def Preserves {α : Type} (P : PassState → Prop) (x : LoadM α) : Prop :=
  ∀ s, P s → P (x.run' s).2

section Preserves

variable {α β : Type} {P : PassState → Prop}

theorem preserves_bind {x : LoadM α} {f : α → LoadM β} (hx : Preserves P x)
    (hf : ∀ a, Preserves P (f a)) : Preserves P (x >>= f) := by
  intro s hs
  have h₁ := hx s hs
  rw [LoadM.run'_bind]
  revert h₁
  rcases x.run' s with ⟨_ | a, s₁⟩
  · exact id
  · exact hf a s₁

theorem preserves_pure (a : α) : Preserves P (pure a : LoadM α) := fun _ => id

theorem preserves_throw (e : Exit) : Preserves P (throw e : LoadM α) := fun _ => id

theorem preserves_get : Preserves P (get : LoadM PassState) := fun _ => id

theorem preserves_modify {f : PassState → PassState} (hf : ∀ s, P s → P (f s)) :
    Preserves P (modify f : LoadM PUnit) :=
  hf

theorem preserves_ite (c : Prop) [Decidable c] {x y : LoadM α} (hx : Preserves P x)
    (hy : Preserves P y) : Preserves P (if c then x else y) := by
  split
  · exact hx
  · exact hy

/-- Read off a run that ended in `s'`. -/
theorem Preserves.of_run' {x : LoadM α} (hx : Preserves P x) {s s' : PassState}
    {r : Except Exit α} (h : x.run' s = (r, s')) (hs : P s) : P s' := by
  simpa [h] using hx s hs

end Preserves

/-- What the primitives of the `try` block other than the store constructors must keep for
    `P` to hold across the block: the counters of external calls and reads, `strLoadError`,
    `fReindex = true`, `upgradeOnceOnly = false`, and the flush through `pcoinsTip`. -/
structure Framed (P : PassState → Prop) : Prop where
  call : ∀ s, P s → P { s with nCall := s.nCall + 1 }
  read : ∀ s, P s → P { s with nRead := s.nRead + 1 }
  error : ∀ s msg, P s → P { s with strLoadError := msg }
  reindex : ∀ s, P s → P { s with fReindex := true }
  clearUpgrade : ∀ s, P s → P { s with upgradeOnceOnly := false }
  useTip : ∀ s, P s → P { s with stores := s.stores.use .pcoinsTip }

/-- A property of the stores alone is framed once the flush through `pcoinsTip` keeps it. -/
theorem framed_of_stores {Q : Stores → Prop} (huse : ∀ st, Q st → Q (st.use .pcoinsTip)) :
    Framed fun s => Q s.stores :=
  ⟨fun _ => id, fun _ => id, fun _ _ => id, fun _ => id, fun _ => id, fun _ => huse _⟩

section Primitives

variable {P : PassState → Prop} (hP : Framed P) (env : Env)
include hP

theorem preserves_call : Preserves P (call env) := by
  intro s hs
  simp only [call, LoadM.run'_bind, LoadM.run'_get, LoadM.run'_set]
  split <;> exact hP.call s hs

theorem preserves_callIgnore : Preserves P (callIgnore env) :=
  preserves_bind (preserves_call hP env) fun _ => preserves_pure _

theorem preserves_readState : Preserves P (readState env) :=
  fun s hs => hP.read s hs

theorem preserves_fail {α : Type} (msg : String) : Preserves P (fail msg : LoadM α) :=
  preserves_bind (preserves_modify fun s => hP.error s msg) fun _ => preserves_throw _

theorem preserves_require (ok : Bool) (msg : String) : Preserves P (require ok msg) :=
  preserves_ite _ (preserves_pure _) (preserves_fail hP _)

omit hP in
/-- A store constructor keeps `P` when counting it and the assignment of the new store do. -/
theorem preserves_construct (sl : Slot) (hctor : ∀ s, P s → P { s with nCtor := s.nCtor + 1 })
    (halloc : ∀ s, P s → P { s with stores := s.stores.alloc sl }) :
    Preserves P (construct env sl) := by
  intro s hs
  simp only [construct, LoadM.run'_bind, LoadM.run'_get, LoadM.run'_set]
  split
  · exact hctor s hs
  · exact halloc _ (hctor s hs)

omit hP in
theorem preserves_onStores (f : Stores → Stores) (hf : ∀ s, P s → P { s with stores := f s.stores }) :
    Preserves P (onStores f) :=
  preserves_modify hf

omit hP in
theorem preserves_initErrorIf (c : Bool) (msg : String) : Preserves P (initErrorIf c msg) :=
  preserves_ite _ (preserves_throw _) (preserves_pure _)

end Primitives

section Pass

variable {P : PassState → Prop} (hP : Framed P) (cfg : LoadConfig) (env : Env)
include hP

theorem preserves_prepare : Preserves P (prepare cfg env) := by
  unfold prepare
  repeat' first
    | with_reducible refine preserves_bind ?_ fun _ => ?_
    | refine preserves_ite _ ?_ ?_
  all_goals first
    | with_reducible exact preserves_fail hP _
    | with_reducible exact preserves_get
    | with_reducible exact preserves_pure _
    | with_reducible exact preserves_call hP env
    | with_reducible exact preserves_callIgnore hP env

theorem preserves_upgradeOnce {cond : LoadM Bool} {body : LoadM Unit}
    (hcond : Preserves P cond) (hbody : Preserves P body) :
    Preserves P (upgradeOnce cond body) := by
  unfold upgradeOnce
  refine preserves_bind preserves_get fun _ => preserves_ite _ ?_ (preserves_pure _)
  refine preserves_bind hcond fun _ => preserves_ite _ ?_ (preserves_pure _)
  exact preserves_bind (preserves_modify hP.clearUpgrade) fun _ =>
    preserves_bind hbody fun _ => preserves_pure _

theorem preserves_eraseBlockIndex : Preserves P (eraseBlockIndex env) :=
  preserves_bind (preserves_callIgnore hP env) fun _ =>
    preserves_bind (preserves_modify hP.reindex) fun _ => preserves_callIgnore hP env

theorem preserves_upgradeOrErase : Preserves P (upgradeOrErase cfg env) := by
  unfold upgradeOrErase
  repeat' first
    | with_reducible refine preserves_bind ?_ fun _ => ?_
    | refine preserves_ite _ ?_ ?_
  all_goals first
    | with_reducible exact preserves_pure _
    | with_reducible exact preserves_call hP env
    | with_reducible exact preserves_callIgnore hP env
    | with_reducible exact preserves_onStores _ hP.useTip
    | with_reducible exact preserves_eraseBlockIndex hP env

theorem preserves_rewindBlockIndex : Preserves P (rewindBlockIndex env) :=
  preserves_bind preserves_get fun _ => preserves_ite _
    (preserves_bind (preserves_readState hP env) fun _ => preserves_ite _
      (preserves_bind (preserves_call hP env) fun _ => preserves_require hP _ _)
      (preserves_pure _))
    (preserves_pure _)

theorem preserves_verifyLoaded : Preserves P (verifyLoaded cfg env) := by
  unfold verifyLoaded
  repeat' with_reducible refine preserves_bind ?_ fun _ => ?_
  all_goals first
    | with_reducible exact preserves_require hP _ _
    | with_reducible exact preserves_initErrorIf _ _
    | with_reducible exact preserves_rewindBlockIndex hP env
    | with_reducible exact preserves_call hP env
    | with_reducible exact preserves_readState hP env

theorem preserves_loadAndVerify : Preserves P (loadAndVerify cfg env) :=
  preserves_bind (preserves_call hP env) fun _ => preserves_bind (preserves_require hP _ _) fun _ =>
    preserves_bind (preserves_upgradeOnce hP (preserves_readState hP env)
      (preserves_upgradeOrErase hP cfg env)) fun _ =>
    preserves_ite _ (preserves_pure _)
      (preserves_bind (preserves_verifyLoaded hP cfg env) fun _ => preserves_pure _)

/-- The whole `try` block keeps a framed property that opening the stores keeps. -/
theorem preserves_pass (hopen : Preserves P (openStores env)) : Preserves P (pass cfg env) :=
  preserves_bind hopen fun _ =>
    preserves_bind (preserves_prepare hP cfg env) fun _ =>
      preserves_bind (preserves_upgradeOnce hP
          (preserves_bind (preserves_readState hP env) fun _ => preserves_pure _)
          (preserves_eraseBlockIndex hP env)) fun _ =>
        preserves_ite _ (preserves_pure _) (preserves_loadAndVerify hP cfg env)

end Pass

section Loop

variable {P : PassState → Prop} (hP : Framed P) (cfg : LoadConfig) (env : Env)
  (hopen : Preserves P (openStores env))
include hP hopen

/-- One step of the loop keeps a framed property of the `try` block's state. -/
theorem Framed.step_pass {s : LoopState} (hs : P s.pass) : P (step cfg env s).pass := by
  have hleave : ∀ t e p, P p → P (leaveTry t e p).pass := by
    rintro t (_ | _ | _) p hp
    · exact hp
    · exact hP.error p _ hp
    · exact hp
  unfold step
  split
  · have hs' := hP.error _ "" hs
    dsimp only
    split
    next p hp => exact (preserves_call hP env).of_run' hp hs'
    next e p hp => exact hleave _ e p ((preserves_call hP env).of_run' hp hs')
  · have hpass := preserves_pass hP cfg env hopen
    split
    next p hp => exact hpass.of_run' hp hs
    next p hp => exact hpass.of_run' hp hs
    next e p hp => exact hleave _ e p (hpass.of_run' hp hs)
  · split
    · exact hs
    · split
      · exact hP.reindex _ hs
      · exact hs
  · exact hs
  · exact hs

theorem Framed.run_pass {s : LoopState} (hs : P s.pass) (n : Nat) : P (run cfg env n s).pass := by
  induction n generalizing s with
  | zero => exact hs
  | succ n ih => exact ih (hP.step_pass cfg env hopen hs)

end Loop

/-- `x` never sets `upgradeOnceOnly`, however it ends. -/
def NeverSets {α : Type} (x : LoadM α) : Prop :=
  Preserves (fun s => s.upgradeOnceOnly = false) x

theorem framed_neverSets : Framed fun s => s.upgradeOnceOnly = false :=
  ⟨fun _ => id, fun _ => id, fun _ _ => id, fun _ => id, fun _ _ => rfl, fun _ => id⟩

/-- Read off a run that ended in `s'`: a set `upgradeOnceOnly` was set before. -/
theorem NeverSets.imp {α : Type} {x : LoadM α} (hx : NeverSets x) {s s' : PassState}
    {r : Except Exit α} (h : x.run' s = (r, s')) : s'.upgradeOnceOnly → s.upgradeOnceOnly := by
  intro hu
  by_contra hs
  simpa [hu] using hx.of_run' h (by simpa using hs)

section NeverSets

variable (cfg : LoadConfig) (env : Env)

theorem neverSets_openStores : NeverSets (openStores env) := by
  unfold NeverSets openStores
  repeat' with_reducible refine preserves_bind ?_ fun _ => ?_
  all_goals first
    | with_reducible exact preserves_onStores _ fun _ => id
    | with_reducible exact preserves_construct env _ (fun _ => id) fun _ => id

theorem neverSets_pass : NeverSets (pass cfg env) :=
  preserves_pass framed_neverSets cfg env (neverSets_openStores env)

/-- An upgrade block jumps back only when it found `upgradeOnceOnly` set, and leaves it
    cleared. -/
theorem upgradeOnce_jumps {cond : LoadM Bool} {body : LoadM Unit} (hbody : NeverSets body)
    {s s' : PassState} (h : (upgradeOnce cond body).run' s = (.ok true, s')) :
    s.upgradeOnceOnly ∧ ¬ s'.upgradeOnceOnly := by
  simp only [upgradeOnce, LoadM.run'_bind, LoadM.run'_get] at h
  split at h
  · refine ⟨‹_›, ?_⟩
    obtain ⟨c, s₁, -, h⟩ := LoadM.run'_bind_ok h
    split at h
    · obtain ⟨_, s₂, h₂, h⟩ := LoadM.run'_bind_ok h
      obtain ⟨_, s₃, h₃, h⟩ := LoadM.run'_bind_ok h
      have hs₂ : s₂ = { s₁ with upgradeOnceOnly := false } := (Prod.ext_iff.mp h₂).2.symm
      have hs' : s' = s₃ := (Prod.ext_iff.mp h).2.symm
      simpa [hs'] using hbody.of_run' h₃ (by simp [hs₂])
    · simp at h
  · simp at h

/-- The `try` block jumps back to `loadblockindex` only when it found `upgradeOnceOnly`
    set, and leaves it cleared. -/
theorem pass_jumps {s s' : PassState} (h : (pass cfg env).run' s = (.ok .loadblockindex, s')) :
    s.upgradeOnceOnly ∧ ¬ s'.upgradeOnceOnly := by
  have hP := framed_neverSets
  obtain ⟨_, s₁, h₁, h⟩ := LoadM.run'_bind_ok h
  obtain ⟨_, s₂, h₂, h⟩ := LoadM.run'_bind_ok h
  obtain ⟨b, s₃, h₃, h⟩ := LoadM.run'_bind_ok h
  have hs₂ : s₂.upgradeOnceOnly → s.upgradeOnceOnly := fun hu =>
    NeverSets.imp (neverSets_openStores env) h₁ (NeverSets.imp (preserves_prepare hP cfg env) h₂ hu)
  cases b
  case true =>
    have hs' : s' = s₃ := (Prod.ext_iff.mp h).2.symm
    obtain ⟨hu, hu'⟩ := upgradeOnce_jumps (preserves_eraseBlockIndex hP env) h₃
    exact ⟨hs₂ hu, hs' ▸ hu'⟩
  case false =>
    obtain ⟨_, s₄, h₄, h⟩ := LoadM.run'_bind_ok h
    obtain ⟨_, s₅, h₅, h⟩ := LoadM.run'_bind_ok h
    obtain ⟨c, s₆, h₆, h⟩ := LoadM.run'_bind_ok h
    have hs₅ : s₅.upgradeOnceOnly → s.upgradeOnceOnly := fun hu =>
      hs₂ (NeverSets.imp (preserves_upgradeOnce hP (preserves_bind (preserves_readState hP env)
          fun _ => preserves_pure _) (preserves_eraseBlockIndex hP env)) h₃
        (NeverSets.imp (preserves_call hP env) h₄ (NeverSets.imp (preserves_require hP _ _) h₅ hu)))
    cases c
    case false =>
      obtain ⟨_, s₇, -, h⟩ := LoadM.run'_bind_ok h
      cases (Prod.ext_iff.mp h).1
    case true =>
      have hs' : s' = s₆ := (Prod.ext_iff.mp h).2.symm
      obtain ⟨hu, hu'⟩ := upgradeOnce_jumps (preserves_upgradeOrErase hP cfg env) h₆
      exact ⟨hs₅ hu, hs' ▸ hu'⟩

end NeverSets

end gulden.load_loop
