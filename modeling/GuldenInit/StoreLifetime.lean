import GuldenInit.LoadPass

namespace gulden.store_lifetime

open stores load_loop

/-- The stores between two statements of the loop, where the slots of `D` were deleted and
    not yet assigned again: no fault so far; every slot outside `D` refers to a live object
    that no other slot outside `D` refers to; and every object created that no slot outside
    `D` refers to has been released exactly once. -/
structure Tidy (D : Slot → Bool) (st : Stores) : Prop where
  faults : st.faults = []
  slot_lt : ∀ sl o, st.slot sl = some o → o < st.next
  owned_live : ∀ sl o, D sl = false → st.slot sl = some o → (st.heap o).releases = 0
  owner_unique : ∀ sl sl' o, D sl = false → D sl' = false → st.slot sl = some o →
    st.slot sl' = some o → sl = sl'
  unowned_released : ∀ o < st.next, (∀ sl, D sl = false → st.slot sl ≠ some o) →
    (st.heap o).releases = 1

section Tidy

variable {D : Slot → Bool} {st : Stores} (sl : Slot)

omit sl in
theorem Tidy.of_eq {D' : Slot → Bool} (h : Tidy D st) (hD : ∀ x, D x = D' x) : Tidy D' st :=
  funext hD ▸ h

private theorem of_update_true {x : Slot} (h : Function.update D sl true x = false) :
    x ≠ sl ∧ D x = false := by
  by_cases e : x = sl
  · subst e; simp at h
  · exact ⟨e, by rwa [Function.update_noteq e] at h⟩

theorem Tidy.isLive (h : Tidy D st) (hsl : D sl = false) {o : Nat} (ho : st.slot sl = some o) :
    st.isLive o := by
  simp [Stores.isLive, h.slot_lt sl o ho, h.owned_live sl o hsl ho]

/-- `delete p` on a slot that owns its object: the slot joins `D`. -/
theorem Tidy.delete (h : Tidy D st) (hsl : D sl = false) :
    Tidy (Function.update D sl true) (st.delete sl) := by
  cases ho : st.slot sl with
  | none =>
    rw [Stores.delete_of_none _ _ ho]
    refine ⟨h.faults, h.slot_lt, fun sl' o hD => h.owned_live sl' o (of_update_true _ hD).2,
      fun a b o ha hb => h.owner_unique a b o (of_update_true _ ha).2 (of_update_true _ hb).2,
      fun o ho' hno => h.unowned_released o ho' fun sl' hD' => ?_⟩
    by_cases e : sl' = sl
    · subst e; simp [ho]
    · exact hno sl' (by rwa [Function.update_noteq e])
  | some o =>
    rw [Stores.delete_of_slot _ _ ho, if_pos (h.isLive sl hsl ho)]
    refine ⟨h.faults, h.slot_lt, fun sl' o' hD' hso' => ?_,
      fun a b o' ha hb => h.owner_unique a b o' (of_update_true _ ha).2 (of_update_true _ hb).2,
      fun o' ho' hno => ?_⟩
    · obtain ⟨hne, hD''⟩ := of_update_true _ hD'
      have ho'o : o' ≠ o := fun e => hne (h.owner_unique sl' sl o hD'' hsl (e ▸ hso') ho)
      simpa [Function.update_noteq ho'o] using h.owned_live sl' o' hD'' hso'
    · dsimp only at ho' hno ⊢
      by_cases e : o' = o
      · subst e; simp [h.owned_live sl _ hsl ho]
      · rw [Function.update_noteq e]
        refine h.unowned_released o' ho' fun sl' hD' => ?_
        by_cases e' : sl' = sl
        · subst e'; rw [ho]; exact fun h' => e (Option.some.inj h').symm
        · exact hno sl' (by rwa [Function.update_noteq e'])

/-- `p = new T(...)` on a slot of `D`, or a null one: the slot leaves `D`. -/
theorem Tidy.alloc (h : Tidy D st) (hsl : D sl = true ∨ st.slot sl = none) :
    Tidy (Function.update D sl false) (st.alloc sl) := by
  refine ⟨h.faults, fun sl' o hso => ?_, fun sl' o hD hso => ?_,
    fun a b o ha hb hsa hsb => ?_, fun o ho hno => ?_⟩
  · simp only [Stores.alloc_slot, Stores.alloc_next] at hso ⊢
    by_cases e : sl' = sl
    · subst e; simp at hso; omega
    · rw [Function.update_noteq e] at hso; exact Nat.lt_succ_of_lt (h.slot_lt sl' o hso)
  · simp only [Stores.alloc_slot, Stores.alloc_heap] at hso ⊢
    by_cases e : sl' = sl
    · subst e
      simp only [Function.update_same, Option.some.injEq] at hso
      subst hso; simp
    · rw [Function.update_noteq e] at hso hD
      have := h.slot_lt sl' o hso
      rw [Function.update_noteq (by omega)]
      exact h.owned_live sl' o hD hso
  · simp only [Stores.alloc_slot] at hsa hsb
    by_cases ea : a = sl <;> by_cases eb : b = sl
    · rw [ea, eb]
    · subst ea; simp at hsa; rw [Function.update_noteq eb] at hsb
      have := h.slot_lt b o hsb; omega
    · subst eb; simp at hsb; rw [Function.update_noteq ea] at hsa
      have := h.slot_lt a o hsa; omega
    · rw [Function.update_noteq ea] at hsa ha
      rw [Function.update_noteq eb] at hsb hb
      exact h.owner_unique a b o ha hb hsa hsb
  · simp only [Stores.alloc_next, Stores.alloc_slot, Stores.alloc_heap] at ho hno ⊢
    by_cases e : o = st.next
    · exact absurd (by simp [e]) (hno sl (by simp))
    · rw [Function.update_noteq e]
      refine h.unowned_released o (by omega) fun sl' hD' hso' => ?_
      by_cases e' : sl' = sl
      · subst e'
        rcases hsl with hD | hn
        · rw [hD] at hD'; cases hD'
        · rw [hn] at hso'; cases hso'
      · exact hno sl' (by rwa [Function.update_noteq e']) (by rwa [Function.update_noteq e'])

/-- `p = NULL` on a slot of `D`, or a null one. -/
theorem Tidy.clear (h : Tidy D st) (hsl : D sl = true ∨ st.slot sl = none) :
    Tidy (Function.update D sl false) (st.clear sl) := by
  refine ⟨h.faults, fun sl' o hso => ?_, fun sl' o hD hso => ?_,
    fun a b o ha hb hsa hsb => ?_, fun o ho hno => ?_⟩
  · simp only [Stores.clear_slot, Stores.clear_next] at hso ⊢
    by_cases e : sl' = sl
    · subst e; simp at hso
    · rw [Function.update_noteq e] at hso; exact h.slot_lt sl' o hso
  · simp only [Stores.clear_slot, Stores.clear_heap] at hso ⊢
    by_cases e : sl' = sl
    · subst e; simp at hso
    · rw [Function.update_noteq e] at hso hD; exact h.owned_live sl' o hD hso
  · simp only [Stores.clear_slot] at hsa hsb
    by_cases ea : a = sl
    · subst ea; simp at hsa
    by_cases eb : b = sl
    · subst eb; simp at hsb
    rw [Function.update_noteq ea] at hsa ha
    rw [Function.update_noteq eb] at hsb hb
    exact h.owner_unique a b o ha hb hsa hsb
  · simp only [Stores.clear_next, Stores.clear_slot, Stores.clear_heap] at ho hno ⊢
    refine h.unowned_released o ho fun sl' hD' hso' => ?_
    by_cases e' : sl' = sl
    · subst e'
      rcases hsl with hD | hn
      · rw [hD] at hD'; cases hD'
      · rw [hn] at hso'; cases hso'
    · exact hno sl' (by rwa [Function.update_noteq e']) (by rwa [Function.update_noteq e'])

/-- `p = nullptr` on an owning `shared_ptr`, or `delete p; p = NULL`, on a slot that owns its
    object. -/
theorem Tidy.reset (h : Tidy D st) (hsl : D sl = false) : Tidy D (st.reset sl) := by
  have : Tidy (Function.update (Function.update D sl true) sl false) (st.reset sl) :=
    (h.delete sl hsl).clear sl (.inl (by simp))
  rwa [Function.update_idem, Function.update_eq_self_iff.mpr hsl.symm] at this

/-- A call through a slot that owns its object changes nothing. -/
theorem Tidy.use_eq (h : Tidy D st) (hsl : D sl = false) : st.use sl = st := by
  cases ho : st.slot sl with
  | none => simp [Stores.use, ho]
  | some o => exact st.use_of_isLive sl ho (h.isLive sl hsl ho)

/-- Setting an object's sibling link keeps every release count. -/
theorem Tidy.link (h : Tidy D st) (t : Nat) (w : Option Nat) :
    Tidy D { st with heap := Function.update st.heap t { st.heap t with sibling := w } } := by
  have hrel : ∀ o, (Function.update st.heap t { st.heap t with sibling := w } o).releases =
      (st.heap o).releases := by
    intro o
    by_cases e : o = t
    · subst e; simp
    · rw [Function.update_noteq e]
  exact ⟨h.faults, h.slot_lt, fun sl o hD hso => (hrel o).trans (h.owned_live sl o hD hso),
    h.owner_unique, fun o ho hno => (hrel o).trans (h.unowned_released o ho hno)⟩

end Tidy

/-- `pcoinsTip`, when set, is linked by `SetSiblingView` to the object `ppow2witTip` holds. -/
def Linked (st : Stores) : Prop :=
  ∀ t, st.slot .pcoinsTip = some t → ∃ w, st.slot .ppow2witTip = some w ∧ (st.heap t).sibling = some w

/-- The stores as the statements of AppInitMain and CoreShutdown expect them: every pointer
    refers to a live object that no other pointer refers to, every other object created was
    released exactly once, no fault so far, and the coins cache is linked to the witness
    cache. -/
structure Kept (st : Stores) : Prop where
  tidy : Tidy (fun _ => false) st
  linked : Linked st

theorem kept_empty : Kept Stores.empty :=
  ⟨⟨rfl, fun _ _ h => (nomatch h), fun _ _ _ h => (nomatch h), fun _ _ _ _ _ h => (nomatch h),
    fun _ h => absurd h (Nat.not_lt_zero _)⟩, fun _ h => (nomatch h)⟩

theorem Kept.use (h : Kept st) : Kept (st.use .pcoinsTip) := by
  rwa [h.tidy.use_eq .pcoinsTip rfl]

section Opened

/-- The stores once `openStores` has rebuilt every pointer, no constructor throwing. -/
def rebuilt (st : Stores) : Stores :=
  st.delete .pcoinsTip |>.delete .pcoinsdbview |>.delete .pcoinscatcher |>.delete .pblocktree
    |>.alloc .pblocktree |>.alloc .pcoinsdbview |>.alloc .pcoinscatcher |>.alloc .pcoinsTip
    |>.delete .ppow2witdbview |>.delete .ppow2witcatcher |>.reset .ppow2witTip
    |>.alloc .ppow2witdbview |>.alloc .ppow2witcatcher |>.alloc .ppow2witTip

/-- The stores `openStores` leaves when no constructor throws. -/
def opened (st : Stores) : Stores := (rebuilt st).setSiblingView

variable {st : Stores}

theorem rebuilt_slot_pcoinsTip : (rebuilt st).slot .pcoinsTip = some (st.next + 3) := by
  simp [rebuilt, Function.update_apply]

theorem rebuilt_slot_ppow2witTip : (rebuilt st).slot .ppow2witTip = some (st.next + 6) := by
  simp [rebuilt, Function.update_apply]

/-- Every pointer is deleted before it is assigned again, and `ppow2witTip` is null when it
    is. -/
theorem Tidy.rebuilt (h : Tidy (fun _ => false) st) : Tidy (fun _ => false) (rebuilt st) := by
  have h₁₁ := ((((((((((h.delete .pcoinsTip rfl).delete .pcoinsdbview rfl).delete .pcoinscatcher
    rfl).delete .pblocktree rfl).alloc .pblocktree (.inl rfl)).alloc .pcoinsdbview
    (.inl rfl)).alloc .pcoinscatcher (.inl rfl)).alloc .pcoinsTip (.inl rfl)).delete
    .ppow2witdbview rfl).delete .ppow2witcatcher rfl).reset .ppow2witTip rfl
  have h₁₄ := ((h₁₁.alloc .ppow2witdbview (.inl rfl)).alloc .ppow2witcatcher (.inl rfl)).alloc
    .ppow2witTip (.inr (by simp [Function.update_apply]))
  exact h₁₄.of_eq fun x => by cases x <;> rfl

theorem kept_opened (h : Kept st) : Kept (opened st) := by
  have ht := h.tidy.rebuilt
  rw [opened, Stores.setSiblingView_of_slot _ (ht.use_eq .pcoinsTip rfl) rebuilt_slot_pcoinsTip]
  refine ⟨ht.link _ _, fun t htip => ⟨st.next + 6, rebuilt_slot_ppow2witTip, ?_⟩⟩
  rw [rebuilt_slot_pcoinsTip, Option.some.injEq] at htip
  subst htip
  simp [rebuilt_slot_ppow2witTip]

theorem openStores_run' {env : Env} (hctor : ∀ n, env.ctorThrows n = false) (s : PassState) :
    (openStores env).run' s = (.ok (), { s with nCtor := s.nCtor + 3, stores := opened s.stores }) := by
  simp [openStores, construct, onStores, opened, rebuilt, LoadM.run'_bind, hctor]

end Opened

/-- CoreShutdown's close block on kept stores: no fault, and every object created is
    released exactly once. -/
theorem kept_closeCoinDatabases (h : Kept st) :
    (closeCoinDatabases st).faults = [] ∧
      ∀ o < st.next, ((closeCoinDatabases st).heap o).releases = 1 := by
  have hclose : closeCoinDatabases st = deleteCoinDatabases st := by
    simp [closeCoinDatabases, h.tidy.use_eq .pcoinsTip rfl]
  have ht : Tidy (fun _ => false) (deleteCoinDatabases st) :=
    ((((((h.tidy.reset .pcoinsTip rfl).reset .pcoinscatcher rfl).reset .pcoinsdbview rfl).reset
      .ppow2witTip rfl).reset .ppow2witcatcher rfl).reset .ppow2witdbview rfl).reset .pblocktree rfl
  rw [hclose]
  exact ⟨ht.faults, fun o ho => ht.unowned_released o (by simpa using ho) fun sl _ => by simp⟩

/-- When no store constructor throws, the stores are kept over every run of the block-loading
    loop, from any value of `-reindex` and whatever the external steps reply: each pointer
    refers to a live object no other pointer refers to, each other object created was released
    exactly once, nothing was used or released after its release, and `pcoinsTip`, when set,
    is linked to the object `ppow2witTip` holds. CoreShutdown's close block then releases
    every object created exactly once, without a fault. -/
theorem loadLoop_stores_kept (cfg : LoadConfig) (env : Env) (fReindex : Bool)
    (hctor : ∀ n, env.ctorThrows n = false) (n : Nat) :
    Kept (run cfg env n (LoopState.init fReindex)).pass.stores ∧
      (closeCoinDatabases (run cfg env n (LoopState.init fReindex)).pass.stores).faults = [] ∧
      ∀ o < (run cfg env n (LoopState.init fReindex)).pass.stores.next,
        ((closeCoinDatabases (run cfg env n (LoopState.init fReindex)).pass.stores).heap o).releases
          = 1 := by
  have hP : Framed fun s => Kept s.stores := framed_of_stores fun _ h => h.use
  have hopen : Preserves (fun s => Kept s.stores) (openStores env) := fun s hs => by
    rw [openStores_run' hctor]
    exact kept_opened hs
  have hk : Kept (run cfg env n (LoopState.init fReindex)).pass.stores :=
    hP.run_pass cfg env hopen kept_empty n
  exact ⟨hk, kept_closeCoinDatabases hk⟩

/-- Attempt 1 opens every store and `CVerifyDB::VerifyDB` reports a corrupted database; the
    reindex is approved, and attempt 2 opens every store again. -/
def storesOpenEnv : Env where
  ctorThrows _ := false
  reply n := if n = 4 then .ret false else .ret true
  read _ := false
  answer _ := some true

theorem loadLoop_stores_kept_storesOpenEnv :
    (∀ n, storesOpenEnv.ctorThrows n = false) ∧
      Kept (run ⟨false, false⟩ storesOpenEnv 8 (LoopState.init false)).pass.stores ∧
      (closeCoinDatabases (run ⟨false, false⟩ storesOpenEnv 8 (LoopState.init false)).pass.stores).faults
        = [] ∧
      ∀ o < (run ⟨false, false⟩ storesOpenEnv 8 (LoopState.init false)).pass.stores.next,
        ((closeCoinDatabases
          (run ⟨false, false⟩ storesOpenEnv 8 (LoopState.init false)).pass.stores).heap o).releases = 1 :=
  ⟨fun _ => rfl, loadLoop_stores_kept ⟨false, false⟩ storesOpenEnv false (fun _ => rfl) 8⟩

/-- Attempt 1 opens every store and `CVerifyDB::VerifyDB`, the fifth external call, reports
    a corrupted database; the reindex is approved; in attempt 2 `CBlockTreeDB`, the fourth
    store constructor, throws. -/
def reindexRetryEnv : Env where
  ctorThrows n := n == 3
  reply n := if n = 4 then .ret false else .ret true
  read _ := false
  answer _ := some true

/-- A first attempt under `-reindex` in which `CWitViewDB`, the third store constructor,
    throws. -/
def witViewThrowsEnv : Env where
  ctorThrows n := n == 2
  reply _ := .ret true
  read _ := false
  answer _ := none

/-- Two runs of the block-loading loop followed by CoreShutdown's close block. In the first,
    attempt 2 has deleted attempt 1's block tree, coins view, catcher and coins cache when
    `CBlockTreeDB` throws; AppInitMain returns false with the pointers still referring to
    them, and CoreShutdown flushes through the released `pcoinsTip` and releases each of the
    four a second time. In the second, AppInitMain returns with a live `pcoinsTip` and a null
    `ppow2witTip`. -/
theorem loadLoop_store_faults (cfg : LoadConfig) :
    let s := run cfg reindexRetryEnv 8 (LoopState.init false)
    let st := closeCoinDatabases s.pass.stores
    s.phase = .returned ∧
    st.faults = [.useReleased .pcoinsTip 3, .releaseReleased .pcoinsTip 3,
      .releaseReleased .pcoinscatcher 2, .releaseReleased .pcoinsdbview 1,
      .releaseReleased .pblocktree 0] ∧
    (∀ o < 4, (st.heap o).releases = 2) ∧
    let s' := run cfg witViewThrowsEnv 8 (LoopState.init true)
    s'.phase = .returned ∧ s'.pass.stores.slot .pcoinsTip = some 3 ∧
    s'.pass.stores.isLive 3 ∧ s'.pass.stores.slot .ppow2witTip = none := by
  obtain ⟨_ | _, _ | _⟩ := cfg <;> decide

end gulden.store_lifetime
