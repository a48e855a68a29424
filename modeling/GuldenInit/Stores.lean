import Mathlib.Logic.Function.Basic

namespace gulden.stores

/-- The seven global store pointers that AppInitMain's block-loading loop sets up and
    CoreShutdown tears down. -/
inductive Slot
  | pblocktree
  | pcoinsdbview
  | pcoinscatcher
  | pcoinsTip
  | ppow2witdbview
  | ppow2witcatcher
  | ppow2witTip
  deriving DecidableEq, Repr

/-- A store object: how often an owner has let go of it (a `delete`, or the reset of the
    `shared_ptr` that owns it), and the witness cache a coins cache was linked to by
    `SetSiblingView`. The link is recorded as a reference: `CCoinsViewCache` is not part
    of the modelled sources, so the witness cache is taken to be released when
    `ppow2witTip` lets go of it. -/
structure Obj where
  releases : Nat
  sibling : Option Nat
  deriving DecidableEq, Repr

/-- The undefined behaviour the model records instead of performing it. -/
inductive Fault
  /-- a `delete` (or `shared_ptr` reset) through `slot` of an object already released -/
  | releaseReleased (slot : Slot) (obj : Nat)
  /-- a call (`FlushStateToDisk`, `SetSiblingView`) through `slot` whose object is released -/
  | useReleased (slot : Slot) (obj : Nat)
  deriving DecidableEq, Repr

/-- The store pointers, the heap of store objects (created at `0, 1, …, next - 1`), and
    the faults so far. -/
structure Stores where
  slot : Slot → Option Nat
  heap : Nat → Obj
  next : Nat
  faults : List Fault

namespace Stores

/-- The globals before AppInitMain runs: every pointer null, nothing created. -/
def empty : Stores := ⟨fun _ => none, fun _ => ⟨0, none⟩, 0, []⟩

/-- Object `o` has been created and not yet released. -/
def isLive (st : Stores) (o : Nat) : Bool := o < st.next && (st.heap o).releases == 0

/-- `delete p`: the object `p` refers to is released; `p` keeps its value. Releasing an
    object that is already released is recorded as a fault. -/
def delete (st : Stores) (sl : Slot) : Stores :=
  match st.slot sl with
  | none => st
  | some o =>
    { st with
      heap := Function.update st.heap o { st.heap o with releases := (st.heap o).releases + 1 }
      faults := if st.isLive o then st.faults else st.faults ++ [.releaseReleased sl o] }

/-- `p = NULL`. -/
def clear (st : Stores) (sl : Slot) : Stores :=
  { st with slot := Function.update st.slot sl none }

/-- `p = nullptr` on the owning `shared_ptr`, and CoreShutdown's `delete p; p = NULL`. -/
def reset (st : Stores) (sl : Slot) : Stores := (st.delete sl).clear sl

/-- `p = new T(...)` once the constructor has returned. -/
def alloc (st : Stores) (sl : Slot) : Stores :=
  { st with
    slot := Function.update st.slot sl (some st.next)
    heap := Function.update st.heap st.next ⟨0, none⟩
    next := st.next + 1 }

/-- A call through `p`: a fault when `p` refers to a released object. -/
def use (st : Stores) (sl : Slot) : Stores :=
  match st.slot sl with
  | some o => if st.isLive o then st else { st with faults := st.faults ++ [.useReleased sl o] }
  | none => st

/-- `pcoinsTip->SetSiblingView(ppow2witTip)`. -/
def setSiblingView (st : Stores) : Stores :=
  let st := st.use .pcoinsTip
  match st.slot .pcoinsTip with
  | some o =>
    { st with heap := Function.update st.heap o { st.heap o with sibling := st.slot .ppow2witTip } }
  | none => st

section Lemmas

variable (st : Stores) (sl : Slot)

@[simp] theorem delete_slot : (st.delete sl).slot = st.slot := by
  unfold delete; split <;> rfl

@[simp] theorem delete_next : (st.delete sl).next = st.next := by
  unfold delete; split <;> rfl

theorem delete_of_slot {o : Nat} (h : st.slot sl = some o) :
    st.delete sl = { st with
      heap := Function.update st.heap o { st.heap o with releases := (st.heap o).releases + 1 }
      faults := if st.isLive o then st.faults else st.faults ++ [.releaseReleased sl o] } := by
  simp [delete, h]

theorem delete_of_none (h : st.slot sl = none) : st.delete sl = st := by
  simp [delete, h]

@[simp] theorem clear_slot : (st.clear sl).slot = Function.update st.slot sl none := rfl

@[simp] theorem clear_heap : (st.clear sl).heap = st.heap := rfl

@[simp] theorem clear_next : (st.clear sl).next = st.next := rfl

@[simp] theorem clear_faults : (st.clear sl).faults = st.faults := rfl

@[simp] theorem alloc_slot : (st.alloc sl).slot = Function.update st.slot sl (some st.next) := rfl

@[simp] theorem alloc_heap : (st.alloc sl).heap = Function.update st.heap st.next ⟨0, none⟩ := rfl

@[simp] theorem alloc_next : (st.alloc sl).next = st.next + 1 := rfl

@[simp] theorem alloc_faults : (st.alloc sl).faults = st.faults := rfl

@[simp] theorem reset_slot : (st.reset sl).slot = Function.update st.slot sl none := by
  simp [reset]

@[simp] theorem reset_next : (st.reset sl).next = st.next := by
  simp [reset]

@[simp] theorem use_slot : (st.use sl).slot = st.slot := by
  unfold use; split <;> (try split) <;> rfl

@[simp] theorem use_next : (st.use sl).next = st.next := by
  unfold use; split <;> (try split) <;> rfl

theorem use_of_isLive {o : Nat} (h : st.slot sl = some o) (hlive : st.isLive o) : st.use sl = st := by
  simp [use, h, hlive]

/-- Once the flush through `pcoinsTip` is harmless, `SetSiblingView` only links the coins
    cache to whatever `ppow2witTip` holds. -/
theorem setSiblingView_of_slot {t : Nat} (hu : st.use .pcoinsTip = st)
    (ht : st.slot .pcoinsTip = some t) :
    st.setSiblingView =
      { st with heap := Function.update st.heap t { st.heap t with sibling := st.slot .ppow2witTip } } := by
  simp [setSiblingView, hu, ht]

end Lemmas

end Stores

/-- The rest of CoreShutdown's "close coin databases" block, after the flush: every store
    pointer deleted (or reset) and nulled. `CloseBlockFiles` touches no store pointer. -/
def deleteCoinDatabases (st : Stores) : Stores :=
  st.reset .pcoinsTip |>.reset .pcoinscatcher |>.reset .pcoinsdbview |>.reset .ppow2witTip
    |>.reset .ppow2witcatcher |>.reset .ppow2witdbview |>.reset .pblocktree

@[simp] theorem deleteCoinDatabases_slot (st : Stores) (sl : Slot) :
    (deleteCoinDatabases st).slot sl = none := by
  cases sl <;> simp [deleteCoinDatabases, Function.update_apply]

@[simp] theorem deleteCoinDatabases_next (st : Stores) : (deleteCoinDatabases st).next = st.next := by
  simp [deleteCoinDatabases]

/-- CoreShutdown's "close coin databases" block: `FlushStateToDisk` when `pcoinsTip` is not
    null, then `deleteCoinDatabases`. -/
def closeCoinDatabases (st : Stores) : Stores :=
  deleteCoinDatabases (if (st.slot .pcoinsTip).isSome then st.use .pcoinsTip else st)

end gulden.stores
