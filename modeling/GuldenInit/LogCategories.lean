import GuldenInit.Util

namespace gulden.log_categories

/-- `BCLog::ALL`: every logging category. -/
def ALL : BitVec 32 := BitVec.allOnes 32

/-- `GetLogCategory(&flag, &str)`: the empty name is every category; any other name is
    looked up in the `LogCategories` table of flags and names, whose first entry of that
    name gives the flag. -/
def GetLogCategory (LogCategories : List (BitVec 32 × String)) (str : String) :
    Option (BitVec 32) :=
  if str = "" then some ALL else (LogCategories.find? (·.2 == str)).map (·.1)

/-- One pass of a loop over the names given to `optname`: an unknown name gives the warning
    `Unsupported logging category <optname>=<cat>.`, a known one changes `logCategories` by
    `update`. -/
def categoryStep (LogCategories : List (BitVec 32 × String)) (optname : String)
    (update : BitVec 32 → BitVec 32 → BitVec 32) (acc : BitVec 32 × List String)
    (cat : String) : BitVec 32 × List String :=
  match GetLogCategory LogCategories cat with
  | none => (acc.1, acc.2 ++ [s!"Unsupported logging category {optname}={cat}."])
  | some flag => (update acc.1 flag, acc.2)

/-- The loop over `-debug`: `logCategories |= flag`. -/
def debugStep (LogCategories : List (BitVec 32 × String)) :
    BitVec 32 × List String → String → BitVec 32 × List String :=
  categoryStep LogCategories "-debug" (· ||| ·)

/-- The loop over `-debugexclude`: `logCategories &= ~flag`. -/
def debugExcludeStep (LogCategories : List (BitVec 32 × String)) :
    BitVec 32 × List String → String → BitVec 32 × List String :=
  categoryStep LogCategories "-debugexclude" (fun m flag => m &&& ~~~flag)

/-- AppInitParameterInteraction, Step 3: the logging categories and the warnings, from
    `logCategories` and the warnings before it. `-debug=0` anywhere turns the `-debug`
    loop off; the excluded categories are removed after it. -/
def debugCategories (LogCategories : List (BitVec 32 × String)) (args : ArgsManager)
    (logCategories : BitVec 32) (warnings : List String) : BitVec 32 × List String :=
  let acc :=
    if args.IsArgSet "-debug" ∧ "0" ∉ args.GetArgs "-debug" then
      (args.GetArgs "-debug").foldl (debugStep LogCategories) (logCategories, warnings)
    else (logCategories, warnings)
  if args.IsArgSet "-debugexclude" then
    (args.GetArgs "-debugexclude").foldl (debugExcludeStep LogCategories) acc
  else acc

section Bulk

variable (LogCategories : List (BitVec 32 × String))

/-- The categories a list of names selects, unknown names aside. -/
def selected (cats : List String) : BitVec 32 :=
  cats.foldr (fun cat m => (GetLogCategory LogCategories cat).getD 0 ||| m) 0

/-- The warnings a loop over `optname` gives for a list of names: one per unknown name,
    in order. -/
def unknownWarnings (optname : String) (cats : List String) : List String :=
  (cats.filter fun cat => (GetLogCategory LogCategories cat).isNone).map
    fun cat => s!"Unsupported logging category {optname}={cat}."

/-- One pass of either loop: the flag of a known name (none for an unknown one) goes to
    `update`, and an unknown name gets its warning. -/
theorem categoryStep_eq (optname : String) {update : BitVec 32 → BitVec 32 → BitVec 32}
    (hupdate : ∀ m, update m 0 = m) (m : BitVec 32) (w : List String) (cat : String) :
    categoryStep LogCategories optname update (m, w) cat =
      (update m ((GetLogCategory LogCategories cat).getD 0),
        w ++ unknownWarnings LogCategories optname [cat]) := by
  rcases hcat : GetLogCategory LogCategories cat with _ | flag
  · simp [categoryStep, hcat, unknownWarnings]
    exact (hupdate m).symm
  · simp [categoryStep, hcat, unknownWarnings]

private theorem and_not_zero (m : BitVec 32) : m &&& ~~~(0 : BitVec 32) = m := by
  ext i
  simp only [BitVec.getLsbD_and, BitVec.getLsbD_not, BitVec.ofNat_eq_ofNat, BitVec.getLsbD_zero,
    i.isLt, decide_True, Bool.not_false, Bool.and_true]

private theorem and_not_and_not (m a b : BitVec 32) : m &&& ~~~a &&& ~~~b = m &&& ~~~(a ||| b) := by
  ext i
  simp only [BitVec.getLsbD_and, BitVec.getLsbD_not, BitVec.getLsbD_or]
  cases m.getLsbD i <;> cases a.getLsbD i <;> cases b.getLsbD i <;> simp

theorem foldl_debugStep (cats : List String) (m : BitVec 32) (w : List String) :
    cats.foldl (debugStep LogCategories) (m, w) =
      (m ||| selected LogCategories cats, w ++ unknownWarnings LogCategories "-debug" cats) := by
  induction cats generalizing m w with
  | nil => simp [selected, unknownWarnings]
  | cons cat cats ih =>
    rw [List.foldl_cons, debugStep, categoryStep_eq _ _ (fun _ => BitVec.or_zero), ← debugStep, ih]
    simp only [selected, unknownWarnings, List.foldr_cons, BitVec.or_assoc, List.append_assoc,
      ← List.map_append, ← List.filter_append, List.singleton_append]

theorem foldl_debugExcludeStep (cats : List String) (m : BitVec 32) (w : List String) :
    cats.foldl (debugExcludeStep LogCategories) (m, w) =
      (m &&& ~~~selected LogCategories cats,
        w ++ unknownWarnings LogCategories "-debugexclude" cats) := by
  induction cats generalizing m w with
  | nil =>
    simp only [List.foldl_nil, selected, List.foldr_nil, and_not_zero, unknownWarnings,
      List.filter_nil, List.map_nil, List.append_nil]
  | cons cat cats ih =>
    rw [List.foldl_cons, debugExcludeStep, categoryStep_eq _ _ and_not_zero, ← debugExcludeStep, ih]
    simp only [selected, unknownWarnings, List.foldr_cons, and_not_and_not, List.append_assoc,
      ← List.map_append, ← List.filter_append, List.singleton_append]

/-- Step 3 as one formula: the categories before, with those `-debug` selects unless it
    names `0`, less every category `-debugexclude` selects; the warnings name the unknown
    categories of `-debug` (unless it names `0`), then those of `-debugexclude`, in order.
    The order of the names within each option does not matter. -/
theorem debugCategories_eq (args : ArgsManager) (logCategories : BitVec 32)
    (warnings : List String) :
    debugCategories LogCategories args logCategories warnings =
      let fDebug := args.IsArgSet "-debug" ∧ "0" ∉ args.GetArgs "-debug"
      let fExclude := args.IsArgSet "-debugexclude"
      ((logCategories ||| (if fDebug then selected LogCategories (args.GetArgs "-debug") else 0))
          &&& ~~~(if fExclude then selected LogCategories (args.GetArgs "-debugexclude") else 0),
        warnings ++ (if fDebug then unknownWarnings LogCategories "-debug" (args.GetArgs "-debug")
          else []) ++ (if fExclude then
            unknownWarnings LogCategories "-debugexclude" (args.GetArgs "-debugexclude")
          else [])) := by
  have hor : logCategories ||| (0 : BitVec 32) = logCategories := BitVec.or_zero
  unfold debugCategories
  by_cases hd : args.IsArgSet "-debug" ∧ "0" ∉ args.GetArgs "-debug" <;>
    by_cases he : args.IsArgSet "-debugexclude"
  · simp only [if_pos hd, if_pos he, foldl_debugStep, foldl_debugExcludeStep, List.append_assoc]
  · simp only [if_pos hd, if_neg he, foldl_debugStep, and_not_zero, List.append_nil]
  · simp only [if_neg hd, if_pos he, foldl_debugExcludeStep, hor, List.append_nil, List.nil_append]
  · simp only [if_neg hd, if_neg he, hor, and_not_zero, List.append_nil]

example : debugCategories [(1#32, "net"), (2#32, "tor")]
      ⟨fun s => if s = "-debug" ∨ s = "-debugexclude" then some "" else none,
        fun s => if s = "-debug" then ["net", "tor", "bogus"]
          else if s = "-debugexclude" then ["net"] else []⟩ 0 [] =
    (2#32, ["Unsupported logging category -debug=bogus."]) := by
  decide

end Bulk

end gulden.log_categories
