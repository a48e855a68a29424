import Mathlib.Data.List.Basic
import Mathlib.Data.Nat.Digits

namespace gulden

/-- The value a 64-bit two's-complement register holds after an operation whose exact
    result is `x`. -/
def wrap64 (x : Int) : Int := (x + 2 ^ 63) % 2 ^ 64 - 2 ^ 63

/-- The value a 32-bit `int` holds after a conversion or an operation whose exact
    result is `x`. -/
def wrap32 (x : Int) : Int := (x + 2 ^ 31) % 2 ^ 32 - 2 ^ 31

theorem wrap64_of_mem {x : Int} (hlo : -2 ^ 63 ≤ x) (hhi : x < 2 ^ 63) : wrap64 x = x := by
  unfold wrap64; omega

theorem wrap32_of_mem {x : Int} (hlo : -2 ^ 31 ≤ x) (hhi : x < 2 ^ 31) : wrap32 x = x := by
  unfold wrap32; omega

/-- A value of C++ `int64_t`. -/
@[ext] structure Int64 where
  val : Int
  ge_min : -2 ^ 63 ≤ val
  lt_max : val < 2 ^ 63
  deriving DecidableEq

/-- `int64_t` arithmetic: the exact result reduced to 64 bits. -/
def Int64.ofInt (x : Int) : Int64 :=
  ⟨wrap64 x, by unfold wrap64; omega, by unfold wrap64; omega⟩

@[simp] theorem Int64.ofInt_val (x : Int) : (Int64.ofInt x).val = wrap64 x := rfl

theorem Int64.ofInt_val_of_mem {x : Int} (hlo : -2 ^ 63 ≤ x) (hhi : x < 2 ^ 63) :
    (Int64.ofInt x).val = x :=
  wrap64_of_mem hlo hhi

/-- A value of C++ `int`. -/
@[ext] structure Int32 where
  val : Int
  ge_min : -2 ^ 31 ≤ val
  lt_max : val < 2 ^ 31
  deriving DecidableEq

/-- `int` arithmetic and conversions: the exact result reduced to 32 bits. -/
def Int32.ofInt (x : Int) : Int32 :=
  ⟨wrap32 x, by unfold wrap32; omega, by unfold wrap32; omega⟩

@[simp] theorem Int32.ofInt_val (x : Int) : (Int32.ofInt x).val = wrap32 x := rfl

/-- `isspace` in the C locale: blank, tab, newline, vertical tab, form feed, return. -/
def isSpace (c : Char) : Bool := c.toNat = 32 || (9 ≤ c.toNat && c.toNat ≤ 13)

/-- `isdigit` in the C locale. -/
def isDigit (c : Char) : Bool := 48 ≤ c.toNat && c.toNat ≤ 57

theorem isSpace_of_isDigit {c : Char} (h : isDigit c) : isSpace c = false := by
  simp only [isDigit, isSpace, Bool.and_eq_true, decide_eq_true_eq] at h ⊢
  simp only [Bool.or_eq_false_iff, Bool.and_eq_false_iff, decide_eq_false_iff_not]
  omega

/-- The value of the decimal digits at the front of `s`, read on top of `acc` as
    `strtol` reads them; the first other character ends the number. -/
def leadingDigits : List Char → Nat → Nat
  | [], acc => acc
  | c :: cs, acc => if isDigit c then leadingDigits cs (acc * 10 + (c.toNat - 48)) else acc

/-- The sign `strtol` reads after the leading blanks, and the text after it. -/
def signOf : List Char → Bool × List Char
  | '-' :: t => (true, t)
  | '+' :: t => (false, t)
  | t => (false, t)

/-- `strtoll(s, NULL, 10)`: leading blanks, an optional sign, decimal digits; a value
    outside `int64_t` saturates at `LLONG_MIN` or `LLONG_MAX`. -/
def strtoll (s : List Char) : Int :=
  let sign := signOf (s.dropWhile isSpace)
  let v : Int := leadingDigits sign.2 0
  max (-2 ^ 63) (min (if sign.1 then -v else v) (2 ^ 63 - 1))

theorem strtoll_mem (s : List Char) : -2 ^ 63 ≤ strtoll s ∧ strtoll s < 2 ^ 63 := by
  dsimp only [strtoll]; omega

/-- `atoi64(str)`, the reading `GetArg` makes of an integer argument. -/
def atoi64 (str : String) : Int64 :=
  ⟨strtoll str.data, (strtoll_mem _).1, (strtoll_mem _).2⟩

/-- `atoi(str)`: `strtol` converted to `int`. -/
def atoi (str : String) : Int := wrap32 (strtoll str.data)

/-- `i64tostr(n)`, i.e. `strprintf("%d", n)`. -/
def i64tostr (n : Int) : String := toString n

/-- `InterpretBool`: a flag given without a value is true, otherwise its `atoi` is
    tested against zero. -/
def InterpretBool (strValue : String) : Bool := strValue.isEmpty || atoi strValue != 0

theorem leadingDigits_append {l : List Char} (hl : ∀ c ∈ l, isDigit c) (r : List Char)
    (acc : Nat) : leadingDigits (l ++ r) acc = leadingDigits r (leadingDigits l acc) := by
  induction l generalizing acc with
  | nil => rfl
  | cons c cs ih =>
    simp only [List.mem_cons, forall_eq_or_imp] at hl
    show leadingDigits (c :: (cs ++ r)) acc = _
    simp only [leadingDigits, hl.1, if_true]
    exact ih hl.2 _

/-- The digits read on top of `acc` shift it left by their number. -/
theorem leadingDigits_acc {l : List Char} (hl : ∀ c ∈ l, isDigit c) (acc : Nat) :
    leadingDigits l acc = acc * 10 ^ l.length + leadingDigits l 0 := by
  induction l generalizing acc with
  | nil => simp [leadingDigits]
  | cons c cs ih =>
    simp only [List.mem_cons, forall_eq_or_imp] at hl
    simp only [leadingDigits, hl.1, if_true]
    rw [ih hl.2 (acc * 10 + _), ih hl.2 (0 * 10 + _), List.length_cons, pow_succ]
    ring

theorem leadingDigits_lt {l : List Char} (hl : ∀ c ∈ l, isDigit c) :
    leadingDigits l 0 < 10 ^ l.length := by
  induction l with
  | nil => simp [leadingDigits]
  | cons c cs ih =>
    simp only [List.mem_cons, forall_eq_or_imp] at hl
    have hc := hl.1
    simp only [isDigit, Bool.and_eq_true, decide_eq_true_eq] at hc
    have hd : (c.toNat - 48) * 10 ^ cs.length ≤ 9 * 10 ^ cs.length :=
      Nat.mul_le_mul_right _ (by omega)
    simp only [leadingDigits, hl.1, if_true]
    rw [leadingDigits_acc hl.2, Nat.zero_mul, Nat.zero_add, List.length_cons, pow_succ]
    have := ih hl.2
    omega

private theorem digitChar_isDigit {d : Nat} (hd : d < 10) : isDigit (Nat.digitChar d) := by
  interval_cases d <;> rfl

private theorem digitChar_value {d : Nat} (hd : d < 10) : (Nat.digitChar d).toNat - 48 = d := by
  interval_cases d <;> rfl

private theorem toDigitsCore_acc (f n : Nat) (acc : List Char) :
    Nat.toDigitsCore 10 f n acc = Nat.toDigitsCore 10 f n [] ++ acc := by
  induction f generalizing n acc with
  | zero => rfl
  | succ f ih =>
    simp only [Nat.toDigitsCore]
    split
    · rfl
    · rw [ih _ (_ :: acc), ih _ [_], List.append_assoc, List.singleton_append]

private theorem toDigitsCore_spec (f n : Nat) (hf : n < f) :
    (∀ c ∈ Nat.toDigitsCore 10 f n [], isDigit c) ∧
      leadingDigits (Nat.toDigitsCore 10 f n []) 0 = n ∧ Nat.toDigitsCore 10 f n [] ≠ [] := by
  induction f generalizing n with
  | zero => omega
  | succ f ih =>
    have hd : n % 10 < 10 := Nat.mod_lt _ (by decide)
    simp only [Nat.toDigitsCore]
    split
    · refine ⟨by simpa using digitChar_isDigit hd, ?_, by simp⟩
      simp only [leadingDigits, digitChar_isDigit hd, if_true, digitChar_value hd]
      omega
    · obtain ⟨hall, hval, -⟩ := ih (n / 10) (by omega)
      rw [toDigitsCore_acc]
      refine ⟨?_, ?_, by simp⟩
      · simpa [or_imp, forall_and] using ⟨hall, digitChar_isDigit hd⟩
      · simp only [leadingDigits_append hall, hval, leadingDigits, digitChar_isDigit hd,
          if_true, digitChar_value hd]
        omega

/-- The digits `%u` prints are decimal digits, and reading them back gives the number. -/
theorem toDigits_spec (n : Nat) :
    (∀ c ∈ Nat.toDigits 10 n, isDigit c) ∧ leadingDigits (Nat.toDigits 10 n) 0 = n ∧
      Nat.toDigits 10 n ≠ [] :=
  toDigitsCore_spec (n + 1) n (Nat.lt_succ_self n)

private theorem dropWhile_isSpace_of_digits {l : List Char} (hl : ∀ c ∈ l, isDigit c)
    (hne : l ≠ []) : l.dropWhile isSpace = l := by
  cases l with
  | nil => contradiction
  | cons c cs => simp [List.dropWhile, isSpace_of_isDigit (hl c (List.mem_cons_self c cs))]

private theorem signOf_of_digits {l : List Char} (hl : ∀ c ∈ l, isDigit c) (hne : l ≠ []) :
    signOf l = (false, l) := by
  cases l with
  | nil => contradiction
  | cons c cs =>
    have hc := hl c (List.mem_cons_self c cs)
    have hminus : c ≠ '-' := by rintro rfl; simp [isDigit] at hc
    have hplus : c ≠ '+' := by rintro rfl; simp [isDigit] at hc
    simp [signOf, hminus, hplus]

/-- `strtoll` of a run of digits is their value, saturated at `LLONG_MAX`. -/
theorem strtoll_of_digits {l : List Char} (hl : ∀ c ∈ l, isDigit c) (hne : l ≠ []) :
    strtoll l = min (leadingDigits l 0 : Int) (2 ^ 63 - 1) := by
  simp only [strtoll, dropWhile_isSpace_of_digits hl hne, signOf_of_digits hl hne,
    Bool.false_eq_true, ↓reduceIte]
  omega

/-- Reading back the text `i64tostr` prints gives the number. -/
theorem atoi64_i64tostr (v : Int64) : atoi64 (i64tostr v.val) = v := by
  obtain ⟨v, hlo, hhi⟩ := v
  ext
  cases v with
  | ofNat m =>
    obtain ⟨hall, hval, hne⟩ := toDigits_spec m
    change strtoll (Nat.toDigits 10 m) = m
    rw [strtoll_of_digits hall hne, hval]
    simp only [Int.ofNat_eq_coe] at hhi ⊢
    omega
  | negSucc m =>
    obtain ⟨-, hval, -⟩ := toDigits_spec (m + 1)
    change strtoll ('-' :: Nat.toDigits 10 (m + 1)) = Int.negSucc m
    rw [Int.negSucc_eq] at hlo ⊢
    simp [strtoll, List.dropWhile, signOf, hval, isSpace]
    omega

/-- The command line as `ArgsManager` keeps it: the last value of each argument that
    was set, and all the values of each repeatable one. -/
structure ArgsManager where
  mapArgs : String → Option String
  mapMultiArgs : String → List String

namespace ArgsManager

/-- No argument given. -/
def empty : ArgsManager := ⟨fun _ => none, fun _ => []⟩

def IsArgSet (a : ArgsManager) (strArg : String) : Bool := (a.mapArgs strArg).isSome

def GetArgs (a : ArgsManager) (strArg : String) : List String := a.mapMultiArgs strArg

def GetArg (a : ArgsManager) (strArg : String) (nDefault : Int64) : Int64 :=
  match a.mapArgs strArg with
  | some strValue => atoi64 strValue
  | none => nDefault

/-- `GetArg(strArg, strDefault)`, the overload for text values. -/
def GetArgStr (a : ArgsManager) (strArg strDefault : String) : String :=
  (a.mapArgs strArg).getD strDefault

def GetBoolArg (a : ArgsManager) (strArg : String) (fDefault : Bool) : Bool :=
  match a.mapArgs strArg with
  | some strValue => InterpretBool strValue
  | none => fDefault

def ForceSetArg (a : ArgsManager) (strArg strValue : String) : ArgsManager where
  mapArgs := Function.update a.mapArgs strArg (some strValue)
  mapMultiArgs := Function.update a.mapMultiArgs strArg [strValue]

/-- Modelled from the spec: a setting the user gave explicitly is left untouched;
    otherwise it takes `strValue`, and the answer says whether it did. -/
def SoftSetArg (a : ArgsManager) (strArg strValue : String) : Bool × ArgsManager :=
  if a.IsArgSet strArg then (false, a) else (true, a.ForceSetArg strArg strValue)

def SoftSetBoolArg (a : ArgsManager) (strArg : String) (fValue : Bool) : Bool × ArgsManager :=
  a.SoftSetArg strArg (if fValue then "1" else "0")

@[simp] theorem SoftSetArg_fst (a : ArgsManager) (strArg strValue : String) :
    (a.SoftSetArg strArg strValue).1 = !a.IsArgSet strArg := by
  unfold SoftSetArg; split <;> simp [*]

/-- A soft set touches only its own argument, and that one only when it was unset. -/
theorem SoftSetArg_mapArgs (a : ArgsManager) (strArg strValue name : String) :
    (a.SoftSetArg strArg strValue).2.mapArgs name =
      if name = strArg ∧ !a.IsArgSet strArg then some strValue else a.mapArgs name := by
  unfold SoftSetArg ForceSetArg
  by_cases hname : name = strArg
  · subst hname; split <;> simp_all
  · split <;> simp [hname]

@[simp] theorem SoftSetArg_IsArgSet (a : ArgsManager) (strArg strValue name : String) :
    (a.SoftSetArg strArg strValue).2.IsArgSet name = (a.IsArgSet name || name = strArg) := by
  unfold IsArgSet
  rw [SoftSetArg_mapArgs]
  by_cases hname : name = strArg
  · subst hname; cases h : (a.mapArgs name).isSome <;> simp_all [IsArgSet]
  · simp [hname]

theorem SoftSetArg_GetArgs (a : ArgsManager) (strArg strValue name : String)
    (hname : name ≠ strArg) : (a.SoftSetArg strArg strValue).2.GetArgs name = a.GetArgs name := by
  unfold SoftSetArg ForceSetArg GetArgs
  split <;> simp [hname]

end ArgsManager

end gulden
