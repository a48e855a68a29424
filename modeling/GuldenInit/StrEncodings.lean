import GuldenInit.Util

namespace gulden

/-- `boost::split(v, str, boost::is_any_of(sep))` with one separator character: the pieces
    between separators, empty ones included, so an empty string gives one empty piece. -/
def split (sep : Char) (str : String) : List String := (str.data.splitOn sep).map String.mk

/-- `ParsePrechecks`: not empty, no blank at either end, and no embedded NUL character
    (`str.size() != strlen(str.c_str())`). -/
def ParsePrechecks (str : List Char) : Bool :=
  match str.head?, str.getLast? with
  | some first, some last => !(isSpace first || isSpace last) && !str.contains (Char.ofNat 0)
  | _, _ => false

/-- `strtoll(str, &endp, 10)` with `errno`: the value (saturated, as `strtoll` returns it),
    the text from `endp` on, and whether `ERANGE` was set. With no digit after the blanks
    and the sign, no conversion is made and `endp` is the start of the string. -/
def strtollEnd (str : List Char) : Int × List Char × Bool :=
  let sign := signOf (str.dropWhile isSpace)
  let digits := sign.2.takeWhile isDigit
  if digits = [] then (0, str, false)
  else
    let v : Int := leadingDigits digits 0
    let n : Int := if sign.1 then -v else v
    (max (-2 ^ 63) (min n (2 ^ 63 - 1)), sign.2.dropWhile isDigit,
      decide (n < -2 ^ 63 ∨ 2 ^ 63 - 1 < n))

/-- `ParseInt64(str, &out)`: the value when the whole string is one decimal `int64_t`.
    The check of `n` against the `int64_t` limits always holds (`long long` is 64 bits). -/
def ParseInt64 (str : String) : Option Int64 :=
  if ParsePrechecks str.data then
    match strtollEnd str.data with
    | (n, endp, erange) => if endp = [] ∧ erange = false then some (Int64.ofInt n) else none
  else none

/-- `COIN`: the base units of one coin. -/
def COIN : Int := 100000000

/-- `CENT`. -/
def CENT : Int := 1000000

/-- The digits after the point in `ParseMoney`: each adds `nMult` times its value, and
    `nMult` falls tenfold from `CENT * 10`, so that at most eight are read. Returns `nUnits`
    and the text after the digits read. -/
def moneyFraction : List Char → Int → Int → Int × List Char
  | [], _, nUnits => (nUnits, [])
  | c :: cs, nMult, nUnits =>
    if isDigit c ∧ 0 < nMult then
      moneyFraction cs (nMult / 10) (nUnits + nMult * (c.toNat - 48 : Nat))
    else (nUnits, c :: cs)

/-- The main loop of `ParseMoney` over the text after the leading blanks: a digit goes to
    `strWhole`; a point reads the fraction and ends the loop; a blank ends it; any other
    character makes `ParseMoney` fail. Returns `strWhole`, `nUnits` and the text left. -/
def moneyLoop : List Char → List Char → Option (List Char × Int × List Char)
  | [], strWhole => some (strWhole, 0, [])
  | c :: cs, strWhole =>
    if c = '.' then
      let (nUnits, rest) := moneyFraction cs (CENT * 10) 0
      some (strWhole, nUnits, rest)
    else if isSpace c then some (strWhole, 0, c :: cs)
    else if !isDigit c then none
    else moneyLoop cs (strWhole ++ [c])

/-- `ParseMoney(str, nRet)`, which reads `str.c_str()`: the text ends at the first NUL. Only
    blanks may follow the number, the whole part has at most ten digits (against 63-bit
    overflow), and the amount is `nWhole * COIN + nUnits`. -/
def ParseMoney (str : String) : Option Int64 :=
  match moneyLoop ((str.data.takeWhile (· ≠ Char.ofNat 0)).dropWhile isSpace) [] with
  | none => none
  | some (strWhole, nUnits, rest) =>
    if !rest.all isSpace then none
    else if strWhole.length > 10 then none
    else if nUnits < 0 ∨ nUnits > COIN then none
    else some (Int64.ofInt ((atoi64 ⟨strWhole⟩).val * COIN + nUnits))

section Digits

theorem leadingDigits_takeWhile (l : List Char) (acc : Nat) :
    leadingDigits (l.takeWhile isDigit) acc = leadingDigits l acc := by
  induction l generalizing acc with
  | nil => rfl
  | cons c cs ih => by_cases hc : isDigit c <;> simp [leadingDigits, List.takeWhile_cons, hc, ih]

/-- The value of `strtollEnd` is the one `strtoll` (and so `atoi64`) reads. -/
theorem strtollEnd_fst (str : List Char) : (strtollEnd str).1 = strtoll str := by
  simp only [strtollEnd, strtoll]
  by_cases h : (signOf (str.dropWhile isSpace)).2.takeWhile isDigit = []
  · rw [if_pos h, ← leadingDigits_takeWhile, h]; simp [leadingDigits]
  · rw [if_neg h, leadingDigits_takeWhile]

/-- The text `i64tostr` prints: a minus for a negative value, then the decimal digits of
    its magnitude. -/
theorem i64tostr_data (v : Int) :
    (i64tostr v).data = (if v < 0 then ['-'] else []) ++ Nat.toDigits 10 v.natAbs := by
  cases v with
  | ofNat m => rfl
  | negSucc m => rw [if_pos (Int.negSucc_lt_zero m)]; rfl

end Digits

section Accepts

/-- What `ParseInt64` reads from a sign and digits: the signed value of the digits. -/
def signedValue (sign digits : List Char) : Int :=
  if sign = ['-'] then -(leadingDigits digits 0 : Int) else leadingDigits digits 0

private theorem ParsePrechecks_sign_digits {sign digits : List Char}
    (hsign : sign = [] ∨ sign = ['+'] ∨ sign = ['-']) (hne : digits ≠ [])
    (hall : ∀ c ∈ digits, isDigit c) : ParsePrechecks (sign ++ digits) := by
  obtain ⟨d, ds, rfl⟩ := List.exists_cons_of_ne_nil hne
  have hlast : (sign ++ d :: ds).getLast? = some ((d :: ds).getLast (List.cons_ne_nil d ds)) := by
    rw [List.getLast?_append_of_ne_nil _ (List.cons_ne_nil _ _), List.getLast?_eq_getLast]
  have hfirst : ∃ first, (sign ++ d :: ds).head? = some first ∧ isSpace first = false := by
    rcases hsign with rfl | rfl | rfl
    · exact ⟨d, rfl, isSpace_of_isDigit (hall d (List.mem_cons_self d ds))⟩
    · exact ⟨'+', rfl, by decide⟩
    · exact ⟨'-', rfl, by decide⟩
  have hnul : Char.ofNat 0 ∉ sign ++ d :: ds := by
    rw [List.mem_append, not_or]
    refine ⟨?_, fun h => absurd (hall _ h) (by decide)⟩
    rcases hsign with rfl | rfl | rfl <;> decide
  obtain ⟨first, hf, hfs⟩ := hfirst
  simp [ParsePrechecks, hf, hlast, hfs, hnul,
    isSpace_of_isDigit (hall _ (List.getLast_mem (List.cons_ne_nil d ds)))]

private theorem strtollEnd_sign_digits {sign digits : List Char}
    (hsign : sign = [] ∨ sign = ['+'] ∨ sign = ['-']) (hne : digits ≠ [])
    (hall : ∀ c ∈ digits, isDigit c) :
    strtollEnd (sign ++ digits) = (max (-2 ^ 63) (min (signedValue sign digits) (2 ^ 63 - 1)),
      [], decide (signedValue sign digits < -2 ^ 63 ∨ 2 ^ 63 - 1 < signedValue sign digits)) := by
  obtain ⟨d, ds, rfl⟩ := List.exists_cons_of_ne_nil hne
  have hd := hall d (List.mem_cons_self d ds)
  have htake : (d :: ds).takeWhile isDigit = d :: ds := List.takeWhile_eq_self_iff.2 hall
  have hdrop : (d :: ds).dropWhile isDigit = [] := List.dropWhile_eq_nil_iff.2 hall
  have hsignOf : signOf (sign ++ d :: ds) = (decide (sign = ['-']), d :: ds) := by
    have h1 : d ≠ '-' := by rintro rfl; simp [isDigit] at hd
    have h2 : d ≠ '+' := by rintro rfl; simp [isDigit] at hd
    rcases hsign with rfl | rfl | rfl <;> simp [signOf, h1, h2]
  have hblank : (sign ++ d :: ds).dropWhile isSpace = sign ++ d :: ds := by
    rcases hsign with rfl | rfl | rfl <;>
      simp [List.dropWhile_cons, isSpace_of_isDigit hd] <;> decide
  simp only [strtollEnd, hblank, hsignOf, htake, hdrop, List.cons_ne_nil, if_false, signedValue,
    decide_eq_true_eq]

private theorem signOf_spec (s : List Char) : ∃ sign, (sign = [] ∨ sign = ['+'] ∨ sign = ['-']) ∧
    s = sign ++ (signOf s).2 ∧ (signOf s).1 = decide (sign = ['-']) := by
  unfold signOf
  split
  · exact ⟨['-'], by simp⟩
  · exact ⟨['+'], by simp⟩
  · exact ⟨[], by simp⟩

private theorem form_of_strtollEnd {s : List Char} (hpre : ParsePrechecks s)
    (hend : (strtollEnd s).2.1 = []) : ∃ sign digits, (sign = [] ∨ sign = ['+'] ∨ sign = ['-']) ∧
      digits ≠ [] ∧ (∀ c ∈ digits, isDigit c) ∧ s = sign ++ digits := by
  obtain ⟨c, cs, rfl⟩ : ∃ c cs, s = c :: cs := by
    cases s with
    | nil => simp [ParsePrechecks] at hpre
    | cons c cs => exact ⟨c, cs, rfl⟩
  have hc : isSpace c = false := by
    simp only [ParsePrechecks, List.head?_cons] at hpre
    split at hpre <;> simp_all
  have hdrop : (c :: cs).dropWhile isSpace = c :: cs := by simp [List.dropWhile, hc]
  obtain ⟨sign, hsign, hs, -⟩ := signOf_spec (c :: cs)
  simp only [strtollEnd, hdrop] at hend
  by_cases hd : (signOf (c :: cs)).2.takeWhile isDigit = []
  · rw [if_pos hd] at hend
    exact absurd hend (List.cons_ne_nil c cs)
  · rw [if_neg hd] at hend
    dsimp only at hend
    refine ⟨sign, _, hsign, hd, fun _ h => List.mem_takeWhile_imp h, ?_⟩
    conv_lhs => rw [hs, ← List.takeWhile_append_dropWhile isDigit (signOf (c :: cs)).2]
    rw [hend, List.append_nil]

/-- An optional sign and digits whose value is an `int64_t` are read as that value. -/
theorem ParseInt64_of_sign_digits {str : String} {sign digits : List Char} {v : Int64}
    (hsign : sign = [] ∨ sign = ['+'] ∨ sign = ['-']) (hne : digits ≠ [])
    (hall : ∀ c ∈ digits, isDigit c) (hdata : str.data = sign ++ digits)
    (hv : v.val = signedValue sign digits) : ParseInt64 str = some v := by
  have hlo := v.ge_min
  have hhi := v.lt_max
  simp only [ParseInt64, hdata, ParsePrechecks_sign_digits hsign hne hall, if_true,
    strtollEnd_sign_digits hsign hne hall, ← hv]
  simp only [true_and, decide_eq_false_iff_not, not_or, not_lt]
  rw [if_pos ⟨hlo, by omega⟩]
  congr
  ext
  rw [Int64.ofInt_val_of_mem (by omega) (by omega)]
  omega

/-- What `ParseInt64` accepts: an optional sign, then one or more decimal digits, whose
    value is an `int64_t`; the value read is theirs. No blank, no other character and no
    out-of-range value is accepted. -/
theorem ParseInt64_eq_some_iff (str : String) (v : Int64) :
    ParseInt64 str = some v ↔ ∃ sign digits, (sign = [] ∨ sign = ['+'] ∨ sign = ['-']) ∧
      digits ≠ [] ∧ (∀ c ∈ digits, isDigit c) ∧ str.data = sign ++ digits ∧
      v.val = signedValue sign digits := by
  constructor
  · intro h
    have hpre : ParsePrechecks str.data := by
      by_contra hp
      simp [ParseInt64, hp] at h
    rcases hc : strtollEnd str.data with ⟨n, endp, erange⟩
    simp only [ParseInt64, if_pos hpre, hc] at h
    split_ifs at h with hok
    obtain ⟨sign, digits, hsign, hne, hall, hdata⟩ :=
      form_of_strtollEnd hpre (by rw [hc]; exact hok.1)
    rw [hdata, strtollEnd_sign_digits hsign hne hall] at hc
    simp only [Prod.mk.injEq] at hc
    obtain ⟨rfl, -, rfl⟩ := hc
    simp only [decide_eq_false_iff_not, not_or, not_lt] at hok
    refine ⟨sign, digits, hsign, hne, hall, hdata, ?_⟩
    cases h
    rw [Int64.ofInt_val_of_mem (by omega) (by omega)]
    omega
  · rintro ⟨sign, digits, hsign, hne, hall, hdata, hv⟩
    exact ParseInt64_of_sign_digits hsign hne hall hdata hv

/-- `ParseInt64` reads back every value `i64tostr` prints. -/
theorem ParseInt64_i64tostr (v : Int64) : ParseInt64 (i64tostr v.val) = some v := by
  obtain ⟨hall, hval, hne⟩ := toDigits_spec v.val.natAbs
  refine ParseInt64_of_sign_digits ?_ hne hall (i64tostr_data v.val) ?_
  · split_ifs <;> simp
  · simp only [signedValue, hval]
    by_cases hv : v.val < 0
    · rw [if_pos hv, if_pos rfl]; omega
    · rw [if_neg hv, if_neg (List.cons_ne_nil _ _).symm]; omega

/-- `i64tostr` prints only digits and a minus sign. -/
theorem mem_i64tostr {v : Int} {c : Char} (h : c ∈ (i64tostr v).data) : c = '-' ∨ isDigit c := by
  rw [i64tostr_data, List.mem_append] at h
  rcases h with h | h
  · split_ifs at h <;> simp_all
  · exact .inr ((toDigits_spec _).1 c h)

end Accepts

section Money

theorem moneyFraction_zero (cs : List Char) (u : Int) : moneyFraction cs 0 u = (u, cs) := by
  cases cs <;> simp [moneyFraction]

/-- `moneyFraction` with `nMult = 10 ^ k` reads the digits in front, at most `k + 1`. -/
theorem moneyFraction_eq (cs : List Char) (k : Nat) (u : Int) :
    let frac := (cs.takeWhile isDigit).take (k + 1)
    moneyFraction cs (10 ^ k) u =
      (u + (leadingDigits frac 0 : Int) * 10 ^ (k + 1 - frac.length), cs.drop frac.length) := by
  induction cs generalizing k u with
  | nil => simp [moneyFraction, leadingDigits]
  | cons c cs ih =>
    by_cases hc : isDigit c
    · have hd : leadingDigits [c] 0 = c.toNat - 48 := by simp [leadingDigits, hc]
      cases k with
      | zero =>
        simp only [moneyFraction, hc, pow_zero, zero_lt_one, and_self, if_true,
          moneyFraction_zero, List.takeWhile_cons, List.take_succ_cons, List.take_zero]
        simp [hd, moneyFraction_zero]
      | succ k =>
        have hten : (10 : Int) ^ (k + 1) / 10 = 10 ^ k := by
          rw [pow_succ, Int.mul_ediv_cancel _ (by decide)]
        simp only [moneyFraction, hc, true_and, pow_pos (by decide : (0 : Int) < 10), if_true,
          hten, ih, List.takeWhile_cons, List.take_succ_cons, List.length_cons, List.drop_succ_cons]
        set frac := (cs.takeWhile isDigit).take (k + 1)
        have hall : ∀ x ∈ frac, isDigit x := fun x hx => List.mem_takeWhile_imp (List.mem_of_mem_take hx)
        have hlen : frac.length ≤ k + 1 := List.length_take_le _ _
        have hpow : (10 : Int) ^ (k + 1) = 10 ^ frac.length * 10 ^ (k + 1 - frac.length) := by
          rw [← pow_add, Nat.add_sub_cancel' hlen]
        simp only [leadingDigits, hc, if_true, Nat.add_sub_add_right, Prod.mk.injEq, and_true]
        rw [leadingDigits_acc hall (0 * 10 + _)]
        push_cast
        rw [hpow]
        ring
    · simp [moneyFraction, hc, List.takeWhile_cons, leadingDigits]

/-- `moneyLoop` reads the digits in front into `strWhole`, then acts on what follows them. -/
theorem moneyLoop_eq (cs strWhole : List Char) :
    moneyLoop cs strWhole =
      match cs.dropWhile isDigit with
      | [] => some (strWhole ++ cs.takeWhile isDigit, 0, [])
      | c :: rest =>
        if c = '.' then
          some (strWhole ++ cs.takeWhile isDigit, (moneyFraction rest (CENT * 10) 0).1,
            (moneyFraction rest (CENT * 10) 0).2)
        else if isSpace c then some (strWhole ++ cs.takeWhile isDigit, 0, c :: rest)
        else none := by
  induction cs generalizing strWhole with
  | nil => simp [moneyLoop]
  | cons c cs ih =>
    by_cases hc : isDigit c
    · have hpoint : c ≠ '.' := by rintro rfl; exact absurd hc (by decide)
      simp only [moneyLoop, hpoint, isSpace_of_isDigit hc, hc, if_false, Bool.not_true,
        Bool.false_eq_true, ih, List.dropWhile_cons, List.takeWhile_cons, if_true,
        List.append_assoc, List.singleton_append]
    · by_cases hpoint : c = '.'
      · subst hpoint
        simp [moneyLoop, hc]
      · simp [moneyLoop, hc, hpoint]

private theorem not_isDigit_of_isSpace {c : Char} (h : isSpace c) : isDigit c = false := by
  cases hd : isDigit c
  · rfl
  · exact absurd h (by rw [isSpace_of_isDigit hd]; decide)

private theorem takeWhile_isDigit_of_blank {l : List Char} (h : ∀ c ∈ l, isSpace c) :
    l.takeWhile isDigit = [] := by
  cases l with
  | nil => rfl
  | cons c cs => simp [List.takeWhile_cons, not_isDigit_of_isSpace (h c (List.mem_cons_self _ _))]

private theorem dropWhile_isDigit_of_blank {l : List Char} (h : ∀ c ∈ l, isSpace c) :
    l.dropWhile isDigit = l := by
  cases l with
  | nil => rfl
  | cons c cs => simp [List.dropWhile_cons, not_isDigit_of_isSpace (h c (List.mem_cons_self _ _))]

private theorem atoi64_val_of_digits {whole : List Char} (hall : ∀ c ∈ whole, isDigit c)
    (hlen : whole.length ≤ 10) : (atoi64 ⟨whole⟩).val = leadingDigits whole 0 := by
  have hlt := leadingDigits_lt hall
  have hpow : (10 : Nat) ^ whole.length ≤ 10 ^ 10 := Nat.pow_le_pow_right (by decide) hlen
  rcases whole with _ | ⟨d, ds⟩
  · rfl
  · show strtoll _ = _
    rw [strtoll_of_digits hall (List.cons_ne_nil _ _)]
    omega

/-- The fraction digits are worth less than a coin. -/
private theorem fraction_lt {frac : List Char} (hall : ∀ c ∈ frac, isDigit c)
    (hlen : frac.length ≤ 8) : leadingDigits frac 0 * 10 ^ (8 - frac.length) < 10 ^ 8 := by
  calc leadingDigits frac 0 * 10 ^ (8 - frac.length)
      < 10 ^ frac.length * 10 ^ (8 - frac.length) :=
        Nat.mul_lt_mul_of_pos_right (leadingDigits_lt hall) (by positivity)
    _ = 10 ^ 8 := by rw [← pow_add, Nat.add_sub_cancel' hlen]

/-- The amount `ParseMoney` makes of whole and fraction digits. -/
private theorem money_val {whole frac : List Char} (hw : ∀ c ∈ whole, isDigit c)
    (hwl : whole.length ≤ 10) (hf : ∀ c ∈ frac, isDigit c) (hfl : frac.length ≤ 8) :
    (Int64.ofInt ((atoi64 ⟨whole⟩).val * COIN +
        (leadingDigits frac 0 : Int) * 10 ^ (8 - frac.length))).val =
      leadingDigits whole 0 * COIN + leadingDigits frac 0 * 10 ^ (8 - frac.length) := by
  have hwlt := leadingDigits_lt hw
  have hpow : (10 : Nat) ^ whole.length ≤ 10 ^ 10 := Nat.pow_le_pow_right (by decide) hwl
  have hflt := fraction_lt hf hfl
  have hflt' : (leadingDigits frac 0 : Int) * 10 ^ (8 - frac.length) < 10 ^ 8 := by exact_mod_cast hflt
  have hfpos : 0 ≤ (leadingDigits frac 0 : Int) * 10 ^ (8 - frac.length) := by positivity
  rw [atoi64_val_of_digits hw hwl, Int64.ofInt_val_of_mem] <;> unfold COIN <;> omega

/-- What `moneyLoop` reads when only blanks are left after it: digits, then nothing or a
    point with at most eight digits, then the blanks; `nUnits` is the fraction in
    hundred-millionths of a coin. -/
theorem moneyLoop_eq_some_iff {p whole trail : List Char} {u : Int} :
    moneyLoop p [] = some (whole, u, trail) ∧ (∀ c ∈ trail, isSpace c) ↔ ∃ tail frac,
      (∀ c ∈ whole ++ frac, isDigit c) ∧ (∀ c ∈ trail, isSpace c) ∧ frac.length ≤ 8 ∧
      (tail = [] ∧ frac = [] ∨ tail = '.' :: frac) ∧ p = whole ++ tail ++ trail ∧
      u = leadingDigits frac 0 * 10 ^ (8 - frac.length) := by
  have hcent : CENT * 10 = 10 ^ 7 := rfl
  constructor
  · rintro ⟨h, htrail⟩
    have hp := (List.takeWhile_append_dropWhile isDigit p).symm
    have hwhole : ∀ c ∈ p.takeWhile isDigit, isDigit c := fun _ hc => List.mem_takeWhile_imp hc
    rw [moneyLoop_eq, List.nil_append] at h
    generalize p.takeWhile isDigit = w at hp hwhole h
    generalize p.dropWhile isDigit = r at hp h
    subst hp
    rcases r with _ | ⟨c, rest⟩
    · obtain ⟨rfl, rfl, rfl⟩ := by simpa using h
      exact ⟨[], [], by simpa using hwhole, htrail, by simp, .inl ⟨rfl, rfl⟩, by simp, by
        simp [leadingDigits]⟩
    · dsimp only at h
      by_cases hpoint : c = '.'
      · subst hpoint
        simp only [if_true, hcent, moneyFraction_eq rest 7 0, zero_add, Option.some.injEq,
          Prod.mk.injEq] at h
        obtain ⟨rfl, rfl, rfl⟩ := h
        set frac := (rest.takeWhile isDigit).take (7 + 1)
        have hfrac : ∀ c ∈ frac, isDigit c :=
          fun _ hc => List.mem_takeWhile_imp (List.mem_of_mem_take hc)
        have hrest : rest = frac ++ rest.drop frac.length := by
          conv_lhs => rw [← List.take_append_drop frac.length rest]
          rw [← List.prefix_iff_eq_take.1 ((List.take_prefix _ _).trans (List.takeWhile_prefix _))]
        exact ⟨'.' :: frac, frac, List.forall_mem_append.2 ⟨hwhole, hfrac⟩, htrail,
          List.length_take_le _ _, .inr rfl, by rw [List.append_assoc, List.cons_append, ← hrest],
          rfl⟩
      · by_cases hsp : isSpace c
        · simp only [hpoint, hsp, if_true, if_false, Option.some.injEq, Prod.mk.injEq] at h
          obtain ⟨rfl, rfl, rfl⟩ := h
          exact ⟨[], [], by simpa using hwhole, htrail, by simp, .inl ⟨rfl, rfl⟩, by simp, by
            simp [leadingDigits]⟩
        · simp [hpoint, hsp] at h
  · rintro ⟨tail, frac, hdig, htrail, hfl, htail, rfl, rfl⟩
    obtain ⟨hwhole, hfrac⟩ := List.forall_mem_append.1 hdig
    refine ⟨?_, htrail⟩
    rw [moneyLoop_eq, List.append_assoc, List.dropWhile_append_of_pos hwhole,
      List.takeWhile_append_of_pos hwhole, List.nil_append]
    rcases htail with ⟨rfl, rfl⟩ | rfl
    · rw [List.nil_append, dropWhile_isDigit_of_blank htrail, takeWhile_isDigit_of_blank htrail]
      rcases trail with _ | ⟨c, trail⟩
      · simp [leadingDigits]
      · have hc := htrail c (List.mem_cons_self _ _)
        have hpoint : c ≠ '.' := by rintro rfl; exact absurd hc (by decide)
        simp [hpoint, hc, leadingDigits]
    · have hfw : (frac ++ trail).takeWhile isDigit = frac := by
        rw [List.takeWhile_append_of_pos hfrac, takeWhile_isDigit_of_blank htrail, List.append_nil]
      simp only [List.cons_append, List.dropWhile_cons, List.takeWhile_cons,
        show isDigit '.' = false from rfl, Bool.false_eq_true, if_false, if_true, hcent,
        moneyFraction_eq, hfw, List.take_of_length_le (by omega : frac.length ≤ 7 + 1),
        List.drop_left, List.append_nil, zero_add]

/-- Leading blanks are skipped: after them the text is the number and its trailing
    blanks, or nothing when the number is empty. -/
private theorem dropWhile_isSpace_money {lead whole tail frac trail : List Char}
    (hlead : ∀ c ∈ lead, isSpace c) (htrail : ∀ c ∈ trail, isSpace c)
    (hwhole : ∀ c ∈ whole, isDigit c) (htail : tail = [] ∧ frac = [] ∨ tail = '.' :: frac) :
    ∃ trail', (∀ c ∈ trail', isSpace c) ∧
      (lead ++ whole ++ tail ++ trail).dropWhile isSpace = whole ++ tail ++ trail' := by
  rw [List.append_assoc, List.append_assoc, List.dropWhile_append_of_pos hlead]
  rcases whole with _ | ⟨d, ds⟩
  · rcases htail with ⟨rfl, -⟩ | rfl
    · exact ⟨[], by simp, by simpa using List.dropWhile_eq_nil_iff.2 htrail⟩
    · exact ⟨trail, htrail, rfl⟩
  · exact ⟨trail, htrail, by
      simp [List.dropWhile_cons, isSpace_of_isDigit (hwhole d (List.mem_cons_self _ _))]⟩

/-- What `ParseMoney` accepts: up to the first NUL, blanks, at most ten digits, then nothing
    or a point with at most eight digits, then blanks. The amount is the whole digits in
    coins plus the fraction digits in hundred-millionths of a coin, so blanks alone, or
    nothing, are an amount of zero. -/
theorem ParseMoney_eq_some_iff (str : String) (v : Int64) :
    ParseMoney str = some v ↔ ∃ lead whole tail frac trail,
      (∀ c ∈ lead ++ trail, isSpace c) ∧ (∀ c ∈ whole ++ frac, isDigit c) ∧
      whole.length ≤ 10 ∧ frac.length ≤ 8 ∧ (tail = [] ∧ frac = [] ∨ tail = '.' :: frac) ∧
      str.data.takeWhile (· ≠ Char.ofNat 0) = lead ++ whole ++ tail ++ trail ∧
      v.val = leadingDigits whole 0 * COIN + leadingDigits frac 0 * 10 ^ (8 - frac.length) := by
  unfold ParseMoney
  constructor
  · intro h
    set t := str.data.takeWhile (· ≠ Char.ofNat 0)
    rcases hm : moneyLoop (t.dropWhile isSpace) [] with _ | ⟨whole, u, trail⟩
    · simp [hm] at h
    simp only [hm] at h
    split_ifs at h with h1 h2 h3
    cases h
    replace h1 : ∀ c ∈ trail, isSpace c := by simpa using h1
    obtain ⟨tail, frac, hdig, -, hfl, htail, hp, rfl⟩ := moneyLoop_eq_some_iff.1 ⟨hm, h1⟩
    obtain ⟨hwhole, hfrac⟩ := List.forall_mem_append.1 hdig
    refine ⟨t.takeWhile isSpace, whole, tail, frac, trail, List.forall_mem_append.2
      ⟨fun _ hc => List.mem_takeWhile_imp hc, h1⟩, hdig, by omega, hfl, htail, ?_,
      money_val hwhole (by omega) hfrac hfl⟩
    rw [List.append_assoc, List.append_assoc, ← List.append_assoc whole, ← hp,
      List.takeWhile_append_dropWhile]
  · rintro ⟨lead, whole, tail, frac, trail, hblank, hdig, hwl, hfl, htail, ht, hv⟩
    obtain ⟨hlead, htrail⟩ := List.forall_mem_append.1 hblank
    obtain ⟨hwhole, hfrac⟩ := List.forall_mem_append.1 hdig
    obtain ⟨trail', htrail', hdrop⟩ := dropWhile_isSpace_money hlead htrail hwhole htail
    have hunits : (leadingDigits frac 0 : Int) * 10 ^ (8 - frac.length) < COIN := by
      unfold COIN; exact_mod_cast fraction_lt hfrac hfl
    have hnonneg : 0 ≤ (leadingDigits frac 0 : Int) * 10 ^ (8 - frac.length) := by positivity
    rw [ht, hdrop, (moneyLoop_eq_some_iff.2 ⟨tail, frac, hdig, htrail', hfl, htail, rfl, rfl⟩).1]
    simp only [List.all_eq_true.2 htrail', Bool.not_true, Bool.false_eq_true, if_false,
      Nat.not_lt.2 hwl]
    rw [if_neg (by omega)]
    congr
    ext
    rw [money_val hwhole hwl hfrac hfl, hv]

end Money

section Split

variable {sep : Char}

/-- A piece without the separator, followed by the separator, is split off whole. -/
theorem split_append {a : String} (ha : sep ∉ a.data) (b : String) :
    split sep (a ++ ⟨[sep]⟩ ++ b) = a :: split sep b := by
  have hfirst := List.splitOnP_first (· == sep) a.data
    (fun x hx hsep => ha (beq_iff_eq.1 hsep ▸ hx)) sep (by simp) b.data
  simp only [split, String.data_append, List.append_assoc, List.singleton_append, List.splitOn]
  rw [hfirst, List.map_cons]

/-- A string without the separator is one piece. -/
theorem split_of_not_mem {a : String} (ha : sep ∉ a.data) : split sep a = [a] := by
  simp only [split, List.splitOn,
    List.splitOnP_eq_single (· == sep) a.data (fun x hx hsep => ha (beq_iff_eq.1 hsep ▸ hx)),
    List.map_cons, List.map_nil]

end Split

end gulden

namespace gulden.user_agent

/-- `CHARS_ALPHA_NUM + " .,;-_?@"`, the `SAFE_CHARS_UA_COMMENT` rule of `SanitizeString`
    (utilstrencodings.cpp, not part of the sources): the BIP 14 subset a user agent comment
    may use. -/
def SAFE_CHARS_UA_COMMENT : List Char :=
  "abcdefghijklmnopqrstuvwxyzABCDEFGHIJKLMNOPQRSTUVWXYZ0123456789 .,;-_?@".data

/-- `SanitizeString(str, rule)`: the characters of `str` that the rule allows, in order. -/
def SanitizeString (str : String) (SAFE_CHARS : List Char) : String :=
  ⟨str.data.filter (· ∈ SAFE_CHARS)⟩

/-- The loop over `-uacomment` in Step 6 of AppInitMain: a comment that sanitising changes
    ends AppInitMain with an error naming it; the others are collected in `uacomments`. -/
def uacommentLoop : List String → List String → Except String (List String)
  | [], uacomments => .ok uacomments
  | cmt :: rest, uacomments =>
    if cmt ≠ SanitizeString cmt SAFE_CHARS_UA_COMMENT then
      .error s!"User Agent comment ({cmt}) contains unsafe characters."
    else uacommentLoop rest (uacomments ++ [cmt])

/-- Step 6: `strSubVersion`, the user agent from `FormatSubVersion(CLIENT_NAME,
    CLIENT_VERSION, uacomments)` (clientversion.cpp, not part of the sources, so a parameter
    here), which must fit `MAX_SUBVERSION_LENGTH` bytes. -/
def subVersion (FormatSubVersion : List String → String) (MAX_SUBVERSION_LENGTH : Nat)
    (args : ArgsManager) : Except String String := do
  let uacomments ← if args.IsArgSet "-uacomment" then
      uacommentLoop (args.GetArgs "-uacomment") [] else pure []
  let strSubVersion := FormatSubVersion uacomments
  if strSubVersion.utf8ByteSize > MAX_SUBVERSION_LENGTH then
    throw s!"Total length of network version string ({strSubVersion.utf8ByteSize}) exceeds maximum length ({MAX_SUBVERSION_LENGTH}). Reduce the number or size of uacomments."
  else pure strSubVersion

end gulden.user_agent
