import Mathlib.Data.List.Basic

namespace gulden.qstring

/-- `QUtf8::convertFromUnicode` on one character: its UTF-8 bytes, one to four. -/
def encodeChar (c : Char) : List UInt8 :=
  let u := c.toNat
  if u < 0x80 then [UInt8.ofNat u]
  else if u < 0x800 then [UInt8.ofNat (0xC0 + u / 0x40), UInt8.ofNat (0x80 + u % 0x40)]
  else if u < 0x10000 then
    [UInt8.ofNat (0xE0 + u / 0x1000), UInt8.ofNat (0x80 + u / 0x40 % 0x40),
      UInt8.ofNat (0x80 + u % 0x40)]
  else
    [UInt8.ofNat (0xF0 + u / 0x40000), UInt8.ofNat (0x80 + u / 0x1000 % 0x40),
      UInt8.ofNat (0x80 + u / 0x40 % 0x40), UInt8.ofNat (0x80 + u % 0x40)]

/-- `isContinuationByte`: `10xxxxxx`. -/
def isContinuationByte (b : UInt8) : Bool := b.toNat / 0x40 = 2

/-- The continuation bytes `QUtf8Functions::fromUtf8` peeks at: each must be `10xxxxxx`, and
    adds its six bits to `uc`; there must be `n` of them before the end. -/
def continuation : Nat → Nat → List UInt8 → Option Nat
  | 0, uc, _ => some uc
  | n + 1, uc, b :: src =>
    if isContinuationByte b then continuation n (uc * 0x40 + b.toNat % 0x40) src else none
  | _ + 1, _, [] => none

/-- The rest of `QUtf8Functions::fromUtf8` for a first byte that starts a sequence of
    `charsNeeded` bytes and gave `uc`: the continuation bytes, then the safety check against
    overlong forms, surrogates and values past U+10FFFF. -/
def multiByte (charsNeeded min_uc uc : Nat) (src : List UInt8) : Option (Char × Nat) :=
  match continuation (charsNeeded - 1) uc src with
  | some uc =>
    if uc < min_uc ∨ (0xD800 ≤ uc ∧ uc < 0xE000) ∨ 0x10FFFF < uc then none
    else some (Char.ofNat uc, charsNeeded - 1)
  | none => none

/-- `QUtf8Functions::fromUtf8(b, dst, src, end)` with the `QUtf8BaseTraits`: the character
    starting at byte `b` and the number of bytes after `b` it takes, or `none` for
    `Traits::Error` and `Traits::EndOfString`. -/
def fromUtf8 (b : UInt8) (src : List UInt8) : Option (Char × Nat) :=
  if b.toNat < 0x80 then some (Char.ofNat b.toNat, 0)
  else if b.toNat ≤ 0xC1 then none
  else if b.toNat < 0xE0 then multiByte 2 0x80 (b.toNat % 0x20) src
  else if b.toNat < 0xF0 then multiByte 3 0x800 (b.toNat % 0x10) src
  else if b.toNat < 0xF5 then multiByte 4 0x10000 (b.toNat % 0x08) src
  else none

/-- `QString::toStdString()`: `toUtf8()`, the bytes of each character in turn. -/
def toStdString (s : String) : List UInt8 := s.data.flatMap encodeChar

/-- The loop of `QUtf8::convertToUnicode`: a character for each sequence `fromUtf8` accepts,
    `QChar::ReplacementCharacter` for each byte that starts none; `skip` bytes of the last
    sequence are still to be passed over. -/
def convertLoop : Nat → List UInt8 → List Char
  | _, [] => []
  | skip + 1, _ :: src => convertLoop skip src
  | 0, b :: src =>
    match fromUtf8 b src with
    | some (c, k) => c :: convertLoop k src
    | none => '\uFFFD' :: convertLoop 0 src

/-- `utf8bom`, the UTF-8 byte order mark. -/
def utf8bom : List UInt8 := [0xEF, 0xBB, 0xBF]

/-- `QString::fromStdString`: `QUtf8::convertToUnicode`, which skips a byte order mark at the
    start. -/
def fromStdString (s : List UInt8) : String :=
  ⟨convertLoop 0 (if s.take 3 = utf8bom then s.drop 3 else s)⟩

theorem toNat_ofNat_of_lt {n : Nat} (h : n < 256) : (UInt8.ofNat n).toNat = n :=
  UInt8.toNat_ofNat_of_lt h

theorem ofNat_toNat_eq {n : Nat} {c : Char} (h : n = c.toNat) : Char.ofNat n = c := by
  rw [h, Char.ofNat_toNat]

theorem toNat_valid (c : Char) : c.toNat < 0xD800 ∨ (0xDFFF < c.toNat ∧ c.toNat < 0x110000) :=
  c.valid

/-- A continuation byte with six-bit digit `d` adds `d` to the value. -/
theorem continuation_cons {d : Nat} (hd : d < 0x40) (n uc : Nat) (src : List UInt8) :
    continuation (n + 1) uc (UInt8.ofNat (0x80 + d) :: src) =
      continuation n (uc * 0x40 + d) src := by
  have hb : (UInt8.ofNat (0x80 + d)).toNat = 0x80 + d := toNat_ofNat_of_lt (by omega)
  rw [continuation, isContinuationByte, hb, if_pos (decide_eq_true (by omega)),
    show (0x80 + d) % 0x40 = d by omega]

-- Each length of sequence, from its six-bit digits: the first byte's bits `d0`, then `d1`, …
-- in the continuation bytes.
section Sequences

variable {d0 d1 d2 d3 : Nat} (rest : List UInt8)

theorem fromUtf8_two (h0 : 2 ≤ d0) (h0' : d0 < 0x20) (h1 : d1 < 0x40) :
    fromUtf8 (UInt8.ofNat (0xC0 + d0)) (UInt8.ofNat (0x80 + d1) :: rest) =
      some (Char.ofNat (d0 * 0x40 + d1), 1) := by
  rw [fromUtf8, toNat_ofNat_of_lt (by omega), if_neg (by omega), if_neg (by omega),
    if_pos (by omega), show (0xC0 + d0) % 0x20 = d0 by omega]
  simp only [multiByte, Nat.reduceSub, continuation_cons h1, continuation.eq_1]
  rw [if_neg (by omega)]

theorem fromUtf8_three (h0 : d0 < 0x10) (h1 : d1 < 0x40) (h2 : d2 < 0x40)
    (hmin : 0x800 ≤ (d0 * 0x40 + d1) * 0x40 + d2)
    (hsur : ¬(0xD800 ≤ (d0 * 0x40 + d1) * 0x40 + d2 ∧ (d0 * 0x40 + d1) * 0x40 + d2 < 0xE000)) :
    fromUtf8 (UInt8.ofNat (0xE0 + d0))
        (UInt8.ofNat (0x80 + d1) :: UInt8.ofNat (0x80 + d2) :: rest) =
      some (Char.ofNat ((d0 * 0x40 + d1) * 0x40 + d2), 2) := by
  rw [fromUtf8, toNat_ofNat_of_lt (by omega), if_neg (by omega), if_neg (by omega),
    if_neg (by omega), if_pos (by omega), show (0xE0 + d0) % 0x10 = d0 by omega]
  simp only [multiByte, Nat.reduceSub, continuation_cons h1, continuation_cons h2,
    continuation.eq_1]
  rw [if_neg (by omega)]

theorem fromUtf8_four (h0 : d0 < 5) (h1 : d1 < 0x40) (h2 : d2 < 0x40) (h3 : d3 < 0x40)
    (hmin : 0x10000 ≤ ((d0 * 0x40 + d1) * 0x40 + d2) * 0x40 + d3)
    (hmax : ((d0 * 0x40 + d1) * 0x40 + d2) * 0x40 + d3 ≤ 0x10FFFF) :
    fromUtf8 (UInt8.ofNat (0xF0 + d0))
        (UInt8.ofNat (0x80 + d1) :: UInt8.ofNat (0x80 + d2) :: UInt8.ofNat (0x80 + d3) :: rest) =
      some (Char.ofNat (((d0 * 0x40 + d1) * 0x40 + d2) * 0x40 + d3), 3) := by
  rw [fromUtf8, toNat_ofNat_of_lt (by omega), if_neg (by omega), if_neg (by omega),
    if_neg (by omega), if_neg (by omega), if_pos (by omega), show (0xF0 + d0) % 0x08 = d0 by omega]
  simp only [multiByte, Nat.reduceSub, continuation_cons h1, continuation_cons h2,
    continuation_cons h3, continuation.eq_1]
  rw [if_neg (by omega)]

end Sequences

/-- The bytes of a character decode, at any place in a stream, to the character. -/
theorem fromUtf8_encodeChar (c : Char) (rest : List UInt8) :
    ∃ b bs, encodeChar c = b :: bs ∧ fromUtf8 b (bs ++ rest) = some (c, bs.length) := by
  simp only [encodeChar]
  by_cases h1 : c.toNat < 0x80
  · rw [if_pos h1]
    refine ⟨_, _, rfl, ?_⟩
    rw [fromUtf8, toNat_ofNat_of_lt (by omega), if_pos h1, Char.ofNat_toNat]
    rfl
  rw [if_neg h1]
  by_cases h2 : c.toNat < 0x800
  · rw [if_pos h2]
    refine ⟨_, _, rfl, ?_⟩
    rw [List.singleton_append, fromUtf8_two rest (by omega) (by omega) (by omega),
      ofNat_toNat_eq (c := c) (by omega)]
    rfl
  rw [if_neg h2]
  have hv := toNat_valid c
  by_cases h3 : c.toNat < 0x10000
  · rw [if_pos h3]
    refine ⟨_, _, rfl, ?_⟩
    rw [List.cons_append, List.singleton_append, fromUtf8_three rest (by omega) (by omega)
      (by omega) (by omega) (by omega), ofNat_toNat_eq (c := c) (by omega)]
    rfl
  · rw [if_neg h3]
    refine ⟨_, _, rfl, ?_⟩
    rw [List.cons_append, List.cons_append, List.singleton_append, fromUtf8_four rest (by omega)
      (by omega) (by omega) (by omega) (by omega) (by omega), ofNat_toNat_eq (c := c) (by omega)]
    rfl

theorem convertLoop_skip (bs rest : List UInt8) :
    convertLoop bs.length (bs ++ rest) = convertLoop 0 rest := by
  induction bs with
  | nil => rfl
  | cons b bs ih => exact ih

theorem convertLoop_encodeChar (c : Char) (rest : List UInt8) :
    convertLoop 0 (encodeChar c ++ rest) = c :: convertLoop 0 rest := by
  obtain ⟨b, bs, he, hd⟩ := fromUtf8_encodeChar c rest
  rw [he, List.cons_append, convertLoop, hd]
  exact congrArg (c :: ·) (convertLoop_skip bs rest)

/-- Decoding what `toUtf8` wrote gives back the characters. -/
theorem convertLoop_flatMap (cs : List Char) : convertLoop 0 (cs.flatMap encodeChar) = cs := by
  induction cs with
  | nil => rfl
  | cons c cs ih => rw [List.flatMap_cons, convertLoop_encodeChar, ih]

theorem encodeChar_bom : encodeChar '\uFEFF' = utf8bom := by decide

/-- `QString::fromStdString(s.toStdString())` is `s`, less a byte order mark at its start. -/
theorem fromStdString_toStdString (s : String) :
    fromStdString (toStdString s) = if s.data.head? = some '\uFEFF' then ⟨s.data.tail⟩ else s := by
  have hs : convertLoop 0 (toStdString s) = s.data := convertLoop_flatMap s.data
  unfold fromStdString
  by_cases hb : (toStdString s).take 3 = utf8bom
  · have hsplit : toStdString s = encodeChar '\uFEFF' ++ (toStdString s).drop 3 := by
      rw [encodeChar_bom, ← hb, List.take_append_drop]
    rw [hsplit, convertLoop_encodeChar] at hs
    rw [if_pos hb, ← hs]
    rfl
  · have hhead : s.data.head? ≠ some '\uFEFF' := by
      intro hh
      obtain ⟨t, ht⟩ : ∃ t, s.data = '\uFEFF' :: t := by
        rcases hd : s.data with _ | ⟨c, t⟩ <;> simp_all
      exact hb (by rw [toStdString, ht, List.flatMap_cons, encodeChar_bom]; rfl)
    rw [if_neg hb, if_neg hhead, hs]

end gulden.qstring
