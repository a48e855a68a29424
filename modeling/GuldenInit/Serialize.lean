import GuldenInit.Util

namespace gulden.serialize

/-- `MAX_SIZE`: the largest length `ReadCompactSize` accepts. -/
def MAX_SIZE : Nat := 0x02000000

/-- Reading a `CDataStream`: the bytes not read yet go in, and out come a value with the
    bytes after it, or the text of the `std::ios_base::failure` thrown. -/
abbrev Reader := StateT (List UInt8) (Except String)

/-- `CDataStream::read(pch, nSize)`: the next `nSize` bytes; it throws, reading nothing, when
    fewer remain. -/
def read (nSize : Nat) : Reader (List UInt8) := fun vch =>
  if nSize ≤ vch.length then .ok (vch.take nSize, vch.drop nSize)
  else .error "CDataStream::read(): end of data"

/-- The value of bytes read least significant first. -/
def leValue : List UInt8 → Nat
  | [] => 0
  | b :: bs => b.toNat + 256 * leValue bs

/-- `ser_writedata8/16/32/64`: the low `w` bytes of `x`, least significant first. -/
def writeLE : Nat → Nat → List UInt8
  | 0, _ => []
  | w + 1, x => UInt8.ofNat (x % 256) :: writeLE w (x / 256)

/-- `ser_readdata8/16/32/64`. -/
def readLE (w : Nat) : Reader Nat := leValue <$> read w

/-- `WriteCompactSize(os, nSize)`: one byte below 253, otherwise a marker and the size in the
    fewest of 2, 4 or 8 bytes. -/
def WriteCompactSize (nSize : Nat) : List UInt8 :=
  if nSize < 253 then writeLE 1 nSize
  else if nSize ≤ 0xFFFF then writeLE 1 253 ++ writeLE 2 nSize
  else if nSize ≤ 0xFFFFFFFF then writeLE 1 254 ++ writeLE 4 nSize
  else writeLE 1 255 ++ writeLE 8 nSize

/-- The size after a marker of `ReadCompactSize`, in `w` bytes, refused below `min`, where a
    shorter form would have held it. -/
def readMarked (w min : Nat) : Reader Nat := do
  let n ← readLE w
  if n < min then throw "non-canonical ReadCompactSize()" else pure n

/-- The size `ReadCompactSize` reads before its check against `MAX_SIZE`: one byte below 253,
    otherwise the size after the marker. -/
def readSizeField : Reader Nat := do
  let chSize ← readLE 1
  if chSize < 253 then pure chSize
  else if chSize = 253 then readMarked 2 253
  else if chSize = 254 then readMarked 4 0x10000
  else readMarked 8 0x100000000

/-- `ReadCompactSize(is)`. -/
def ReadCompactSize : Reader Nat := do
  let nSizeRet ← readSizeField
  if nSizeRet > MAX_SIZE then throw "ReadCompactSize(): size too large" else pure nSizeRet

/-- `Serialize(os, const std::string&)`: the length, then the bytes. -/
def writeString (str : List UInt8) : List UInt8 := WriteCompactSize str.length ++ str

/-- `Unserialize(is, std::string&)`. -/
def readString : Reader (List UInt8) := do
  let nSize ← ReadCompactSize
  read nSize

/-- `Serialize(os, int)`: the two's complement bits, least significant byte first. -/
def writeInt32 (x : Int32) : List UInt8 := writeLE 4 (x.val % 2 ^ 32).toNat

/-- `Unserialize(is, int&)`. -/
def readInt32 : Reader Int32 := (fun n : Nat => Int32.ofInt n) <$> readLE 4

/-- `Serialize(os, int64_t)`, as for a `CAmount`. -/
def writeInt64 (x : Int64) : List UInt8 := writeLE 8 (x.val % 2 ^ 64).toNat

/-- `Unserialize(is, int64_t&)`. -/
def readInt64 : Reader Int64 := (fun n : Nat => Int64.ofInt n) <$> readLE 8

section Reader

variable {α β : Type}

/-- A bind runs its first reader, then the rest on what that left, or stops at its failure. -/
theorem bind_apply (x : Reader α) (f : α → Reader β) (vch : List UInt8) :
    (x >>= f) vch = match x vch with
      | .ok (a, vch') => f a vch'
      | .error e => .error e := by
  show Except.bind (x vch) _ = _
  rcases x vch with e | ⟨a, vch'⟩ <;> rfl

theorem map_apply (g : α → β) (x : Reader α) (vch : List UInt8) :
    (g <$> x) vch = match x vch with
      | .ok (a, vch') => .ok (g a, vch')
      | .error e => .error e := by
  show Except.map _ (x vch) = _
  rcases x vch with e | ⟨a, vch'⟩ <;> rfl

@[simp] theorem pure_apply (a : α) (vch : List UInt8) : (pure a : Reader α) vch = .ok (a, vch) :=
  rfl

@[simp] theorem throw_apply (e : String) (vch : List UInt8) :
    (throw e : Reader α) vch = .error e :=
  rfl

end Reader

theorem read_append (bs rest : List UInt8) : read bs.length (bs ++ rest) = .ok (bs, rest) := by
  simp [read]

theorem read_of_lt {nSize : Nat} {vch : List UInt8} (h : vch.length < nSize) :
    read nSize vch = .error "CDataStream::read(): end of data" := by
  simp [read, Nat.not_le.mpr h]

theorem length_of_read {nSize : Nat} {vch bs rest : List UInt8}
    (h : read nSize vch = .ok (bs, rest)) : bs.length = nSize := by
  unfold read at h
  split at h
  · cases h
    simp [*]
  · cases h

@[simp] theorem writeLE_length (w x : Nat) : (writeLE w x).length = w := by
  induction w generalizing x <;> simp [writeLE, *]

theorem leValue_writeLE (w x : Nat) : leValue (writeLE w x) = x % 256 ^ w := by
  induction w generalizing x with
  | zero => simp [writeLE, leValue, Nat.mod_one]
  | succ w ih =>
    rw [writeLE, leValue, ih, UInt8.toNat_ofNat_of_lt (Nat.mod_lt _ (by decide)), Nat.pow_succ',
      Nat.mod_mul]

theorem readLE_writeLE (w x : Nat) (rest : List UInt8) :
    readLE w (writeLE w x ++ rest) = .ok (x % 256 ^ w, rest) := by
  have h := read_append (writeLE w x) rest
  rw [writeLE_length] at h
  simp only [readLE, map_apply, h, leValue_writeLE]

theorem readMarked_writeLE {w min n : Nat} (hmin : min ≤ n) (hlt : n < 256 ^ w)
    (rest : List UInt8) : readMarked w min (writeLE w n ++ rest) = .ok (n, rest) := by
  simp only [readMarked, bind_apply, readLE_writeLE, Nat.mod_eq_of_lt hlt,
    if_neg (Nat.not_lt.mpr hmin), pure_apply]

/-- Each form `WriteCompactSize` picks reads back as the size it holds. -/
theorem readSizeField_WriteCompactSize {nSize : Nat} (h : nSize < 2 ^ 64) (rest : List UInt8) :
    readSizeField (WriteCompactSize nSize ++ rest) = .ok (nSize, rest) := by
  unfold WriteCompactSize
  split_ifs with h1 h2 h3
  · simp [readSizeField, bind_apply, readLE_writeLE, Nat.mod_eq_of_lt (by omega : nSize < 256), h1]
  · simp [readSizeField, bind_apply, readLE_writeLE,
      readMarked_writeLE (by omega : 253 ≤ nSize) (by omega : nSize < 256 ^ 2)]
  · simp [readSizeField, bind_apply, readLE_writeLE,
      readMarked_writeLE (by omega : 0x10000 ≤ nSize) (by omega : nSize < 256 ^ 4)]
  · simp [readSizeField, bind_apply, readLE_writeLE,
      readMarked_writeLE (by omega : 0x100000000 ≤ nSize) (by omega : nSize < 256 ^ 8)]

/-- Reading a size written in its form returns it, unless it is above `MAX_SIZE`. -/
theorem ReadCompactSize_WriteCompactSize {nSize : Nat} (h : nSize < 2 ^ 64) (rest : List UInt8) :
    ReadCompactSize (WriteCompactSize nSize ++ rest) =
      if nSize ≤ MAX_SIZE then .ok (nSize, rest) else .error "ReadCompactSize(): size too large" := by
  simp only [ReadCompactSize, bind_apply, readSizeField_WriteCompactSize h]
  by_cases hn : nSize ≤ MAX_SIZE
  · rw [if_neg (Nat.not_lt.mpr hn), if_pos hn]; rfl
  · rw [if_pos (Nat.lt_of_not_le hn), if_neg hn]; rfl

/-- A string reads back as written, unless it is longer than `MAX_SIZE`. -/
theorem readString_writeString {str : List UInt8} (h : str.length < 2 ^ 64) (rest : List UInt8) :
    readString (writeString str ++ rest) =
      if str.length ≤ MAX_SIZE then .ok (str, rest)
      else .error "ReadCompactSize(): size too large" := by
  rw [readString, writeString, List.append_assoc, bind_apply, ReadCompactSize_WriteCompactSize h]
  by_cases hs : str.length ≤ MAX_SIZE
  · rw [if_pos hs, if_pos hs]
    exact read_append str rest
  · rw [if_neg hs, if_neg hs]

theorem readString_writeString_of_le {str : List UInt8} (h : str.length ≤ MAX_SIZE)
    (rest : List UInt8) : readString (writeString str ++ rest) = .ok (str, rest) := by
  rw [readString_writeString (by unfold MAX_SIZE at h; omega), if_pos h]

theorem readInt32_writeInt32 (x : Int32) (rest : List UInt8) :
    readInt32 (writeInt32 x ++ rest) = .ok (x, rest) := by
  have hx : Int32.ofInt ((x.val % 2 ^ 32).toNat % 256 ^ 4 : Nat) = x := by
    ext
    have := x.ge_min
    have := x.lt_max
    simp only [Int32.ofInt_val, wrap32]
    omega
  simp only [readInt32, writeInt32, map_apply, readLE_writeLE, hx]

theorem readInt64_writeInt64 (x : Int64) (rest : List UInt8) :
    readInt64 (writeInt64 x ++ rest) = .ok (x, rest) := by
  have hx : Int64.ofInt ((x.val % 2 ^ 64).toNat % 256 ^ 8 : Nat) = x := by
    ext
    have := x.ge_min
    have := x.lt_max
    simp only [Int64.ofInt_val, wrap64]
    omega
  simp only [readInt64, writeInt64, map_apply, readLE_writeLE, hx]

end gulden.serialize
