import GuldenInit.Util
import Mathlib.Data.List.Nodup

namespace gulden.block_files

/-- An entry of the blocks directory. `name` is `filename().string()`, each character
    standing for one byte of it; `regular` is `is_regular_file`. -/
structure Entry where
  name : String
  regular : Bool
  deriving DecidableEq, Repr

/-- `std::string::substr(pos, len)`. -/
def substr (s : String) (pos len : Nat) : String := ⟨(s.data.drop pos).take len⟩

/-- `%05u`: the decimal digits of `i`, padded on the left with '0' to five. -/
def fmt05u (i : Nat) : String :=
  ⟨List.replicate (5 - (Nat.toDigits 10 i).length) '0' ++ Nat.toDigits 10 i⟩

/-- `blk%05u.dat`, the block file of index `i`. -/
def blkName (i : Nat) : String := "blk" ++ fmt05u i ++ ".dat"

/-- Whether block file `i` is in the directory (`BlockStore::BlockFileExists`). -/
def BlockFileExists (dir : List Entry) (i : Nat) : Bool := dir.any (·.name == blkName i)

section Names

private theorem leadingDigits_zeros (k : Nat) : leadingDigits (List.replicate k '0') 0 = 0 := by
  induction k with
  | zero => rfl
  | succ k ih => simpa [List.replicate_succ, leadingDigits, isDigit] using ih

/-- `atoi` reads the index back from the text `%05u` prints. -/
theorem leadingDigits_fmt05u (i : Nat) : leadingDigits (fmt05u i).data 0 = i := by
  obtain ⟨-, hval, -⟩ := toDigits_spec i
  have hzeros : ∀ c ∈ List.replicate (5 - (Nat.toDigits 10 i).length) '0', isDigit c := by
    intro c hc
    rw [List.eq_of_mem_replicate hc]
    rfl
  rw [fmt05u, leadingDigits_append hzeros, leadingDigits_zeros, hval]

/-- Distinct indices name distinct block files. -/
theorem blkName_injective : Function.Injective blkName := by
  intro i j h
  have h' : ("blk".data ++ (fmt05u i).data) ++ ".dat".data =
      ("blk".data ++ (fmt05u j).data) ++ ".dat".data := congrArg String.data h
  rw [← leadingDigits_fmt05u i, List.append_cancel_left (List.append_cancel_right h'),
    leadingDigits_fmt05u]

theorem fmt05u_injective : Function.Injective fmt05u := fun i j h => by
  rw [← leadingDigits_fmt05u i, h, leadingDigits_fmt05u]

theorem fmt05u_isDigit (i : Nat) : ∀ c ∈ (fmt05u i).data, isDigit c := by
  intro c hc
  rcases List.mem_append.mp hc with h | h
  · rw [List.eq_of_mem_replicate h]; rfl
  · exact (toDigits_spec i).1 c h

/-- `%05u` prints five digits exactly for the indices below 10^5. -/
theorem fmt05u_length_eq_five {i : Nat} : (fmt05u i).data.length = 5 ↔ i < 10 ^ 5 := by
  constructor
  · intro h
    simpa [leadingDigits_fmt05u, h] using leadingDigits_lt (fmt05u_isDigit i)
  · intro hi
    have : (Nat.toDigits 10 i).length ≤ 5 := Nat.toDigitsCore_length 10 (by decide) _ i 5 hi (by decide)
    simp only [fmt05u, List.length_append, List.length_replicate]
    omega

/-- `atoi` of the key `%05u` is the index. -/
theorem atoi_fmt05u {i : Nat} (hi : i < 10 ^ 5) : atoi (fmt05u i) = i := by
  have hne : (fmt05u i).data ≠ [] := fun h => by simpa [h] using fmt05u_length_eq_five.mpr hi
  rw [atoi, strtoll_of_digits (fmt05u_isDigit i) hne, leadingDigits_fmt05u, wrap32]
  omega

theorem blkName_data (i : Nat) :
    (blkName i).data = ['b', 'l', 'k'] ++ (fmt05u i).data ++ ['.', 'd', 'a', 't'] := rfl

theorem blkName_length {i : Nat} : (blkName i).length = 12 ↔ i < 10 ^ 5 := by
  rw [← fmt05u_length_eq_five, String.length, blkName_data]
  simp

theorem substr_blkName_prefix (i : Nat) : substr (blkName i) 0 3 = "blk" := by
  simp [substr, blkName_data]

section Fields

variable {i : Nat} (hi : i < 10 ^ 5)
include hi

theorem substr_blkName_key : substr (blkName i) 3 5 = fmt05u i := by
  have h5 := fmt05u_length_eq_five.mpr hi
  simp [substr, blkName_data, List.take_append_of_le_length, h5]

theorem substr_blkName_suffix : substr (blkName i) 8 4 = ".dat" := by
  have h5 := fmt05u_length_eq_five.mpr hi
  simp [substr, blkName_data, List.drop_append_eq_append_drop, h5]

end Fields

theorem BlockFileExists_iff (dir : List Entry) (i : Nat) :
    BlockFileExists dir i ↔ blkName i ∈ dir.map (·.name) := by
  simp [BlockFileExists]

/-- A directory of `n` entries misses one of the block files `0, …, n`. -/
theorem exists_missing_blockFile (dir : List Entry) :
    ∃ i ≤ dir.length, BlockFileExists dir i = false := by
  by_contra hall
  push_neg at hall
  have hsub : (List.range (dir.length + 1)).map blkName ⊆ dir.map (·.name) := by
    intro x hx
    obtain ⟨i, hi, rfl⟩ := List.mem_map.mp hx
    exact (BlockFileExists_iff dir i).mp (by simpa using hall i (by simp at hi; omega))
  have := (((List.nodup_range _).map blkName_injective).subperm hsub).length_le
  simp at this

end Names

section ThreadImport

/-- What ThreadImport's `-reindex` phase does that outlives it. -/
inductive ImportEvent
  /-- `LoadExternalBlockFile` on block file `nFile` -/
  | LoadExternalBlockFile (nFile : Nat)
  /-- `pblocktree->WriteReindexing(b)` -/
  | WriteReindexing (b : Bool)
  deriving DecidableEq, Repr

/-- The `while (true)` loop from `nFile`, for at most `fuel` files: it stops at the first
    block file that does not exist, or for which `GetBlockFile` returns null. -/
def reindexFrom (dir : List Entry) (GetBlockFile : Nat → Bool) : Nat → Nat → List ImportEvent
  | 0, _ => []
  | fuel + 1, nFile =>
    if !BlockFileExists dir nFile then []
    else if !GetBlockFile nFile then []
    else .LoadExternalBlockFile nFile :: reindexFrom dir GetBlockFile fuel (nFile + 1)

/-- ThreadImport under `fReindex`: the loop from file 0, then `WriteReindexing(false)`, and
    `fReindex` (the second component) cleared. Each file the loop reads is a distinct entry
    of the directory, so `dir.length + 1` files bound it. -/
def reindexPhase (dir : List Entry) (GetBlockFile : Nat → Bool) : List ImportEvent × Bool :=
  (reindexFrom dir GetBlockFile (dir.length + 1) 0 ++ [.WriteReindexing false], false)

/-- The loop from `nFile` reads `nFile, nFile + 1, …` up to the first file `m` that is missing
    or does not open, given fuel for more than `m - nFile` files. -/
theorem reindexFrom_eq {dir : List Entry} {GetBlockFile : Nat → Bool} {m : Nat}
    (hok : ∀ i < m, BlockFileExists dir i ∧ GetBlockFile i)
    (hstop : ¬ (BlockFileExists dir m ∧ GetBlockFile m)) :
    ∀ fuel nFile, nFile ≤ m → m - nFile < fuel →
      reindexFrom dir GetBlockFile fuel nFile =
        (List.range' nFile (m - nFile)).map .LoadExternalBlockFile := by
  intro fuel
  induction fuel with
  | zero => intro _ _ h; omega
  | succ fuel ih =>
    intro nFile hle hfuel
    rcases Nat.eq_or_lt_of_le hle with rfl | hlt
    · cases he : BlockFileExists dir nFile
      · simp [reindexFrom, he]
      · have hg : GetBlockFile nFile = false := by simpa [he] using hstop
        simp [reindexFrom, he, hg]
    · obtain ⟨he, hg⟩ := hok nFile hlt
      rw [show m - nFile = (m - (nFile + 1)) + 1 by omega, List.range'_succ, List.map_cons,
        ← ih (nFile + 1) hlt (by omega)]
      simp [reindexFrom, he, hg]

/-- Some block file is missing or does not open, and a first one. -/
theorem exists_reindexStop (dir : List Entry) (GetBlockFile : Nat → Bool) :
    ∃ k, (∀ i < k, BlockFileExists dir i ∧ GetBlockFile i) ∧
      ¬ (BlockFileExists dir k ∧ GetBlockFile k) := by
  have hex : ∃ k, ¬ (BlockFileExists dir k ∧ GetBlockFile k) := by
    obtain ⟨i, -, hi⟩ := exists_missing_blockFile dir
    exact ⟨i, by simp [hi]⟩
  exact ⟨Nat.find hex, fun j hj => by simpa using Nat.find_min hex hj, Nat.find_spec hex⟩

/-- The reindex phase reads the files before the first one that is missing or does not open,
    and there are at most as many as entries in the directory. -/
theorem reindexPhase_eq {dir : List Entry} {GetBlockFile : Nat → Bool} {k : Nat}
    (hok : ∀ i < k, BlockFileExists dir i ∧ GetBlockFile i)
    (hstop : ¬ (BlockFileExists dir k ∧ GetBlockFile k)) :
    k ≤ dir.length ∧ reindexPhase dir GetBlockFile =
      ((List.range k).map .LoadExternalBlockFile ++ [.WriteReindexing false], false) := by
  obtain ⟨i, hi, hmiss⟩ := exists_missing_blockFile dir
  have hk : k ≤ i := Nat.le_of_not_lt fun hik => by simpa [hmiss] using hok i hik
  refine ⟨hk.trans hi, ?_⟩
  rw [reindexPhase, reindexFrom_eq hok hstop _ 0 (Nat.zero_le _) (by omega), Nat.sub_zero,
    List.range_eq_range']

/-- ThreadImport's `-reindex` phase, for every directory and every pattern of `GetBlockFile`
    failures: it feeds block files `0, 1, …, k - 1` to `LoadExternalBlockFile` in this order,
    where `k`, at most the directory's size, is the first index whose file is missing or does
    not open; then it writes the reindexing flag false and clears `fReindex`. -/
theorem reindexPhase_spec (dir : List Entry) (GetBlockFile : Nat → Bool) :
    ∃ k ≤ dir.length, (∀ i < k, BlockFileExists dir i ∧ GetBlockFile i) ∧
      ¬ (BlockFileExists dir k ∧ GetBlockFile k) ∧
      reindexPhase dir GetBlockFile =
        ((List.range k).map .LoadExternalBlockFile ++ [.WriteReindexing false], false) := by
  obtain ⟨k, hok, hstop⟩ := exists_reindexStop dir GetBlockFile
  obtain ⟨hle, heq⟩ := reindexPhase_eq hok hstop
  exact ⟨k, hle, hok, hstop, heq⟩

end ThreadImport

end gulden.block_files
