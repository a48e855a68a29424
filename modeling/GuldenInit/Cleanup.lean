import GuldenInit.BlockFiles
import Mathlib.Data.List.Sort

namespace gulden.block_files

section CleanupBlockRevFiles

/-- `std::string`'s `operator<`: byte-wise lexicographic order. -/
def strLess : List Char → List Char → Bool
  | [], [] => false
  | [], _ :: _ => true
  | _ :: _, [] => false
  | a :: as, b :: bs =>
    if a.toNat < b.toNat then true else if b.toNat < a.toNat then false else strLess as bs

/-- On two runs of digits of one length, `operator<` is the order of their values. -/
theorem strLess_digits {a b : List Char} (ha : ∀ c ∈ a, isDigit c) (hb : ∀ c ∈ b, isDigit c)
    (hlen : a.length = b.length) :
    strLess a b = decide (leadingDigits a 0 < leadingDigits b 0) := by
  induction a generalizing b with
  | nil => cases b with
    | nil => rfl
    | cons => simp at hlen
  | cons x as ih =>
    cases b with
    | nil => simp at hlen
    | cons y bs =>
      simp only [List.mem_cons, forall_eq_or_imp] at ha hb
      simp only [List.length_cons, Nat.succ.injEq] at hlen
      have hx := ha.1
      have hy := hb.1
      simp only [isDigit, Bool.and_eq_true, decide_eq_true_eq] at hx hy
      have hra := leadingDigits_lt ha.2
      have hrb := leadingDigits_lt hb.2
      simp only [leadingDigits, ha.1, hb.1, if_true]
      rw [leadingDigits_acc ha.2, leadingDigits_acc hb.2, ← hlen]
      rw [← hlen] at hrb
      simp only [Nat.zero_mul, Nat.zero_add, strLess]
      generalize 10 ^ as.length = P at *
      split_ifs with hlt hgt
      · have : (x.toNat - 48 + 1) * P ≤ (y.toNat - 48) * P := Nat.mul_le_mul_right _ (by omega)
        rw [Nat.succ_mul] at this
        exact (decide_eq_true (by omega)).symm
      · have : (y.toNat - 48 + 1) * P ≤ (x.toNat - 48) * P := Nat.mul_le_mul_right _ (by omega)
        rw [Nat.succ_mul] at this
        exact (decide_eq_false (by omega)).symm
      · have hxy : x.toNat - 48 = y.toNat - 48 := by omega
        rw [ih ha.2 hb.2 hlen, hxy]
        simp

/-- The map's keys `%05u` sort as their indices. -/
theorem strLess_fmt05u {i j : Nat} (hi : i < 10 ^ 5) (hj : j < 10 ^ 5) :
    strLess (fmt05u i).data (fmt05u j).data = decide (i < j) := by
  rw [strLess_digits (fmt05u_isDigit i) (fmt05u_isDigit j)
    (by rw [fmt05u_length_eq_five.mpr hi, fmt05u_length_eq_five.mpr hj]),
    leadingDigits_fmt05u, leadingDigits_fmt05u]

/-- `mapBlockFiles[key] = path` on a `std::map` ordered by key, kept as a list sorted by
    key. -/
def mapInsert (m : List (String × String)) (key path : String) : List (String × String) :=
  match m with
  | [] => [(key, path)]
  | (k, p) :: rest =>
    if strLess key.data k.data then (key, path) :: (k, p) :: rest
    else if key = k then (key, path) :: rest
    else (k, p) :: mapInsert rest key path

/-- One entry of the directory loop: a regular file with a twelve-byte name ending in
    ".dat" goes into the map under `substr(3,5)` when it starts with "blk", and is removed
    when it starts with "rev". The state is the map and the names removed so far. -/
def scanEntry (acc : List (String × String) × List String) (e : Entry) :
    List (String × String) × List String :=
  if e.regular && e.name.length == 12 && substr e.name 8 4 == ".dat" then
    if substr e.name 0 3 == "blk" then (mapInsert acc.1 (substr e.name 3 5) e.name, acc.2)
    else if substr e.name 0 3 == "rev" then (acc.1, acc.2 ++ [e.name])
    else acc
  else acc

/-- The walk over the map with `nContigCounter`: the names it removes. -/
def walk : List (String × String) → Int → List String
  | [], _ => []
  | (k, p) :: rest, nContigCounter =>
    if atoi k = nContigCounter then walk rest (nContigCounter + 1)
    else p :: walk rest nContigCounter

/-- `CleanupBlockRevFiles`: the directory once the rev files the loop met and the block
    files the walk rejects are removed. -/
def CleanupBlockRevFiles (dir : List Entry) : List Entry :=
  let scanned := dir.foldl scanEntry ([], [])
  let removed := scanned.2 ++ walk scanned.1 0
  dir.filter fun e => !removed.contains e.name

/-- Block files 0 and 100001, whose name `blk100001.dat` is thirteen bytes long. -/
def farFileDir : List Entry := [⟨"blk00000.dat", true⟩, ⟨"blk100001.dat", true⟩]

/-- Block files 0 and 1, and `blk0000..dat`, whose key "0000." sorts before "00000" and
    reads as 0. -/
def dotKeyDir : List Entry :=
  [⟨"blk0000..dat", true⟩, ⟨"blk00000.dat", true⟩, ⟨"blk00001.dat", true⟩]

/-- Two directories the cleanup leaves out of step with the reindex scan. In `farFileDir`
    `blk00001.dat` is missing, so the scan reads only `blk00000.dat`, but `blk100001.dat` is
    kept. In `dotKeyDir` the scan reads `blk00000.dat` and `blk00001.dat`, but `blk0000..dat`
    takes the counter's value 0 in the walk, which then removes `blk00000.dat`. -/
theorem cleanup_out_of_step :
    BlockFileExists farFileDir 0 ∧ !BlockFileExists farFileDir 1 ∧
      blkName 100001 ∈ (CleanupBlockRevFiles farFileDir).map (·.name) ∧
    BlockFileExists dotKeyDir 0 ∧ BlockFileExists dotKeyDir 1 ∧ !BlockFileExists dotKeyDir 2 ∧
      blkName 0 ∉ (CleanupBlockRevFiles dotKeyDir).map (·.name) := by
  decide

end CleanupBlockRevFiles

section Canonical

/-- What the directory loop takes for a block file: a regular file whose twelve-byte name
    starts with "blk" and ends with ".dat". -/
def isBlkCandidate (e : Entry) : Bool :=
  e.regular && e.name.length == 12 && substr e.name 8 4 == ".dat" && substr e.name 0 3 == "blk"

/-- What the directory loop takes for a rev file, and removes. -/
def isRevCandidate (e : Entry) : Bool :=
  e.regular && e.name.length == 12 && substr e.name 8 4 == ".dat" && substr e.name 0 3 == "rev"

theorem scanEntry_eq (acc : List (String × String) × List String) (e : Entry) :
    scanEntry acc e =
      if isBlkCandidate e then (mapInsert acc.1 (substr e.name 3 5) e.name, acc.2)
      else if isRevCandidate e then (acc.1, acc.2 ++ [e.name]) else acc := by
  unfold scanEntry isBlkCandidate isRevCandidate
  split_ifs <;> simp_all

/-- The map entry of block file `i`: key `%05u`, path `blk%05u.dat`. -/
def blkEntry (i : Nat) : String × String := (fmt05u i, blkName i)

/-- The index the walk reads from an entry's key. -/
def idxOf (e : Entry) : Nat := (atoi (substr e.name 3 5)).toNat

/-- `mapInsert` on the indices of the keys. -/
def idxInsert : List Nat → Nat → List Nat
  | [], i => [i]
  | j :: L, i => if i < j then i :: j :: L else if i = j then j :: L else j :: idxInsert L i

/-- The directory loop on the indices of the keys. -/
def idxScan (L : List Nat) (dir : List Entry) : List Nat :=
  dir.foldl (fun L e => if isBlkCandidate e then idxInsert L (idxOf e) else L) L

/-- The walk on the indices of the keys: the indices whose files it removes. -/
def idxWalk : List Nat → Nat → List Nat
  | [], _ => []
  | i :: L, c => if i = c then idxWalk L (c + 1) else i :: idxWalk L c

theorem mem_idxInsert {L : List Nat} {i x : Nat} : x ∈ idxInsert L i ↔ x = i ∨ x ∈ L := by
  induction L with
  | nil => simp [idxInsert]
  | cons j L ih =>
    unfold idxInsert
    split_ifs with hlt heq
    · simp
    · subst heq; simp
    · simp only [List.mem_cons, ih]
      tauto

theorem sorted_idxInsert {L : List Nat} (hL : L.Sorted (· < ·)) (i : Nat) :
    (idxInsert L i).Sorted (· < ·) := by
  induction L with
  | nil => simp [idxInsert]
  | cons j L ih =>
    rw [List.sorted_cons] at hL
    unfold idxInsert
    split_ifs with hlt heq
    · refine List.sorted_cons.mpr ⟨fun b hb => ?_, List.sorted_cons.mpr hL⟩
      rcases List.mem_cons.mp hb with rfl | hb
      · exact hlt
      · exact hlt.trans (hL.1 b hb)
    · exact List.sorted_cons.mpr hL
    · refine List.sorted_cons.mpr ⟨fun b hb => ?_, ih hL.2⟩
      rcases mem_idxInsert.mp hb with rfl | hb
      · omega
      · exact hL.1 b hb

theorem mem_idxScan (dir : List Entry) : ∀ {L : List Nat} {x : Nat},
    x ∈ idxScan L dir ↔ x ∈ L ∨ ∃ e ∈ dir, isBlkCandidate e ∧ idxOf e = x := by
  induction dir with
  | nil => simp [idxScan]
  | cons e dir ih =>
    intro L x
    simp only [idxScan, List.foldl_cons] at ih ⊢
    rw [ih]
    split_ifs with hc
    · simp only [mem_idxInsert, List.mem_cons]
      constructor
      · rintro ((rfl | h) | ⟨e', he', hc', rfl⟩)
        exacts [.inr ⟨e, .inl rfl, hc, rfl⟩, .inl h, .inr ⟨e', .inr he', hc', rfl⟩]
      · rintro (h | ⟨e', rfl | he', hc', rfl⟩)
        exacts [.inl (.inr h), .inl (.inl rfl), .inr ⟨e', he', hc', rfl⟩]
    · simp only [List.mem_cons]
      constructor
      · rintro (h | ⟨e', he', hc', rfl⟩)
        exacts [.inl h, .inr ⟨e', .inr he', hc', rfl⟩]
      · rintro (h | ⟨e', rfl | he', hc', rfl⟩)
        exacts [.inl h, absurd hc' hc, .inr ⟨e', he', hc', rfl⟩]

theorem sorted_idxScan (dir : List Entry) : ∀ {L : List Nat}, L.Sorted (· < ·) →
    (idxScan L dir).Sorted (· < ·) := by
  induction dir with
  | nil => exact id
  | cons e dir ih =>
    intro L hL
    simp only [idxScan, List.foldl_cons] at ih ⊢
    split_ifs
    · exact ih (sorted_idxInsert hL _)
    · exact ih hL

section Refinement

variable {dir : List Entry} (hcanon : ∀ e ∈ dir, isBlkCandidate e → ∃ i, e.name = blkName i)
include hcanon

/-- A canonical candidate is block file `idxOf e`, of an index below 10^5. -/
theorem name_eq_blkName_idxOf {e : Entry} (he : e ∈ dir) (hc : isBlkCandidate e) :
    e.name = blkName (idxOf e) ∧ idxOf e < 10 ^ 5 := by
  obtain ⟨i, hi⟩ := hcanon e he hc
  have hlen : i < 10 ^ 5 := by
    simp only [isBlkCandidate, Bool.and_eq_true, beq_iff_eq] at hc
    exact blkName_length.mp (hi ▸ hc.1.1.2)
  rw [idxOf, hi, substr_blkName_key hlen, atoi_fmt05u hlen]
  exact ⟨rfl, by omega⟩

omit hcanon in
theorem mapInsert_blkEntry {L : List Nat} (hL : ∀ j ∈ L, j < 10 ^ 5) {i : Nat} (hi : i < 10 ^ 5) :
    mapInsert (L.map blkEntry) (fmt05u i) (blkName i) = (idxInsert L i).map blkEntry := by
  induction L with
  | nil => rfl
  | cons j L ih =>
    simp only [List.mem_cons, forall_eq_or_imp] at hL
    simp only [List.map_cons, blkEntry, mapInsert, idxInsert, strLess_fmt05u hi hL.1,
      decide_eq_true_eq, fmt05u_injective.eq_iff]
    split_ifs with hlt heq
    · rfl
    · subst heq; rfl
    · simp only [List.map_cons, ← ih hL.2, blkEntry]

/-- The directory loop refines its index-level version: the map holds the entries of the
    indices `idxScan` collects, and the rev files met are removed. -/
theorem foldl_scanEntry : ∀ {L : List Nat} (revs : List String), (∀ j ∈ L, j < 10 ^ 5) →
    dir.foldl scanEntry (L.map blkEntry, revs) =
      ((idxScan L dir).map blkEntry, revs ++ (dir.filter isRevCandidate).map (·.name)) := by
  induction dir with
  | nil => simp [idxScan]
  | cons e dir ih =>
    intro L revs hL
    have hcanon' : ∀ e' ∈ dir, isBlkCandidate e' → ∃ i, e'.name = blkName i :=
      fun e' he' => hcanon e' (List.mem_cons_of_mem _ he')
    simp only [List.foldl_cons, scanEntry_eq, idxScan, List.filter_cons]
    by_cases hb : isBlkCandidate e
    · obtain ⟨hname, hlt⟩ := name_eq_blkName_idxOf hcanon (List.mem_cons_self _ _) hb
      have hr : isRevCandidate e = false := by
        simp only [isRevCandidate, hname, substr_blkName_prefix]
        simp
      rw [if_pos hb, if_pos hb, hname, substr_blkName_key hlt, mapInsert_blkEntry hL hlt,
        ih hcanon' revs (fun j hj => ?_), hr]
      · rfl
      · rcases mem_idxInsert.mp hj with rfl | hj
        exacts [hlt, hL j hj]
    · rw [if_neg hb, if_neg hb]
      split_ifs with hr
      · rw [ih hcanon' _ hL]
        simp [idxScan]
      · exact ih hcanon' revs hL

end Refinement

theorem walk_blkEntry {L : List Nat} (hL : ∀ j ∈ L, j < 10 ^ 5) (c : Nat) :
    walk (L.map blkEntry) c = (idxWalk L c).map blkName := by
  induction L generalizing c with
  | nil => rfl
  | cons i L ih =>
    simp only [List.mem_cons, forall_eq_or_imp] at hL
    simp only [List.map_cons, blkEntry, walk, idxWalk, atoi_fmt05u hL.1, Nat.cast_inj]
    split_ifs
    · have := ih hL.2 (c + 1)
      push_cast at this
      exact this
    · rw [List.map_cons, ih hL.2 c]

theorem idxWalk_of_lt {L : List Nat} {c : Nat} (h : ∀ x ∈ L, c < x) : idxWalk L c = L := by
  induction L with
  | nil => rfl
  | cons i L ih =>
    simp only [List.mem_cons, forall_eq_or_imp] at h
    simp [idxWalk, h.1.ne', ih h.2]

/-- On sorted indices from the counter on, the walk removes exactly the indices above a
    gap. -/
theorem mem_idxWalk {L : List Nat} (hL : L.Sorted (· < ·)) {c : Nat} (hc : ∀ x ∈ L, c ≤ x)
    (x : Nat) : x ∈ idxWalk L c ↔ x ∈ L ∧ ∃ m, c ≤ m ∧ m < x ∧ m ∉ L := by
  induction L generalizing c with
  | nil => simp [idxWalk]
  | cons i L ih =>
    rw [List.sorted_cons] at hL
    simp only [List.mem_cons, forall_eq_or_imp] at hc
    by_cases hi : i = c
    · subst hi
      rw [idxWalk, if_pos rfl, ih hL.2 hL.1]
      simp only [List.mem_cons, not_or]
      constructor
      · rintro ⟨hx, m, hm, hmx, hmL⟩
        exact ⟨.inr hx, m, by omega, hmx, by omega, hmL⟩
      · rintro ⟨hx | hx, m, hm, hmx, hne, hmL⟩
        · omega
        · exact ⟨hx, m, by omega, hmx, hmL⟩
    · have hgt : ∀ y ∈ i :: L, c < y := by
        simp only [List.mem_cons, forall_eq_or_imp]
        exact ⟨by omega, fun y hy => by have := hL.1 y hy; omega⟩
      rw [idxWalk_of_lt hgt]
      exact ⟨fun hx => ⟨hx, c, le_rfl, hgt x hx, fun hcm => lt_irrefl c (hgt c hcm)⟩, And.left⟩

theorem BlockFileExists_filter (dir : List Entry) (removed : List String) (i : Nat) :
    BlockFileExists (dir.filter fun e => !removed.contains e.name) i ↔
      BlockFileExists dir i ∧ blkName i ∉ removed := by
  simp only [BlockFileExists, List.any_filter, List.any_eq_true, Bool.and_eq_true,
    Bool.not_eq_true', beq_iff_eq]
  constructor
  · rintro ⟨e, he, hc, hname⟩
    exact ⟨⟨e, he, hname⟩, by simpa [hname] using hc⟩
  · rintro ⟨⟨e, he, hname⟩, hn⟩
    exact ⟨e, he, by simpa [hname] using hn, hname⟩

/-- A directory whose entries the cleanup takes for block files are named `blk%05u.dat`, the
    names ThreadImport reads, and whose block files are regular files. -/
structure CanonicalBlocks (dir : List Entry) : Prop where
  canonical : ∀ e ∈ dir, isBlkCandidate e → ∃ i, e.name = blkName i
  regular : ∀ e ∈ dir, ∀ i, e.name = blkName i → e.regular = true

/-- Block files 0 and 2 and their rev files, and `peers.dat`. -/
def gapDir : List Entry :=
  [⟨"blk00000.dat", true⟩, ⟨"rev00000.dat", true⟩, ⟨"blk00002.dat", true⟩,
    ⟨"rev00002.dat", true⟩, ⟨"peers.dat", true⟩]

theorem canonicalBlocks_gapDir : CanonicalBlocks gapDir := by
  constructor
  · intro e he hc
    simp only [gapDir, List.mem_cons, List.mem_singleton, List.not_mem_nil, or_false] at he
    rcases he with rfl | rfl | rfl | rfl | rfl
    · exact ⟨0, rfl⟩
    · exact absurd hc (by decide)
    · exact ⟨2, rfl⟩
    · exact absurd hc (by decide)
    · exact absurd hc (by decide)
  · intro e he i hi
    simp only [gapDir, List.mem_cons, List.mem_singleton, List.not_mem_nil, or_false] at he
    rcases he with rfl | rfl | rfl | rfl | rfl <;> rfl

/-- No name the cleanup takes for a rev file is a block file's. -/
theorem blkName_not_mem_revNames (dir : List Entry) (i : Nat) :
    blkName i ∉ (dir.filter isRevCandidate).map (·.name) := by
  intro hi
  obtain ⟨e, he, hname⟩ := List.mem_map.mp hi
  have hr := (List.mem_filter.mp he).2
  simp [isRevCandidate, hname, substr_blkName_prefix] at hr

/-- The walk removes block file `i` when it was scanned after a gap. -/
theorem blkName_mem_walk (dir : List Entry) (i : Nat) :
    blkName i ∈ (idxWalk (idxScan [] dir) 0).map blkName ↔
      i ∈ idxScan [] dir ∧ ∃ m < i, m ∉ idxScan [] dir := by
  rw [List.mem_map_of_injective blkName_injective,
    mem_idxWalk (sorted_idxScan dir List.sorted_nil) (fun _ _ => Nat.zero_le _)]
  simp

section CanonicalDir

variable {dir : List Entry} (h : CanonicalBlocks dir)
include h

theorem idxScan_lt : ∀ x ∈ idxScan [] dir, x < 10 ^ 5 := fun x hx => by
  obtain h' | ⟨e, he, hc, rfl⟩ := (mem_idxScan dir).mp hx
  · cases h'
  · exact (name_eq_blkName_idxOf h.canonical he hc).2

/-- The scan collects exactly the indices of the block files that exist. -/
theorem mem_idxScan_iff {x : Nat} (hx : x < 10 ^ 5) :
    x ∈ idxScan [] dir ↔ BlockFileExists dir x := by
  rw [mem_idxScan, BlockFileExists_iff]
  simp only [List.not_mem_nil, false_or, List.mem_map]
  constructor
  · rintro ⟨e, he, hc, rfl⟩
    exact ⟨e, he, (name_eq_blkName_idxOf h.canonical he hc).1⟩
  · rintro ⟨e, he, hname⟩
    have hc : isBlkCandidate e := by
      simp [isBlkCandidate, h.regular e he x hname, hname, blkName_length.mpr hx,
        substr_blkName_suffix hx, substr_blkName_prefix]
    refine ⟨e, he, hc, ?_⟩
    rw [idxOf, hname, substr_blkName_key hx, atoi_fmt05u hx]
    rfl

/-- The cleanup removes the rev files and the block files the walk names. -/
theorem CleanupBlockRevFiles_eq_filter : CleanupBlockRevFiles dir = dir.filter fun e =>
    !((dir.filter isRevCandidate).map (·.name) ++ (idxWalk (idxScan [] dir) 0).map blkName).contains
      e.name := by
  have hscan := foldl_scanEntry h.canonical [] (L := []) (fun _ h => by cases h)
  simp only [List.map_nil, List.nil_append] at hscan
  have hwalk := walk_blkEntry (idxScan_lt h) 0
  simp only [CleanupBlockRevFiles, hscan, Nat.cast_zero] at hwalk ⊢
  rw [hwalk]

theorem cleanup_not_isRevCandidate : ∀ e ∈ CleanupBlockRevFiles dir, isRevCandidate e = false := by
  intro e he
  rw [CleanupBlockRevFiles_eq_filter h, List.mem_filter] at he
  by_contra hr
  simp only [Bool.not_eq_false] at hr
  simp [List.mem_map_of_mem (·.name) (List.mem_filter.mpr ⟨he.1, hr⟩)] at he

theorem cleanup_blockFileExists_of_lt {i : Nat} (hi : i < 10 ^ 5) :
    BlockFileExists (CleanupBlockRevFiles dir) i ↔ ∀ m ≤ i, BlockFileExists dir m := by
  rw [CleanupBlockRevFiles_eq_filter h, BlockFileExists_filter, List.mem_append,
    blkName_mem_walk]
  simp only [blkName_not_mem_revNames, false_or, not_and, not_exists, not_not]
  constructor
  · rintro ⟨hex, hall⟩ m hm
    rcases Nat.lt_or_eq_of_le hm with hm | rfl
    · exact (mem_idxScan_iff h (by omega)).mp (hall ((mem_idxScan_iff h hi).mpr hex) m hm)
    · exact hex
  · intro hall
    exact ⟨hall i le_rfl, fun _ m hm => (mem_idxScan_iff h (by omega)).mpr (hall m hm.le)⟩

theorem cleanup_blockFileExists_of_ge {i : Nat} (hi : 10 ^ 5 ≤ i) :
    BlockFileExists (CleanupBlockRevFiles dir) i ↔ BlockFileExists dir i := by
  rw [CleanupBlockRevFiles_eq_filter h, BlockFileExists_filter, List.mem_append,
    blkName_mem_walk]
  have : i ∉ idxScan [] dir := fun hx => absurd (idxScan_lt h i hx) (by omega)
  simp only [blkName_not_mem_revNames, this, false_and, or_self, not_false_eq_true, and_true]

end CanonicalDir

/-- On a directory whose block file names are canonical, `CleanupBlockRevFiles` removes every
    rev file, keeps block file `i < 10^5` exactly when block files `0, …, i` all existed, and
    leaves the files of larger indices, whose names are longer than twelve bytes, alone. -/
theorem cleanup_keeps_contiguous_blocks (dir : List Entry) (h : CanonicalBlocks dir) :
    (∀ e ∈ CleanupBlockRevFiles dir, isRevCandidate e = false) ∧
    (∀ i < 10 ^ 5, BlockFileExists (CleanupBlockRevFiles dir) i ↔ ∀ m ≤ i, BlockFileExists dir m) ∧
    ∀ i, 10 ^ 5 ≤ i → (BlockFileExists (CleanupBlockRevFiles dir) i ↔ BlockFileExists dir i) :=
  ⟨cleanup_not_isRevCandidate h, fun _ => cleanup_blockFileExists_of_lt h,
    fun _ => cleanup_blockFileExists_of_ge h⟩

theorem cleanup_keeps_contiguous_blocks_gapDir :
    CanonicalBlocks gapDir ∧
      (∀ e ∈ CleanupBlockRevFiles gapDir, isRevCandidate e = false) ∧
      (∀ i < 10 ^ 5, BlockFileExists (CleanupBlockRevFiles gapDir) i ↔
        ∀ m ≤ i, BlockFileExists gapDir m) ∧
      ∀ i, 10 ^ 5 ≤ i →
        (BlockFileExists (CleanupBlockRevFiles gapDir) i ↔ BlockFileExists gapDir i) :=
  ⟨canonicalBlocks_gapDir, cleanup_keeps_contiguous_blocks gapDir canonicalBlocks_gapDir⟩

end Canonical

section CleanupThenReindex

/-- The reindex phase reads the same files from two directories that agree on which runs of
    block files from 0 exist. -/
theorem reindexPhase_eq_of_prefix {dir dir' : List Entry}
    (h : ∀ i, (∀ m ≤ i, BlockFileExists dir m) ↔ (∀ m ≤ i, BlockFileExists dir' m))
    (GetBlockFile : Nat → Bool) : reindexPhase dir GetBlockFile = reindexPhase dir' GetBlockFile := by
  obtain ⟨k, hok, hstop⟩ := exists_reindexStop dir GetBlockFile
  have hrun : ∀ i < k, ∀ m ≤ i, BlockFileExists dir m := fun i hi m hm => (hok m (by omega)).1
  have hok' : ∀ i < k, BlockFileExists dir' i ∧ GetBlockFile i :=
    fun i hi => ⟨(h i).mp (hrun i hi) i le_rfl, (hok i hi).2⟩
  have hstop' : ¬ (BlockFileExists dir' k ∧ GetBlockFile k) := fun ⟨he, hg⟩ => hstop
    ⟨(h k).mpr (fun m hm => (Nat.lt_or_eq_of_le hm).elim (fun hm => (hok' m hm).1) (· ▸ he)) k
      le_rfl, hg⟩
  rw [(reindexPhase_eq hok hstop).2, (reindexPhase_eq hok' hstop').2]

/-- On a directory whose block file names are canonical, the cleanup does not change what the
    reindex phase reads, whichever block files open. -/
theorem reindexPhase_CleanupBlockRevFiles (dir : List Entry) (h : CanonicalBlocks dir)
    (GetBlockFile : Nat → Bool) :
    reindexPhase (CleanupBlockRevFiles dir) GetBlockFile = reindexPhase dir GetBlockFile := by
  refine reindexPhase_eq_of_prefix (fun i => ⟨fun hall m hm => ?_, fun hall m hm => ?_⟩) _
  · rcases Nat.lt_or_ge m (10 ^ 5) with hm5 | hm5
    · exact (cleanup_blockFileExists_of_lt h hm5).mp (hall m hm) m le_rfl
    · exact (cleanup_blockFileExists_of_ge h hm5).mp (hall m hm)
  · rcases Nat.lt_or_ge m (10 ^ 5) with hm5 | hm5
    · exact (cleanup_blockFileExists_of_lt h hm5).mpr fun m' hm' => hall m' (hm'.trans hm)
    · exact (cleanup_blockFileExists_of_ge h hm5).mpr (hall m hm)

theorem reindexPhase_CleanupBlockRevFiles_gapDir :
    CanonicalBlocks gapDir ∧
      reindexPhase (CleanupBlockRevFiles gapDir) (fun _ => true) =
        reindexPhase gapDir (fun _ => true) :=
  ⟨canonicalBlocks_gapDir, reindexPhase_CleanupBlockRevFiles gapDir canonicalBlocks_gapDir _⟩

end CleanupThenReindex

end gulden.block_files
