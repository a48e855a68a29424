import GuldenInit.Util

namespace gulden.cache_sizes

/-- The cache bounds of `txdb.h`, in MiB. The model takes their values as parameters,
    with what those values satisfy: no bound is negative, the total's bounds form a
    range, and each bound stays inside `int64_t` once shifted left by 20. -/
structure CacheLimits where
  nDefaultDbCache : Int64
  nMinDbCache : Int
  nMaxDbCache : Int
  nMaxBlockDBCache : Int
  nMaxBlockDBAndTxIndexCache : Int
  nMaxCoinsDBCache : Int
  hmin : 0 ≤ nMinDbCache
  hrange : nMinDbCache ≤ nMaxDbCache
  hmax : nMaxDbCache < 2 ^ 43
  hblock : 0 ≤ nMaxBlockDBCache ∧ nMaxBlockDBCache < 2 ^ 43
  htxindex : 0 ≤ nMaxBlockDBAndTxIndexCache ∧ nMaxBlockDBAndTxIndexCache < 2 ^ 43
  hcoins : 0 ≤ nMaxCoinsDBCache ∧ nMaxCoinsDBCache < 2 ^ 43

/-- A choice of the bounds, at the values of the headers the code was derived from, to
    instantiate the lemmas at. -/
def sampleLimits : CacheLimits :=
  ⟨Int64.ofInt 450, 4, 16384, 2, 1024, 8, by decide, by decide, by decide, by decide, by decide,
    by decide⟩

/-- `x << 20` on `int64_t`. -/
def shl20 (x : Int) : Int := wrap64 (x * 2 ^ 20)

theorem shl20_of_mem {x : Int} (hlo : -2 ^ 43 ≤ x) (hhi : x < 2 ^ 43) : shl20 x = x * 2 ^ 20 :=
  wrap64_of_mem (by omega) (by omega)

/-- AppInitMain: the total cache, from the value `d` of `-dbcache`, shifted to bytes
    and then clamped to `[nMinDbCache, nMaxDbCache]` MiB. -/
def nTotalCache (k : CacheLimits) (d : Int64) : Int :=
  min (max (shl20 d.val) (shl20 k.nMinDbCache)) (shl20 k.nMaxDbCache)

/-- A request whose size in bytes fits `int64_t` is clamped to
    `[nMinDbCache, nMaxDbCache]` MiB and then scaled, as if the clamp came first. -/
theorem nTotalCache_of_mem (k : CacheLimits) (d : Int64) (hlo : -2 ^ 43 ≤ d.val)
    (hhi : d.val < 2 ^ 43) :
    nTotalCache k d = min (max d.val k.nMinDbCache) k.nMaxDbCache * 2 ^ 20 := by
  have hmin := k.hmin
  have hrange := k.hrange
  have hmax := k.hmax
  simp only [nTotalCache, shl20_of_mem hlo hhi, shl20_of_mem (by omega) hmax,
    shl20_of_mem (by omega : -2 ^ 43 ≤ k.nMinDbCache) (by omega)]
  omega

/-- A request of `2^43` MiB shifts to `2^63`, which wraps to `INT64_MIN`, so the clamp
    raises it to the minimum total; one MiB less gets the maximum. -/
theorem nTotalCache_wraps (k : CacheLimits) (hlt : k.nMinDbCache < k.nMaxDbCache) :
    nTotalCache k ⟨2 ^ 43, by decide, by decide⟩ = k.nMinDbCache * 2 ^ 20 ∧
      nTotalCache k ⟨2 ^ 43 - 1, by decide, by decide⟩ = k.nMaxDbCache * 2 ^ 20 ∧
      k.nMinDbCache * 2 ^ 20 < k.nMaxDbCache * 2 ^ 20 := by
  have hmin := k.hmin
  have hmax := k.hmax
  refine ⟨?_, ?_, by omega⟩
  · simp only [nTotalCache, shl20_of_mem (by omega) hmax,
      shl20_of_mem (by omega : -2 ^ 43 ≤ k.nMinDbCache) (by omega)]
    have hwrap : shl20 (2 ^ 43) = -2 ^ 63 := by decide
    rw [hwrap]
    omega
  · rw [nTotalCache_of_mem k _ (by decide) (by decide)]
    dsimp only
    omega

theorem nTotalCache_wraps_at_sample :
    sampleLimits.nMinDbCache < sampleLimits.nMaxDbCache ∧
      nTotalCache sampleLimits ⟨2 ^ 43, by decide, by decide⟩ = sampleLimits.nMinDbCache * 2 ^ 20 ∧
      nTotalCache sampleLimits ⟨2 ^ 43 - 1, by decide, by decide⟩ =
        sampleLimits.nMaxDbCache * 2 ^ 20 ∧
      sampleLimits.nMinDbCache * 2 ^ 20 < sampleLimits.nMaxDbCache * 2 ^ 20 :=
  ⟨by decide, nTotalCache_wraps sampleLimits (by decide)⟩

/-- The cap on the block index cache: larger with `-txindex`. -/
def blockTreeCap (k : CacheLimits) (fTxIndex : Bool) : Int :=
  if fTxIndex then k.nMaxBlockDBAndTxIndexCache else k.nMaxBlockDBCache

theorem blockTreeCap_mem (k : CacheLimits) (fTxIndex : Bool) :
    0 ≤ blockTreeCap k fTxIndex ∧ blockTreeCap k fTxIndex < 2 ^ 43 := by
  cases fTxIndex
  · exact k.hblock
  · exact k.htxindex

/-- The three caches AppInitMain carves out of the total. -/
structure CacheSizes where
  nBlockTreeDBCache : Int
  nCoinDBCache : Int
  nCoinCacheUsage : Int
  deriving DecidableEq, Repr

/-- AppInitMain: the split of the total cache `nTotalCache` (bytes) between the block
    index database, the chain state database and the in-memory coins cache. -/
def cacheSizes (k : CacheLimits) (fTxIndex : Bool) (nTotalCache : Int) : CacheSizes :=
  let nBlockTreeDBCache := min (nTotalCache.tdiv 8) (shl20 (blockTreeCap k fTxIndex))
  let nTotalCache := wrap64 (nTotalCache - nBlockTreeDBCache)
  let nCoinDBCache := min (nTotalCache.tdiv 2) (wrap64 (nTotalCache.tdiv 4 + 2 ^ 23))
  let nCoinDBCache := min nCoinDBCache (shl20 k.nMaxCoinsDBCache)
  let nTotalCache := wrap64 (nTotalCache - nCoinDBCache)
  ⟨nBlockTreeDBCache, nCoinDBCache, nTotalCache⟩

/-- The totals the clamp can produce. -/
def InCacheRange (k : CacheLimits) (T : Int) : Prop :=
  k.nMinDbCache * 2 ^ 20 ≤ T ∧ T ≤ k.nMaxDbCache * 2 ^ 20

/-- The block index share of a total `T`, over exact integers. -/
def blockTreeShare (k : CacheLimits) (fTxIndex : Bool) (T : Int) : Int :=
  min (T / 8) (blockTreeCap k fTxIndex * 2 ^ 20)

/-- The chain state share of the rest `R`, over exact integers: a quarter plus 8 MiB,
    at most a half, and at most its cap. -/
def coinDBShare (k : CacheLimits) (R : Int) : Int :=
  min (min (R / 2) (R / 4 + 2 ^ 23)) (k.nMaxCoinsDBCache * 2 ^ 20)

/-- Inside the range no step of the split wraps, so it is the split over exact
    integers with floored division. -/
theorem cacheSizes_of_inCacheRange (k : CacheLimits) (fTxIndex : Bool) {T : Int}
    (hT : InCacheRange k T) :
    cacheSizes k fTxIndex T =
      let R := T - blockTreeShare k fTxIndex T
      ⟨blockTreeShare k fTxIndex T, coinDBShare k R, R - coinDBShare k R⟩ := by
  obtain ⟨hlo, hhi⟩ := hT
  have hmin := k.hmin
  have hmax := k.hmax
  have hcap := blockTreeCap_mem k fTxIndex
  have hcoins := k.hcoins
  have hT0 : 0 ≤ T := le_trans (by positivity) hlo
  simp (disch := omega) only [cacheSizes, shl20_of_mem, Int.tdiv_eq_ediv, wrap64_of_mem,
    blockTreeShare, coinDBShare]

theorem blockTreeShare_mono (k : CacheLimits) (fTxIndex : Bool) {T T' : Int} (hle : T ≤ T') :
    blockTreeShare k fTxIndex T ≤ blockTreeShare k fTxIndex T' ∧
      T - blockTreeShare k fTxIndex T ≤ T' - blockTreeShare k fTxIndex T' := by
  unfold blockTreeShare
  omega

theorem coinDBShare_mono (k : CacheLimits) {R R' : Int} (hle : R ≤ R') :
    coinDBShare k R ≤ coinDBShare k R' ∧ R - coinDBShare k R ≤ R' - coinDBShare k R' := by
  have h2 : R / 2 ≤ R' / 2 ∧ R - R / 2 ≤ R' - R' / 2 := by omega
  have h4 : R / 4 ≤ R' / 4 ∧ R - R / 4 ≤ R' - R' / 4 := by omega
  unfold coinDBShare
  generalize R / 2 = a, R' / 2 = a', R / 4 = b, R' / 4 = b' at h2 h4 ⊢
  omega

/-- What the split guarantees at a total `T`: three non-negative parts that add up to
    `T`, the block index part `T/8` up to its cap, and the chain state part between a
    quarter and a half of the rest, up to its own cap. -/
def SplitBounds (k : CacheLimits) (fTxIndex : Bool) (T : Int) (s : CacheSizes) : Prop :=
  0 ≤ s.nBlockTreeDBCache ∧ 0 ≤ s.nCoinDBCache ∧ 0 ≤ s.nCoinCacheUsage ∧
  s.nBlockTreeDBCache + s.nCoinDBCache + s.nCoinCacheUsage = T ∧
  s.nBlockTreeDBCache = min (T / 8) (blockTreeCap k fTxIndex * 2 ^ 20) ∧
  min ((T - s.nBlockTreeDBCache) / 4) (k.nMaxCoinsDBCache * 2 ^ 20) ≤ s.nCoinDBCache ∧
  s.nCoinDBCache ≤ min ((T - s.nBlockTreeDBCache) / 2) (k.nMaxCoinsDBCache * 2 ^ 20)

/-- Each of the three caches is at most the corresponding one of `t`. -/
def CacheSizes.Le (s t : CacheSizes) : Prop :=
  s.nBlockTreeDBCache ≤ t.nBlockTreeDBCache ∧ s.nCoinDBCache ≤ t.nCoinDBCache ∧
    s.nCoinCacheUsage ≤ t.nCoinCacheUsage

/-- Every clamped total splits into three non-negative caches that use it up exactly,
    each within its share and cap, and no cache shrinks when the total grows. -/
theorem cacheSizes_split (k : CacheLimits) (fTxIndex : Bool) {T : Int} (hT : InCacheRange k T) :
    SplitBounds k fTxIndex T (cacheSizes k fTxIndex T) ∧
      ∀ T', InCacheRange k T' → T ≤ T' →
        (cacheSizes k fTxIndex T).Le (cacheSizes k fTxIndex T') := by
  refine ⟨?_, fun T' hT' hle => ?_⟩
  · have hcap := blockTreeCap_mem k fTxIndex
    have hcoins := k.hcoins
    have hT0 : 0 ≤ T := le_trans (mul_nonneg k.hmin (by positivity)) hT.1
    rw [cacheSizes_of_inCacheRange k fTxIndex hT]
    simp only [SplitBounds, blockTreeShare, coinDBShare, and_true, true_and]
    refine ⟨?_, ?_, ?_, ?_, ?_, ?_⟩ <;> omega
  · obtain ⟨hb, hR⟩ := blockTreeShare_mono k fTxIndex hle
    obtain ⟨hc, hu⟩ := coinDBShare_mono k hR
    rw [cacheSizes_of_inCacheRange k fTxIndex hT, cacheSizes_of_inCacheRange k fTxIndex hT']
    exact ⟨hb, hc, hu⟩

theorem cacheSizes_split_at_sample :
    InCacheRange sampleLimits (450 * 2 ^ 20) ∧
      SplitBounds sampleLimits false (450 * 2 ^ 20) (cacheSizes sampleLimits false (450 * 2 ^ 20)) ∧
      ∀ T', InCacheRange sampleLimits T' → 450 * 2 ^ 20 ≤ T' →
        (cacheSizes sampleLimits false (450 * 2 ^ 20)).Le (cacheSizes sampleLimits false T') :=
  have hT : InCacheRange sampleLimits (450 * 2 ^ 20) := ⟨by decide, by decide⟩
  ⟨hT, cacheSizes_split sampleLimits false hT⟩

end gulden.cache_sizes
