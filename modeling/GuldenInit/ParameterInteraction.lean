import GuldenInit.Util

namespace gulden.parameter_interaction

/-- The constants of the node's headers that AppInitParameterInteraction and
    AppInitMain read. The model takes their values as parameters; the `int` ones are
    valid `int` values, and the reserve of add-node connections is not negative. -/
structure InitConstants where
  DEFAULT_TXINDEX : Bool
  DEFAULT_MAX_PEER_CONNECTIONS : Int64
  MAX_ADDNODE_CONNECTIONS : Int
  MAX_OUTBOUND_CONNECTIONS : Int
  FD_SETSIZE : Int
  DEFAULT_MAX_MEMPOOL_SIZE : Int64
  DEFAULT_MAX_MEMPOOL_SIZE_LOWMEM : Int64
  DEFAULT_DESCENDANT_SIZE_LIMIT : Int64
  MIN_DISK_SPACE_FOR_BLOCK_FILES : Nat
  hmindisk : MIN_DISK_SPACE_FOR_BLOCK_FILES < 2 ^ 64
  haddnode : 0 ≤ MAX_ADDNODE_CONNECTIONS ∧ MAX_ADDNODE_CONNECTIONS < 2 ^ 31
  hfdsetsize : -2 ^ 31 ≤ FD_SETSIZE ∧ FD_SETSIZE < 2 ^ 31

/-- A choice of the constants, at the values of the headers the code was derived from,
    to instantiate the lemmas at. -/
def sampleConstants : InitConstants where
  DEFAULT_TXINDEX := false
  DEFAULT_MAX_PEER_CONNECTIONS := Int64.ofInt 125
  MAX_ADDNODE_CONNECTIONS := 8
  MAX_OUTBOUND_CONNECTIONS := 8
  FD_SETSIZE := 1024
  DEFAULT_MAX_MEMPOOL_SIZE := Int64.ofInt 300
  DEFAULT_MAX_MEMPOOL_SIZE_LOWMEM := Int64.ofInt 100
  DEFAULT_DESCENDANT_SIZE_LIMIT := Int64.ofInt 101
  MIN_DISK_SPACE_FOR_BLOCK_FILES := 550 * 1024 * 1024
  hmindisk := by decide
  haddnode := by decide
  hfdsetsize := by decide

/-- `MIN_CORE_FILEDESCRIPTORS` outside Windows. -/
def MIN_CORE_FILEDESCRIPTORS : Int := 150

/-- The descriptor limits `getrlimit(RLIMIT_NOFILE, ...)` reports: the soft limit `rlim_cur`
    and the hard limit `rlim_max`, values of the 64-bit `rlim_t`, the soft one not above the
    hard one. -/
structure RLimit where
  rlim_cur : Nat
  rlim_max : Nat
  hcur : rlim_cur ≤ rlim_max
  hmax : rlim_max < 2 ^ 64

/-- What AppInitParameterInteraction learns from the host: the physical memory and the
    descriptor limits `getrlimit` reports (none when the call fails). -/
structure Host where
  systemPhysicalMemoryInBytes : Nat
  rlimit : Option RLimit

/-- `RaiseFileDescriptorLimit(nMinFD)` (util.cpp, not part of the sources) outside Windows.
    When `getrlimit` fails it takes the request as met. A soft limit below the request
    (`(rlim_t)nMinFD`) is raised to it but not past the hard limit, by a `setrlimit` that an
    unprivileged process may always make and a `getrlimit` that reads it back; the soft limit
    is returned as an `int`. -/
def RaiseFileDescriptorLimit (host : Host) (nMinFD : Int) : Int :=
  match host.rlimit with
  | none => nMinFD
  | some limitFD =>
    let want := (nMinFD % 2 ^ 64).toNat
    if limitFD.rlim_cur < want then wrap32 (min want limitFD.rlim_max)
    else wrap32 limitFD.rlim_cur

/-- The globals AppInitParameterInteraction sets, with the arguments it soft-sets and
    the warnings it emits. -/
structure ParamState where
  args : ArgsManager
  nUserMaxConnections : Int
  nMaxConnections : Int
  nFD : Int
  fPruneMode : Bool
  nPruneTarget : Nat
  warnings : List String

/-- The globals at process start, with the parsed arguments. -/
def ParamState.init (args : ArgsManager) : ParamState := ⟨args, 0, 0, 0, false, 0, []⟩

/-- The settings AppInitParameterInteraction lowers on a host with at most 1 GiB of
    memory: the argument, the value it soft-sets, and the warning it emits then. -/
def lowMemorySettings (c : InitConstants) : List (String × String × String) :=
  [("-maxconnections", i64tostr 40,
      "Reducing -maxconnections to 40, because of system limitations, this can be overridden by explicitely setting -maxconnections to a larger amount."),
    ("-maxmempool", i64tostr c.DEFAULT_MAX_MEMPOOL_SIZE_LOWMEM.val,
      "Reducing -maxmempool to 100, because of system limitations, this can be overridden by explicitely setting -maxmempool to a larger amount."),
    ("-dbcache", i64tostr 200,
      "Reducing -dbcache to 200, because of system limitations, this can be overridden by explicitely setting -dbcache to a larger amount."),
    ("-rpcthreads", i64tostr 1,
      "Reducing -rpcthreads to 1, because of system limitations, this can be overridden by explicitely setting -rpcthreads to a larger amount."),
    ("-reverseheaders", "0",
      "Disabling reverse header sync, because of system limitations, this can be overridden by explicitely setting -reverseheaders to true.")]

/-- One low-memory override: `SoftSetArg`, and a warning when it took effect. -/
def softSetWithWarning (aw : ArgsManager × List String) (setting : String × String × String) :
    ArgsManager × List String :=
  let (fSet, args) := aw.1.SoftSetArg setting.1 setting.2.1
  (args, if fSet then aw.2 ++ [setting.2.2] else aw.2)

/-- Over a table of distinct arguments, the overrides give each unset argument of the
    table its value and leave every other argument as it was. -/
theorem foldl_softSetWithWarning_mapArgs (settings : List (String × String × String))
    (hnodup : (settings.map Prod.fst).Nodup) (aw : ArgsManager × List String) (name : String) :
    (settings.foldl softSetWithWarning aw).1.mapArgs name =
      match settings.lookup name with
      | some v => if aw.1.IsArgSet name then aw.1.mapArgs name else some v.1
      | none => aw.1.mapArgs name := by
  induction settings generalizing aw with
  | nil => rfl
  | cons setting rest ih =>
    obtain ⟨strArg, strValue, msg⟩ := setting
    simp only [List.map_cons, List.nodup_cons] at hnodup
    simp only [List.foldl_cons, ih hnodup.2, List.lookup_cons, softSetWithWarning]
    by_cases hname : name = strArg
    · subst hname
      have hnone : rest.lookup name = none := by
        rw [List.lookup_eq_none_iff]
        intro a hmem
        have hne : a.1 ≠ name := fun heq => hnodup.1 (List.mem_map.2 ⟨a, hmem, heq⟩)
        rw [bne_iff_ne]
        exact fun heq => hne heq.symm
      cases hset : aw.1.IsArgSet name <;> simp [hset, hnone, ArgsManager.SoftSetArg_mapArgs]
    · have hbeq : (name == strArg) = false := by simpa using hname
      cases rest.lookup name <;> simp [hbeq, hname, ArgsManager.SoftSetArg_mapArgs]

/-- AppInitParameterInteraction: the block of `SoftSetArg` calls on a low-memory host. -/
def lowMemoryOverrides (c : InitConstants) (host : Host) (args : ArgsManager)
    (warnings : List String) : ArgsManager × List String :=
  if host.systemPhysicalMemoryInBytes ≤ 1 * 1024 * 1024 * 1024 then
    (lowMemorySettings c).foldl softSetWithWarning (args, warnings)
  else (args, warnings)

/-- `nBind`: the number of `-bind` and `-whitebind` addresses, at least one. -/
def nBind (args : ArgsManager) : Int :=
  wrap32 (max (((if args.IsArgSet "-bind" then (args.GetArgs "-bind").length else 0) +
    (if args.IsArgSet "-whitebind" then (args.GetArgs "-whitebind").length else 0)) % 2 ^ 64) 1 : Nat)

/-- `nSystemMaxConnections`: the soft descriptor limit as an `int`, or `FD_SETSIZE`
    when `getrlimit` fails. -/
def nSystemMaxConnections (c : InitConstants) (host : Host) : Int :=
  match host.rlimit with
  | none => c.FD_SETSIZE
  | some rlim => wrap32 rlim.rlim_cur

/-- The connection ceiling after its trim to the system's descriptors. -/
def trimmedMaxConnections (c : InitConstants) (nUserMaxConnections nSystemMaxConnections
    nBind : Int) : Int :=
  max (min (max nUserMaxConnections 0) (wrap32 (nSystemMaxConnections - nBind -
    MIN_CORE_FILEDESCRIPTORS - c.MAX_ADDNODE_CONNECTIONS))) 0

/-- AppInitParameterInteraction: the file descriptor budget, with the low-memory
    overrides that sit between the read of `-maxconnections` and the trim. -/
def fdBudget (c : InitConstants) (host : Host) (args : ArgsManager) (s : ParamState) :
    Except String ParamState :=
  let nUserMaxConnections := wrap32 (args.GetArg "-maxconnections" c.DEFAULT_MAX_PEER_CONNECTIONS).val
  let lowMemory := lowMemoryOverrides c host args s.warnings
  let nMaxConnections := trimmedMaxConnections c nUserMaxConnections
    (nSystemMaxConnections c host) (nBind args)
  let nFD := RaiseFileDescriptorLimit host
    (wrap32 (nMaxConnections + MIN_CORE_FILEDESCRIPTORS + c.MAX_ADDNODE_CONNECTIONS))
  if nFD < MIN_CORE_FILEDESCRIPTORS then .error "Not enough file descriptors available."
  else
    let nMaxConnections :=
      min (wrap32 (nFD - MIN_CORE_FILEDESCRIPTORS - c.MAX_ADDNODE_CONNECTIONS)) nMaxConnections
    .ok { s with
      args := lowMemory.1, nUserMaxConnections, nMaxConnections, nFD
      warnings := if nMaxConnections < nUserMaxConnections then
          lowMemory.2 ++ [s!"Reducing -maxconnections from {nUserMaxConnections} to {nMaxConnections}, because of system limitations."]
        else lowMemory.2 }

/-- `RaiseFileDescriptorLimit` returns an `int`. -/
theorem RaiseFileDescriptorLimit_lt (host : Host) {nMinFD : Int} (h : nMinFD < 2 ^ 31) :
    RaiseFileDescriptorLimit host nMinFD < 2 ^ 31 := by
  unfold RaiseFileDescriptorLimit
  split
  · exact h
  · dsimp only
    split <;> (unfold wrap32; omega)

/-- What a successful budget consists of: the descriptors obtained passed the check,
    and the ceiling is the trimmed one, cut to what they leave after the reserves. -/
theorem fdBudget_ok {c : InitConstants} {host : Host} {args : ArgsManager} {s s' : ParamState}
    (h : fdBudget c host args s = .ok s') :
    let n := trimmedMaxConnections c (wrap32 (args.GetArg "-maxconnections"
      c.DEFAULT_MAX_PEER_CONNECTIONS).val) (nSystemMaxConnections c host) (nBind args)
    s'.nFD = RaiseFileDescriptorLimit host
        (wrap32 (n + MIN_CORE_FILEDESCRIPTORS + c.MAX_ADDNODE_CONNECTIONS)) ∧
      MIN_CORE_FILEDESCRIPTORS ≤ s'.nFD ∧
      s'.nMaxConnections = min (wrap32 (s'.nFD - MIN_CORE_FILEDESCRIPTORS -
        c.MAX_ADDNODE_CONNECTIONS)) n ∧
      s'.args = (lowMemoryOverrides c host args s.warnings).1 := by
  dsimp only [fdBudget] at h
  split at h
  · cases h
  · cases h
    exact ⟨rfl, by dsimp only; omega, rfl, rfl⟩

/-- Whatever the host grants, a successful budget leaves room for the connection
    ceiling and both reserves inside the descriptors obtained. -/
theorem fdBudget_ceiling_le_nFD (c : InitConstants) (host : Host) (args : ArgsManager)
    {s s' : ParamState} (h : fdBudget c host args s = .ok s') :
    s'.nMaxConnections + MIN_CORE_FILEDESCRIPTORS + c.MAX_ADDNODE_CONNECTIONS ≤ s'.nFD := by
  obtain ⟨hFD, hmin, hmax, -⟩ := fdBudget_ok h
  have hadd := c.haddnode
  have hlt : s'.nFD < 2 ^ 31 := by
    rw [hFD]; exact RaiseFileDescriptorLimit_lt host (by unfold wrap32; omega)
  rw [hmax, wrap32_of_mem (by unfold MIN_CORE_FILEDESCRIPTORS at *; omega)
    (by unfold MIN_CORE_FILEDESCRIPTORS at *; omega)]
  omega

/-- A host whose soft and hard descriptor limits are both `MIN_CORE_FILEDESCRIPTORS`. -/
def minCoreHost (systemPhysicalMemoryInBytes : Nat) : Host :=
  ⟨systemPhysicalMemoryInBytes, some ⟨150, 150, le_rfl, by decide⟩⟩

/-- Whatever the request, `RaiseFileDescriptorLimit` gets 150 descriptors on that host: it
    cannot raise the soft limit past the hard one. -/
theorem RaiseFileDescriptorLimit_minCoreHost (systemPhysicalMemoryInBytes : Nat) (nMinFD : Int) :
    RaiseFileDescriptorLimit (minCoreHost systemPhysicalMemoryInBytes) nMinFD = 150 := by
  simp only [RaiseFileDescriptorLimit, minCoreHost]
  split_ifs with h
  · rw [min_eq_right (by omega)]; decide
  · decide

/-- On a host whose soft and hard descriptor limits are both `MIN_CORE_FILEDESCRIPTORS`, with
    any memory and any arguments, the descriptors obtained pass the check and the ceiling comes
    out as `-MAX_ADDNODE_CONNECTIONS`: the trim to the system leaves at least 0, and the last
    step takes `150 - MIN_CORE_FILEDESCRIPTORS - MAX_ADDNODE_CONNECTIONS` with no floor. -/
theorem fdBudget_ceiling_negative (c : InitConstants) (hadd : 0 < c.MAX_ADDNODE_CONNECTIONS)
    (systemPhysicalMemoryInBytes : Nat) (args : ArgsManager) (s : ParamState) :
    (fdBudget c (minCoreHost systemPhysicalMemoryInBytes) args s).map (·.nMaxConnections) =
      .ok (-c.MAX_ADDNODE_CONNECTIONS) := by
  have hadd' := c.haddnode
  have hcap : ∀ u sys b, 0 ≤ trimmedMaxConnections c u sys b := fun _ _ _ => by
    unfold trimmedMaxConnections; omega
  have hlast : wrap32 (150 - MIN_CORE_FILEDESCRIPTORS - c.MAX_ADDNODE_CONNECTIONS) =
      -c.MAX_ADDNODE_CONNECTIONS := by
    unfold MIN_CORE_FILEDESCRIPTORS; rw [wrap32_of_mem (by omega) (by omega)]; omega
  dsimp only [fdBudget]
  rw [RaiseFileDescriptorLimit_minCoreHost, if_neg (by unfold MIN_CORE_FILEDESCRIPTORS; omega)]
  simp only [Except.map, Except.ok.injEq]
  rw [hlast, min_eq_left ((neg_nonpos.2 hadd.le).trans (hcap _ _ _))]

theorem fdBudget_ceiling_negative_at_sample :
    0 < sampleConstants.MAX_ADDNODE_CONNECTIONS ∧
      (fdBudget sampleConstants (minCoreHost (2 ^ 33)) ArgsManager.empty
        (ParamState.init ArgsManager.empty)).map (·.nMaxConnections) = .ok (-8) :=
  ⟨by decide, fdBudget_ceiling_negative sampleConstants (by decide) (2 ^ 33) _ _⟩

/-- AppInitParameterInteraction: pruning rules out `-txindex`. -/
def checkPruneTxIndex (c : InitConstants) (args : ArgsManager) : Except String Unit :=
  if (args.GetArg "-prune" (Int64.ofInt 0)).val ≠ 0 ∧ args.GetBoolArg "-txindex" c.DEFAULT_TXINDEX then
    .error "Prune mode is incompatible with -txindex."
  else .ok ()

/-- AppInitParameterInteraction: the arguments no longer supported, two of them fatal
    because continuing would be a privacy risk. -/
def unsupportedArguments (args : ArgsManager) (warnings : List String) :
    Except String (List String) :=
  let warnings := if args.GetBoolArg "-debugnet" false then
    warnings ++ ["Unsupported argument -debugnet ignored, use -debug=net."] else warnings
  if args.IsArgSet "-socks" then
    .error "Unsupported argument -socks found. Setting SOCKS version isn\x27t possible anymore, only SOCKS5 proxies are supported."
  else if args.GetBoolArg "-tor" false then .error "Unsupported argument -tor found, use -onion."
  else
    let warnings := if args.GetBoolArg "-benchmark" false then
      warnings ++ ["Unsupported argument -benchmark ignored, use -debug=bench."] else warnings
    let warnings := if args.GetBoolArg "-whitelistalwaysrelay" false then
      warnings ++ ["Unsupported argument -whitelistalwaysrelay ignored, use -whitelistrelay and/or -whitelistforcerelay."]
      else warnings
    .ok (if args.IsArgSet "-blockminsize" then
      warnings ++ ["Unsupported argument -blockminsize ignored."] else warnings)

/-- AppInitParameterInteraction: the mempool must hold the largest descendant package.
    Both sizes are `int64_t` products; the message rounds the minimum up to MB. -/
def mempoolLimits (c : InitConstants) (args : ArgsManager) : Except String Unit :=
  let nMempoolSizeMax := wrap64 ((args.GetArg "-maxmempool" c.DEFAULT_MAX_MEMPOOL_SIZE).val * 1000000)
  let nMempoolSizeMin := wrap64 (wrap64
    ((args.GetArg "-limitdescendantsize" c.DEFAULT_DESCENDANT_SIZE_LIMIT).val * 1000) * 40)
  if nMempoolSizeMax < 0 ∨ nMempoolSizeMax < nMempoolSizeMin then
    let nMinMB := -(-nMempoolSizeMin / 1000000)
    .error s!"-maxmempool must be at least {nMinMB} MB"
  else .ok ()

/-- AppInitParameterInteraction: the disk space to allot to block and undo files, from
    `-prune` in MiB; `1` asks for manual pruning. -/
def pruneTarget (c : InitConstants) (nPruneArg : Int64) (s : ParamState) :
    Except String ParamState :=
  if nPruneArg.val < 0 then .error "Prune cannot be configured with a negative value."
  else
    let nPruneTarget := nPruneArg.val.toNat * 1024 * 1024 % 2 ^ 64
    if nPruneArg.val = 1 then .ok { s with nPruneTarget := 2 ^ 64 - 1, fPruneMode := true }
    else if nPruneTarget ≠ 0 then
      if nPruneTarget < c.MIN_DISK_SPACE_FOR_BLOCK_FILES then
        let nMinMiB := c.MIN_DISK_SPACE_FOR_BLOCK_FILES / 1024 / 1024
        .error s!"Prune configured below the minimum of {nMinMiB} MiB.  Please use a higher number."
      else .ok { s with nPruneTarget, fPruneMode := true }
    else .ok { s with nPruneTarget }

/-- AppInitParameterInteraction, from the parsed arguments in `s.args` and the globals'
    values before the call, through the steps the model covers. -/
def appInitParameterInteraction (c : InitConstants) (host : Host) (s : ParamState) :
    Except String ParamState := do
  checkPruneTxIndex c s.args
  let s ← fdBudget c host s.args s
  let warnings ← unsupportedArguments s.args s.warnings
  mempoolLimits c s.args
  pruneTarget c (s.args.GetArg "-prune" (Int64.ofInt 0)) { s with warnings }

/-- Below `2^44` MiB the target does not wrap: the step fails exactly for a negative
    value or for a target under the minimum, and a successful one turns pruning on
    exactly for a positive value, with the full target in bytes. -/
theorem pruneTarget_of_lt (c : InitConstants) (nPruneArg : Int64) (s : ParamState)
    (hp : nPruneArg.val < 2 ^ 44) :
    ((∃ e, pruneTarget c nPruneArg s = .error e) ↔ nPruneArg.val < 0 ∨
      (1 < nPruneArg.val ∧ nPruneArg.val * 2 ^ 20 < c.MIN_DISK_SPACE_FOR_BLOCK_FILES)) ∧
    ∀ s', pruneTarget c nPruneArg s = .ok s' →
      s'.fPruneMode = (s.fPruneMode || decide (1 ≤ nPruneArg.val)) ∧
      (nPruneArg.val = 1 → s'.nPruneTarget = 2 ^ 64 - 1) ∧
      (1 < nPruneArg.val → (s'.nPruneTarget : Int) = nPruneArg.val * 2 ^ 20) := by
  obtain ⟨p, hlo, hhi⟩ := nPruneArg
  dsimp only at hp ⊢
  have hmod : p.toNat * 1024 * 1024 % 2 ^ 64 = p.toNat * 2 ^ 20 := by
    rw [Nat.mod_eq_of_lt (by omega)]; omega
  unfold pruneTarget
  simp only [hmod]
  split_ifs with hneg h1 hz hmin
  · exact ⟨iff_of_true ⟨_, rfl⟩ (.inl hneg), fun _ h => nomatch h⟩
  · subst h1
    refine ⟨iff_of_false (fun ⟨_, h⟩ => nomatch h) (by omega), fun s' h => ?_⟩
    cases h; simp
  · exact ⟨iff_of_true ⟨_, rfl⟩ (.inr ⟨by omega, by omega⟩), fun _ h => nomatch h⟩
  · refine ⟨iff_of_false (fun ⟨_, h⟩ => nomatch h) (by omega), fun s' h => ?_⟩
    cases h
    exact ⟨by simp; omega, fun h => absurd h h1, fun _ => by push_cast; omega⟩
  · refine ⟨iff_of_false (fun ⟨_, h⟩ => nomatch h) (by omega), fun s' h => ?_⟩
    cases h
    exact ⟨by simp; omega, fun h => absurd h h1, fun _ => by omega⟩

/-- A request of `2^44` MiB is `2^64` bytes, which wraps to a target of zero: pruning
    stays off, as for `-prune=0`. -/
theorem pruneTarget_wraps (c : InitConstants) (s : ParamState) :
    pruneTarget c ⟨2 ^ 44, by decide, by decide⟩ s = .ok { s with nPruneTarget := 0 } := by
  simp [pruneTarget]

section MempoolLimits

/-- `-maxmempool` and `-limitdescendantsize` given as the `int64_t` values `m` and `l`. -/
def mempoolArgs (m l : Int64) : ArgsManager :=
  (ArgsManager.empty.ForceSetArg "-maxmempool" (i64tostr m.val)).ForceSetArg
    "-limitdescendantsize" (i64tostr l.val)

theorem mempoolArgs_GetArg (m l d d' : Int64) :
    (mempoolArgs m l).GetArg "-maxmempool" d = m ∧
      (mempoolArgs m l).GetArg "-limitdescendantsize" d' = l := by
  simp [mempoolArgs, ArgsManager.GetArg, ArgsManager.ForceSetArg, atoi64_i64tostr]

/-- The check rejects exactly when the two `int64_t` products, as they wrap, say so. -/
theorem mempoolLimits_error_iff (c : InitConstants) (m l : Int64) :
    (∃ e, mempoolLimits c (mempoolArgs m l) = .error e) ↔
      wrap64 (m.val * 1000000) < 0 ∨
        wrap64 (m.val * 1000000) < wrap64 (wrap64 (l.val * 1000) * 40) := by
  obtain ⟨hm, hl⟩ := mempoolArgs_GetArg m l c.DEFAULT_MAX_MEMPOOL_SIZE c.DEFAULT_DESCENDANT_SIZE_LIMIT
  unfold mempoolLimits
  rw [hm, hl]
  dsimp only
  by_cases h : wrap64 (m.val * 1000000) < 0 ∨
      wrap64 (m.val * 1000000) < wrap64 (wrap64 (l.val * 1000) * 40)
  · rw [if_pos h]; exact iff_of_true ⟨_, rfl⟩ h
  · rw [if_neg h]; exact iff_of_false (fun ⟨_, he⟩ => nomatch he) h

/-- Where neither size leaves `int64_t`, the check rejects exactly as over exact integers. -/
theorem mempoolLimits_of_mem (c : InitConstants) (m l : Int64)
    (hm : -2 ^ 63 ≤ m.val * 1000000 ∧ m.val * 1000000 < 2 ^ 63)
    (hl : -2 ^ 63 ≤ l.val * 40000 ∧ l.val * 40000 < 2 ^ 63) :
    (∃ e, mempoolLimits c (mempoolArgs m l) = .error e) ↔
      m.val * 1000000 < 0 ∨ m.val * 1000000 < l.val * 40000 := by
  rw [mempoolLimits_error_iff, wrap64_of_mem hm.1 hm.2,
    wrap64_of_mem (x := l.val * 1000) (by omega) (by omega),
    wrap64_of_mem (x := l.val * 1000 * 40) (by omega) (by omega)]
  omega

/-- Both sizes are `int64_t` products, so large values decide the check through their wrapped
    values: `-maxmempool=9223372036855` wraps to a negative size and is rejected with any
    `-limitdescendantsize`, and `-limitdescendantsize=230584300921370` wraps to a negative
    minimum that lets `-maxmempool=300` through, the opposite of what exact integers give. -/
theorem mempoolLimits_wraps (c : InitConstants) :
    ((∃ e, mempoolLimits c (mempoolArgs ⟨9223372036855, by decide, by decide⟩
        ⟨1, by decide, by decide⟩) = .error e) ∧
      ¬ ((9223372036855 : Int) * 1000000 < 0 ∨ (9223372036855 : Int) * 1000000 < 1 * 40000)) ∧
    ((∀ e, mempoolLimits c (mempoolArgs ⟨300, by decide, by decide⟩
        ⟨230584300921370, by decide, by decide⟩) ≠ .error e) ∧
      ((300 : Int) * 1000000 < 0 ∨ (300 : Int) * 1000000 < 230584300921370 * 40000)) := by
  refine ⟨⟨(mempoolLimits_error_iff c _ _).2 (by decide), by decide⟩,
    fun e he => ?_, by decide⟩
  exact absurd ((mempoolLimits_error_iff c _ _).1 ⟨e, he⟩) (by decide)

end MempoolLimits

end gulden.parameter_interaction

namespace gulden.numeric_args

/-- AppInitParameterInteraction's `-par`: `nScriptCheckThreads`, an `int` holding GetArg's
    `int64_t`. A value not above 0 counts from the cores (`-par=0` is every core, `-par=-k`
    leaves `k` free); under 2 there is no concurrency (0), and at most
    `MAX_SCRIPTCHECK_THREADS` threads check scripts. `GetNumCores()` is an `int` no smaller
    than 0, so the addition does not overflow. -/
def scriptCheckThreads (MAX_SCRIPTCHECK_THREADS DEFAULT_SCRIPTCHECK_THREADS GetNumCores : Int)
    (args : ArgsManager) : Int :=
  let nScriptCheckThreads :=
    (Int32.ofInt (args.GetArg "-par" (Int64.ofInt DEFAULT_SCRIPTCHECK_THREADS)).val).val
  let nScriptCheckThreads :=
    if nScriptCheckThreads ≤ 0 then nScriptCheckThreads + GetNumCores else nScriptCheckThreads
  if nScriptCheckThreads ≤ 1 then 0
  else if nScriptCheckThreads > MAX_SCRIPTCHECK_THREADS then MAX_SCRIPTCHECK_THREADS
  else nScriptCheckThreads

/-- AppInitMain Step 4a: the `ThreadScriptCheck` threads started, one fewer than
    `nScriptCheckThreads` when it is not 0 (the thread that waits on the check queue takes
    part in the checks). -/
def scriptCheckThreadsStarted (nScriptCheckThreads : Int) : Nat :=
  if nScriptCheckThreads ≠ 0 then (nScriptCheckThreads - 1).toNat else 0

/-- AppInitParameterInteraction's `-checkmempool`: the mempool sanity check runs once in
    `ratio` transactions. `std::max<int>` and `std::min<int>` take GetArg's `int64_t` as an
    `int`; `DefaultConsistencyChecks()` makes the default 1. -/
def checkMempoolRatio (DefaultConsistencyChecks : Bool) (args : ArgsManager) : Int :=
  min (max (Int32.ofInt (args.GetArg "-checkmempool"
    (Int64.ofInt (if DefaultConsistencyChecks then 1 else 0))).val).val 0) 1000000

/-- AppInitParameterInteraction's `-timeout`: `nConnectTimeout`, an `int`, back to the
    default when not above 0. -/
def connectTimeout (DEFAULT_CONNECT_TIMEOUT : Int) (args : ArgsManager) : Int :=
  let nConnectTimeout :=
    (Int32.ofInt (args.GetArg "-timeout" (Int64.ofInt DEFAULT_CONNECT_TIMEOUT)).val).val
  if nConnectTimeout ≤ 0 then DEFAULT_CONNECT_TIMEOUT else nConnectTimeout

/-- AppInitMain Step 6: `nMaxOutboundLimit`, a `uint64_t`, 0 (no limit) unless
    `-maxuploadtarget` is set; then the value times 1024 * 1024 as an `int64_t` (wrapping
    where the product overflows), converted. -/
def maxOutboundLimit (DEFAULT_MAX_UPLOAD_TARGET : Int64) (args : ArgsManager) : Nat :=
  if args.IsArgSet "-maxuploadtarget" then
    (wrap64 ((args.GetArg "-maxuploadtarget" DEFAULT_MAX_UPLOAD_TARGET).val * 1024 * 1024) %
      2 ^ 64).toNat
  else 0

end gulden.numeric_args
