import GuldenInit.ParameterInteraction
import GuldenInit.CacheSizes

namespace gulden.settings

open parameter_interaction cache_sizes

/-- The connection limits AppInitMain hands to `CConnman::Start`. -/
structure ConnOptions where
  nMaxConnections : Int
  nMaxOutbound : Int
  nMaxAddnode : Int
  nMaxFeeler : Int

/-- AppInitMain: `connOptions`, from the globals AppInitParameterInteraction set. -/
def connOptions (c : InitConstants) (s : ParamState) : ConnOptions :=
  ⟨s.nMaxConnections, min c.MAX_OUTBOUND_CONNECTIONS s.nMaxConnections, c.MAX_ADDNODE_CONNECTIONS, 1⟩

/-- The settings the node runs with, read after AppInitParameterInteraction: the
    connection ceiling, `-maxmempool` as the mempool check reads it, the total cache
    before its split, `-rpcthreads` when it is set, and the reverse header sync. -/
structure NodeSettings where
  nMaxConnections : Int
  nMaxMempool : Int64
  nTotalCache : Int
  nRPCThreads : Option Int64
  fReverseHeaders : Bool

def nodeSettings (c : InitConstants) (k : CacheLimits) (s : ParamState) : NodeSettings where
  nMaxConnections := (connOptions c s).nMaxConnections
  nMaxMempool := s.args.GetArg "-maxmempool" c.DEFAULT_MAX_MEMPOOL_SIZE
  nTotalCache := nTotalCache k (s.args.GetArg "-dbcache" k.nDefaultDbCache)
  nRPCThreads := (s.args.mapArgs "-rpcthreads").map atoi64
  fReverseHeaders := s.args.GetBoolArg "-reverseheaders" true

/-- On a host with at most 1 GiB the overrides give each unset argument of the table its
    low-memory text and leave every set one, and every other argument, as it was. -/
theorem lowMemoryOverrides_mapArgs (c : InitConstants) (host : Host)
    (hlow : host.systemPhysicalMemoryInBytes ≤ 1 * 1024 * 1024 * 1024) (args : ArgsManager)
    (warnings : List String) (name : String) :
    (lowMemoryOverrides c host args warnings).1.mapArgs name =
      match (lowMemorySettings c).lookup name with
      | some v => if args.IsArgSet name then args.mapArgs name else some v.1
      | none => args.mapArgs name := by
  have hnames : ((lowMemorySettings c).map Prod.fst).Nodup := by
    rw [show (lowMemorySettings c).map Prod.fst =
      ["-maxconnections", "-maxmempool", "-dbcache", "-rpcthreads", "-reverseheaders"] from rfl]
    decide
  rw [lowMemoryOverrides, if_pos hlow]
  exact foldl_softSetWithWarning_mapArgs _ hnames (args, warnings) name

/-- `lowMemoryOverrides_mapArgs` for an argument of the table with low-memory text `v`. -/
private theorem lowMemory_mapArgs_of_lookup {c : InitConstants} (host : Host)
    (hlow : host.systemPhysicalMemoryInBytes ≤ 1 * 1024 * 1024 * 1024) {args : ArgsManager}
    {warnings : List String} {name v : String}
    (hv : ((lowMemorySettings c).lookup name).map Prod.fst = some v) :
    (lowMemoryOverrides c host args warnings).1.mapArgs name =
      if args.IsArgSet name then args.mapArgs name else some v := by
  rw [lowMemoryOverrides_mapArgs c host hlow]
  cases hlook : (lowMemorySettings c).lookup name with
  | none => simp [hlook] at hv
  | some w => simp only [hlook, Option.map_some', Option.some.injEq] at hv; subst hv; rfl

/-- On a host with at most 1 GiB, whatever the arguments: `-maxmempool`, `-dbcache`,
    `-rpcthreads` and `-reverseheaders` take their low-memory values in what the node
    reads when the user left them unset, and keep the user's values otherwise. -/
theorem lowMemory_nodeSettings (c : InitConstants) (k : CacheLimits) (host : Host)
    (hlow : host.systemPhysicalMemoryInBytes ≤ 1 * 1024 * 1024 * 1024)
    (hdbcache : k.nMinDbCache ≤ 200 ∧ 200 ≤ k.nMaxDbCache) {args : ArgsManager}
    {s s' : ParamState} (h : fdBudget c host args s = .ok s') :
    let r := nodeSettings c k s'
    r.nMaxMempool = (if args.IsArgSet "-maxmempool" then
        args.GetArg "-maxmempool" c.DEFAULT_MAX_MEMPOOL_SIZE else c.DEFAULT_MAX_MEMPOOL_SIZE_LOWMEM) ∧
      r.nTotalCache = (if args.IsArgSet "-dbcache" then
        nTotalCache k (args.GetArg "-dbcache" k.nDefaultDbCache) else 200 * 2 ^ 20) ∧
      r.nRPCThreads = (if args.IsArgSet "-rpcthreads" then
        (args.mapArgs "-rpcthreads").map atoi64 else some (Int64.ofInt 1)) ∧
      r.fReverseHeaders = (if args.IsArgSet "-reverseheaders" then
        args.GetBoolArg "-reverseheaders" true else false) := by
  obtain ⟨-, -, -, hargs⟩ := fdBudget_ok h
  have hmempool : ((lowMemorySettings c).lookup "-maxmempool").map Prod.fst =
      some (i64tostr c.DEFAULT_MAX_MEMPOOL_SIZE_LOWMEM.val) := by simp [lowMemorySettings, List.lookup_cons]
  have hdb : ((lowMemorySettings c).lookup "-dbcache").map Prod.fst = some (i64tostr 200) := by
    simp [lowMemorySettings, List.lookup_cons]
  have hrpc : ((lowMemorySettings c).lookup "-rpcthreads").map Prod.fst = some (i64tostr 1) := by
    simp [lowMemorySettings, List.lookup_cons]
  have hrev : ((lowMemorySettings c).lookup "-reverseheaders").map Prod.fst = some "0" := by
    simp [lowMemorySettings, List.lookup_cons]
  simp only [nodeSettings, hargs, ArgsManager.GetArg, ArgsManager.GetBoolArg,
    lowMemory_mapArgs_of_lookup host hlow hmempool, lowMemory_mapArgs_of_lookup host hlow hdb,
    lowMemory_mapArgs_of_lookup host hlow hrpc, lowMemory_mapArgs_of_lookup host hlow hrev]
  refine ⟨?_, ?_, ?_, ?_⟩
  · cases args.IsArgSet "-maxmempool"
    · exact atoi64_i64tostr _
    · rfl
  · cases args.IsArgSet "-dbcache"
    · have h200 : atoi64 (i64tostr 200) = Int64.ofInt 200 := by decide
      simp only [h200, nTotalCache_of_mem k (Int64.ofInt 200) (by decide) (by decide), Int64.ofInt_val,
        wrap64_of_mem (by decide : -2 ^ 63 ≤ (200 : Int)) (by decide), Bool.false_eq_true, if_false]
      omega
    · rfl
  · cases args.IsArgSet "-rpcthreads"
    · simp only [Bool.false_eq_true, if_false, Option.map_some']; decide
    · rfl
  · cases args.IsArgSet "-reverseheaders"
    · simp only [Bool.false_eq_true, if_false]; decide
    · rfl

/-- A host with 512 MiB of memory, a soft descriptor limit of 1024 and a hard one of 4096. -/
def lowMemoryHost : Host := ⟨2 ^ 29, some ⟨1024, 4096, by decide, by decide⟩⟩

/-- On a host with 512 MiB and a soft descriptor limit of 1024, with no argument given,
    `-maxconnections` is soft-set to 40 only after the ceiling was read from its default:
    the ceiling handed to `CConnman::Start` is `DEFAULT_MAX_PEER_CONNECTIONS`. -/
theorem lowMemory_connections_keep_default (c : InitConstants)
    (hdef : 40 < c.DEFAULT_MAX_PEER_CONNECTIONS.val)
    (hfit : c.DEFAULT_MAX_PEER_CONNECTIONS.val + c.MAX_ADDNODE_CONNECTIONS ≤ 873) (s : ParamState) :
    (fdBudget c lowMemoryHost ArgsManager.empty s).map (fun s' =>
      ((connOptions c s').nMaxConnections, s'.args.GetArg "-maxconnections" (Int64.ofInt 0))) =
      .ok (c.DEFAULT_MAX_PEER_CONNECTIONS.val, Int64.ofInt 40) := by
  have hadd := c.haddnode
  have hbind : nBind ArgsManager.empty = 1 := by decide
  have hsys : nSystemMaxConnections c lowMemoryHost = 1024 := by
    simp only [nSystemMaxConnections, lowMemoryHost]; decide
  have huser : wrap32 (ArgsManager.empty.GetArg "-maxconnections"
      c.DEFAULT_MAX_PEER_CONNECTIONS).val = c.DEFAULT_MAX_PEER_CONNECTIONS.val :=
    wrap32_of_mem (x := c.DEFAULT_MAX_PEER_CONNECTIONS.val) (by omega) (by omega)
  have htrim : trimmedMaxConnections c c.DEFAULT_MAX_PEER_CONNECTIONS.val 1024 1 =
      c.DEFAULT_MAX_PEER_CONNECTIONS.val := by
    unfold trimmedMaxConnections MIN_CORE_FILEDESCRIPTORS
    rw [wrap32_of_mem (by omega) (by omega)]
    omega
  -- the request fits under the soft limit, which `RaiseFileDescriptorLimit` then returns
  have hfd : RaiseFileDescriptorLimit lowMemoryHost
      (wrap32 (c.DEFAULT_MAX_PEER_CONNECTIONS.val + 150 + c.MAX_ADDNODE_CONNECTIONS)) = 1024 := by
    rw [wrap32_of_mem (by omega) (by omega)]
    simp only [RaiseFileDescriptorLimit, lowMemoryHost]
    rw [if_neg (by omega)]
    decide
  have hlast : wrap32 (1024 - 150 - c.MAX_ADDNODE_CONNECTIONS) = 874 - c.MAX_ADDNODE_CONNECTIONS := by
    rw [wrap32_of_mem (by omega) (by omega)]; omega
  have hmaxconn : ((lowMemorySettings c).lookup "-maxconnections").map Prod.fst =
      some (i64tostr 40) := by simp [lowMemorySettings, List.lookup_cons]
  have h40 : atoi64 (i64tostr 40) = Int64.ofInt 40 := by decide
  dsimp only [fdBudget]
  simp only [huser, hsys, hbind, htrim, MIN_CORE_FILEDESCRIPTORS, hfd, hlast]
  rw [if_neg (by omega), min_eq_right (by omega)]
  simp only [Except.map, connOptions, ArgsManager.GetArg,
    lowMemory_mapArgs_of_lookup lowMemoryHost (by decide) hmaxconn,
    ArgsManager.IsArgSet, ArgsManager.empty, h40]
  rfl

theorem lowMemory_connections_keep_default_at_sample :
    40 < sampleConstants.DEFAULT_MAX_PEER_CONNECTIONS.val ∧
      sampleConstants.DEFAULT_MAX_PEER_CONNECTIONS.val +
        sampleConstants.MAX_ADDNODE_CONNECTIONS ≤ 873 ∧
      (fdBudget sampleConstants lowMemoryHost ArgsManager.empty
        (ParamState.init ArgsManager.empty)).map (fun s' =>
          ((connOptions sampleConstants s').nMaxConnections,
            s'.args.GetArg "-maxconnections" (Int64.ofInt 0))) = .ok (125, Int64.ofInt 40) :=
  ⟨by decide, by decide,
    lowMemory_connections_keep_default sampleConstants (by decide) (by decide) _⟩

end gulden.settings
