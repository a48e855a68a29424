import GuldenInit.Network

namespace gulden.network

open ArgsManager init_interaction

section Limited

variable {env : NetEnv} {a : ArgsManager} {s s' : NetState}

theorem parseOnlynet_ok {l : List String} {nets : List Network}
    (h : parseOnlynet env l = .ok nets) : nets = l.map env.ParseNetwork := by
  induction l generalizing nets with
  | nil => cases h; rfl
  | cons snet rest ih =>
    simp only [parseOnlynet] at h
    split at h
    · cases h
    · obtain ⟨nets', h', rfl⟩ := map_eq_ok.1 h
      simp [ih h']

/-- The loop over `0 ≤ n < NET_MAX` limits exactly the routable networks it is not told to
    skip. -/
theorem foldl_SetLimited (p : Network → Prop) [DecidablePred p] (nets : List Network)
    (s : NetState) :
    (nets.foldl (fun s net => if p net then s else SetLimited net true s) s).limited =
      fun n => s.limited n || decide (n ∈ nets ∧ ¬p n ∧ n ≠ .NET_UNROUTABLE) := by
  induction nets generalizing s with
  | nil => simp
  | cons net nets ih =>
    rw [List.foldl_cons, ih]
    funext n
    by_cases hn : n = net
    · subst hn
      by_cases hu : n = .NET_UNROUTABLE <;> split_ifs <;> simp [*]
    · split_ifs <;> simp [hn]

theorem not_any_eq_decide (l : List String) (f : String → Network) (n : Network) :
    (!l.any (f · == n)) = decide (∀ v ∈ l, f v ≠ n) := by
  rw [Bool.eq_iff_iff]; simp

theorem onlynetBlock_limited (h : onlynetBlock env a s = .ok s') (n : Network) :
    s'.limited n = (s.limited n || (a.IsArgSet "-onlynet" && decide (n ≠ .NET_UNROUTABLE) &&
      !(a.GetArgs "-onlynet").any (env.ParseNetwork · == n))) := by
  unfold onlynetBlock at h
  split at h
  · obtain ⟨nets, hnets, rfl⟩ := map_eq_ok.1 h
    have hall : n ∈ allNetworks := by cases n <;> decide
    rw [foldl_SetLimited, parseOnlynet_ok hnets]
    simp [*, and_comm, not_any_eq_decide]
  · cases h; simp [*]

theorem whitelistLoop_ok {l : List String} (h : whitelistLoop env l s = .ok s') :
    s' = { s with whitelisted := s.whitelisted ++ l } := by
  induction l generalizing s with
  | nil => cases h; simp
  | cons net rest ih =>
    simp only [whitelistLoop] at h
    split at h
    · simp [ih h]
    · cases h

theorem whitelistBlock_limited (h : whitelistBlock env a s = .ok s') : s'.limited = s.limited := by
  unfold whitelistBlock at h
  split at h
  · rw [whitelistLoop_ok h]
  · cases h; rfl

theorem proxyBlock_limited {r : Bool} (h : proxyBlock env a r s = .ok s') (n : Network) :
    s'.limited n = if n = .NET_TOR then
      !(a.GetArgStr "-proxy" "" != "" && a.GetArgStr "-proxy" "" != "0") else s.limited n := by
  unfold proxyBlock at h
  dsimp only at h
  split at h
  · obtain ⟨p, -, rfl⟩ := map_eq_ok.1 h
    by_cases hn : n = .NET_TOR <;> simp [*]
  · cases h
    by_cases hn : n = .NET_TOR <;> simp_all [or_iff_not_imp_left]

theorem onionBlock_limited {r : Bool} (h : onionBlock env a r s = .ok s') (n : Network) :
    s'.limited n = if n = .NET_TOR ∧ a.GetArgStr "-onion" "" ≠ "" then
      decide (a.GetArgStr "-onion" "" = "0") else s.limited n := by
  unfold onionBlock at h
  dsimp only at h
  split at h
  · split at h
    · cases h; by_cases hn : n = .NET_TOR <;> simp [*]
    · obtain ⟨p, -, rfl⟩ := map_eq_ok.1 h
      by_cases hn : n = .NET_TOR <;> simp [*]
  · cases h; simp [*]

theorem listenBlock_limited {d : NetDefaults} (h : listenBlock env a d s = .ok s') :
    s'.limited = s.limited := by
  unfold listenBlock at h
  dsimp only at h
  split at h
  · split at h <;> cases h; rfl
  · cases h; rfl

/-- The addresses `-externalip` adds are those its values resolve to, in order. -/
theorem externalipLoop_ok {l : List String} (h : externalipLoop env l s = .ok s') :
    s' = { s with localManual := (s.localManual ++
      l.filterMap fun v => env.Lookup v env.GetListenPort s.fNameLookup) } := by
  induction l generalizing s with
  | nil => cases h; simp
  | cons v rest ih =>
    simp only [externalipLoop] at h
    split at h
    · split at h
      · simp [ih h, List.filterMap_cons, *]
      · cases h
    · cases h

theorem externalipBlock_limited (h : externalipBlock env a s = .ok s') : s'.limited = s.limited := by
  unfold externalipBlock at h
  split at h
  · rw [externalipLoop_ok h]
  · cases h; rfl

end Limited

/-- Whether the node may reach `net` once network initialisation has succeeded, read off the
    arguments: `-onlynet` restricts every network but Tor (the unroutable one is never limited),
    and Tor is reachable exactly when `-onion` names a proxy, or `-proxy` names one and `-onion`
    does not turn Tor off. -/
def reachable (env : NetEnv) (a : ArgsManager) : Network → Bool
  | .NET_UNROUTABLE => true
  | .NET_TOR =>
    a.GetArgStr "-onion" "" != "0" && (a.GetArgStr "-onion" "" != "" ||
      (a.GetArgStr "-proxy" "" != "" && a.GetArgStr "-proxy" "" != "0"))
  | net => !a.IsArgSet "-onlynet" || (a.GetArgs "-onlynet").any (env.ParseNetwork · == net)

/-- Network initialisation limits exactly the networks `reachable` rules out, whatever was
    limited before, except that a network other than Tor that was limited stays so. In
    particular `-onlynet` does not keep Tor unreachable when `-proxy` or `-onion` names a
    proxy. -/
theorem networkInitialization_reachable (d : NetDefaults) (env : NetEnv) (a : ArgsManager)
    (s s' : NetState) (h : networkInitialization d env a s = .ok s') (net : Network) :
    s'.limited net = ((s.limited net && decide (net ≠ .NET_TOR)) || !reachable env a net) := by
  obtain ⟨s₅, h, h₆⟩ := bind_eq_ok.1 h
  obtain ⟨s₄, h, h₅⟩ := bind_eq_ok.1 h
  obtain ⟨s₃, h, h₄⟩ := bind_eq_ok.1 h
  obtain ⟨s₂, h, h₃⟩ := bind_eq_ok.1 h
  obtain ⟨s₁, h₁, h₂⟩ := bind_eq_ok.1 h
  rw [externalipBlock_limited h₆, listenBlock_limited h₅, onionBlock_limited h₄,
    proxyBlock_limited h₃, whitelistBlock_limited h₂, onlynetBlock_limited h₁]
  cases net
  case NET_TOR =>
    by_cases ho : a.GetArgStr "-onion" "" = "" <;> by_cases hz : a.GetArgStr "-onion" "" = "0" <;>
      simp_all [reachable]
  all_goals simp [reachable, not_any_eq_decide]

/-- `-onlynet=ipv4` with a `-proxy`. -/
def onlynetProxyArgs : ArgsManager :=
  (ArgsManager.empty.ForceSetArg "-onlynet" "ipv4").ForceSetArg "-proxy" "127.0.0.1:9050"

theorem networkInitialization_reachable_onlynetProxy :
    ∃ s', networkInitialization mainDefaults (hostEnv .bound) onlynetProxyArgs NetState.init =
        .ok s' ∧
      ∀ net, s'.limited net = ((NetState.init.limited net && decide (net ≠ .NET_TOR)) ||
        !reachable (hostEnv .bound) onlynetProxyArgs net) :=
  ⟨_, rfl, networkInitialization_reachable mainDefaults (hostEnv .bound) onlynetProxyArgs
    NetState.init _ rfl⟩

/-- `-onlynet=ipv4` does not keep Tor unreachable once `-proxy` is given. -/
example : reachable (hostEnv .bound) onlynetProxyArgs .NET_TOR = true ∧
    reachable (hostEnv .bound) onlynetProxyArgs .NET_IPV6 = false := by
  decide

/-- `proxyArg != "" && proxyArg != "0"`: the value names a proxy. -/
def namesProxy (v : String) : Bool := v != "" && v != "0"

/-- The argument whose proxy network initialisation sets for `net`: for Tor `-onion` when it names
    one and otherwise `-proxy`, for IPv4 and IPv6 `-proxy`, and none for the unroutable network. -/
def proxyArg (a : ArgsManager) : Network → Option String
  | .NET_UNROUTABLE => none
  | .NET_TOR =>
    if namesProxy (a.GetArgStr "-onion" "") then some (a.GetArgStr "-onion" "")
    else if namesProxy (a.GetArgStr "-proxy" "") then some (a.GetArgStr "-proxy" "") else none
  | _ => if namesProxy (a.GetArgStr "-proxy" "") then some (a.GetArgStr "-proxy" "") else none

/-- `s'` has the proxies of `s`. -/
structure KeepsProxies (s s' : NetState) : Prop where
  proxyInfo : s'.proxyInfo = s.proxyInfo
  nameProxy : s'.nameProxy = s.nameProxy

section Proxies

variable {env : NetEnv} {a : ArgsManager} {s s' : NetState}

theorem KeepsProxies.trans {s₁ : NetState} (h₁ : KeepsProxies s s₁) (h₂ : KeepsProxies s₁ s') :
    KeepsProxies s s' :=
  ⟨h₂.proxyInfo.trans h₁.proxyInfo, h₂.nameProxy.trans h₁.nameProxy⟩

theorem keepsProxies_foldl_SetLimited (p : Network → Prop) [DecidablePred p] (nets : List Network)
    (s : NetState) :
    KeepsProxies s (nets.foldl (fun s net => if p net then s else SetLimited net true s) s) := by
  induction nets generalizing s with
  | nil => exact ⟨rfl, rfl⟩
  | cons net nets ih =>
    rw [List.foldl_cons]
    refine KeepsProxies.trans ?_ (ih _)
    split <;> exact ⟨rfl, rfl⟩

theorem onlynetBlock_keepsProxies (h : onlynetBlock env a s = .ok s') : KeepsProxies s s' := by
  unfold onlynetBlock at h
  split at h
  · obtain ⟨nets, -, rfl⟩ := map_eq_ok.1 h
    exact keepsProxies_foldl_SetLimited _ _ s
  · cases h; exact ⟨rfl, rfl⟩

theorem whitelistBlock_keepsProxies (h : whitelistBlock env a s = .ok s') : KeepsProxies s s' := by
  unfold whitelistBlock at h
  split at h
  · rw [whitelistLoop_ok h]; exact ⟨rfl, rfl⟩
  · cases h; exact ⟨rfl, rfl⟩

theorem listenBlock_keepsProxies {d : NetDefaults} (h : listenBlock env a d s = .ok s') :
    KeepsProxies s s' := by
  unfold listenBlock at h
  dsimp only at h
  split at h
  · split at h <;> cases h; exact ⟨rfl, rfl⟩
  · cases h; exact ⟨rfl, rfl⟩

theorem externalipBlock_keepsProxies (h : externalipBlock env a s = .ok s') :
    KeepsProxies s s' := by
  unfold externalipBlock at h
  split at h
  · rw [externalipLoop_ok h]; exact ⟨rfl, rfl⟩
  · cases h; exact ⟨rfl, rfl⟩

theorem lookupProxy_ok {arg m : String} {r f : Bool} {p : proxyType}
    (h : lookupProxy env arg r f m = .ok p) :
    ∃ addr, env.Lookup arg 9050 f = some addr ∧ addr.valid = true ∧ p = ⟨addr, r⟩ := by
  unfold lookupProxy at h
  split at h
  · cases h
  · split at h <;> cases h
    exact ⟨_, ‹_›, ‹_›, rfl⟩

/-- `-proxy`, when it names a proxy, sets it for every routable network and for names. -/
theorem proxyBlock_proxyInfo {r : Bool} (h : proxyBlock env a r s = .ok s') :
    s'.fNameLookup = s.fNameLookup ∧
    if namesProxy (a.GetArgStr "-proxy" "") then
      ∃ addr, env.Lookup (a.GetArgStr "-proxy" "") 9050 s.fNameLookup = some addr ∧
        addr.valid = true ∧ s'.nameProxy = some ⟨addr, r⟩ ∧
        ∀ net, s'.proxyInfo net = if net = .NET_UNROUTABLE then s.proxyInfo net else some ⟨addr, r⟩
    else KeepsProxies s s' := by
  unfold proxyBlock at h
  dsimp only at h
  split at h
  · obtain ⟨p, hp, rfl⟩ := map_eq_ok.1 h
    obtain ⟨addr, hl, hv, rfl⟩ := lookupProxy_ok hp
    refine ⟨rfl, ?_⟩
    rw [if_pos (by simp_all [namesProxy])]
    refine ⟨addr, hl, hv, rfl, fun net => ?_⟩
    cases net <;> simp [SetLimited, SetNameProxy, SetProxy, Function.update_apply]
  · cases h
    refine ⟨rfl, ?_⟩
    rw [if_neg (by simp_all [namesProxy])]
    exact ⟨rfl, rfl⟩

/-- `-onion`, when it names a proxy, sets it for Tor. -/
theorem onionBlock_proxyInfo {r : Bool} (h : onionBlock env a r s = .ok s') :
    s'.nameProxy = s.nameProxy ∧
    if namesProxy (a.GetArgStr "-onion" "") then
      ∃ addr, env.Lookup (a.GetArgStr "-onion" "") 9050 s.fNameLookup = some addr ∧
        addr.valid = true ∧ s'.proxyInfo = Function.update s.proxyInfo .NET_TOR (some ⟨addr, r⟩)
    else s'.proxyInfo = s.proxyInfo := by
  unfold onionBlock at h
  dsimp only at h
  split at h
  · split at h
    · cases h
      refine ⟨rfl, ?_⟩
      rw [if_neg (by simp_all [namesProxy])]
      rfl
    · obtain ⟨p, hp, rfl⟩ := map_eq_ok.1 h
      obtain ⟨addr, hl, hv, rfl⟩ := lookupProxy_ok hp
      refine ⟨rfl, ?_⟩
      rw [if_pos (by simp_all [namesProxy])]
      exact ⟨addr, hl, hv, rfl⟩
  · cases h
    refine ⟨rfl, ?_⟩
    rw [if_neg (by simp_all [namesProxy])]

end Proxies

/-- The proxies network initialisation leaves: every network reaches through the proxy
    `proxyArg` names, looked up with `-dns` and valid, with `-proxyrandomize` for its credentials,
    and keeps the one it had when `proxyArg` names none; names go through the proxy of IPv4 when
    `-proxy` names one. So `-onion` overrides `-proxy` for Tor only, and `-onion=0` leaves Tor
    the proxy of `-proxy`, limited. -/
theorem networkInitialization_proxyInfo (d : NetDefaults) (env : NetEnv) (a : ArgsManager)
    (s s' : NetState) (h : networkInitialization d env a s = .ok s') (net : Network) :
    (proxyArg a net = none → s'.proxyInfo net = s.proxyInfo net) ∧
    (∀ arg, proxyArg a net = some arg →
      ∃ addr, env.Lookup arg 9050 (a.GetBoolArg "-dns" d.DEFAULT_NAME_LOOKUP) = some addr ∧
        addr.valid = true ∧
        s'.proxyInfo net = some ⟨addr, a.GetBoolArg "-proxyrandomize" DEFAULT_PROXYRANDOMIZE⟩) ∧
    s'.nameProxy =
      if namesProxy (a.GetArgStr "-proxy" "") then s'.proxyInfo .NET_IPV4 else s.nameProxy := by
  obtain ⟨s₅, h, h₆⟩ := bind_eq_ok.1 h
  obtain ⟨s₄, h, h₅⟩ := bind_eq_ok.1 h
  obtain ⟨s₃, h, h₄⟩ := bind_eq_ok.1 h
  obtain ⟨s₂, h, h₃⟩ := bind_eq_ok.1 h
  obtain ⟨s₁, h₁, h₂⟩ := bind_eq_ok.1 h
  have hbefore := (onlynetBlock_keepsProxies h₁).trans (whitelistBlock_keepsProxies h₂)
  have hafter := (listenBlock_keepsProxies h₅).trans (externalipBlock_keepsProxies h₆)
  obtain ⟨hf, hp⟩ := proxyBlock_proxyInfo h₃
  obtain ⟨hn, ho⟩ := onionBlock_proxyInfo h₄
  rw [hafter.proxyInfo, hafter.nameProxy, hn, ← hbefore.proxyInfo, ← hbefore.nameProxy]
  rw [hf] at ho
  split at hp <;> rename_i hP
  · obtain ⟨addr, hl, hv, hname, hinfo⟩ := hp
    split at ho <;> rename_i hO
    · obtain ⟨addr', hl', hv', ho⟩ := ho
      cases net <;> simp [proxyArg, hP, hO, ho, hinfo, hname, hl, hl', hv, hv']
    · cases net <;> simp [proxyArg, hP, hO, ho, hinfo, hname, hl, hv]
  · split at ho <;> rename_i hO
    · obtain ⟨addr', hl', hv', ho⟩ := ho
      cases net <;> simp [proxyArg, hP, hO, ho, hp.proxyInfo, hp.nameProxy, hl', hv']
    · cases net <;> simp [proxyArg, hP, hO, ho, hp.proxyInfo, hp.nameProxy]

/-- `-proxy` and `-onion` both naming a proxy. -/
def proxyOnionArgs : ArgsManager :=
  (ArgsManager.empty.ForceSetArg "-proxy" "127.0.0.1:9050").ForceSetArg "-onion" "127.0.0.1:9150"

theorem networkInitialization_proxyInfo_proxyOnion :
    ∃ s', networkInitialization mainDefaults (hostEnv .bound) proxyOnionArgs NetState.init =
        .ok s' ∧ ∀ net,
      (proxyArg proxyOnionArgs net = none → s'.proxyInfo net = NetState.init.proxyInfo net) ∧
      (∀ arg, proxyArg proxyOnionArgs net = some arg →
        ∃ addr, (hostEnv .bound).Lookup arg 9050
            (proxyOnionArgs.GetBoolArg "-dns" mainDefaults.DEFAULT_NAME_LOOKUP) = some addr ∧
          addr.valid = true ∧ s'.proxyInfo net =
            some ⟨addr, proxyOnionArgs.GetBoolArg "-proxyrandomize" DEFAULT_PROXYRANDOMIZE⟩) ∧
      s'.nameProxy = if namesProxy (proxyOnionArgs.GetArgStr "-proxy" "") then
        s'.proxyInfo .NET_IPV4 else NetState.init.nameProxy :=
  ⟨_, rfl, networkInitialization_proxyInfo mainDefaults (hostEnv .bound) proxyOnionArgs
    NetState.init _ rfl⟩

/-- With both, Tor goes through the proxy of `-onion` and IPv4 through that of `-proxy`. -/
example : proxyArg proxyOnionArgs .NET_TOR = some "127.0.0.1:9150" ∧
    proxyArg proxyOnionArgs .NET_IPV4 = some "127.0.0.1:9050" := by
  decide

end gulden.network
