import GuldenInit.InitInteraction

namespace gulden.network

open ArgsManager init_interaction

/-- `enum Network` of netaddress.h, which is not part of the sources. -/
inductive Network
  | NET_UNROUTABLE
  | NET_IPV4
  | NET_IPV6
  | NET_TOR
  deriving DecidableEq, Repr

/-- The networks `0 ≤ n < NET_MAX`, in order. -/
def allNetworks : List Network := [.NET_UNROUTABLE, .NET_IPV4, .NET_IPV6, .NET_TOR]

/-- An address with a port (`CService`), as far as this step looks at it: the network
    `GetNetwork()` reports, the port, and `IsValid()`. -/
structure CService where
  net : Network
  port : Nat
  valid : Bool
  deriving DecidableEq, Repr

/-- `proxyType(proxy, randomize_credentials)`. -/
structure proxyType where
  proxy : CService
  randomize_credentials : Bool
  deriving DecidableEq, Repr

/-- How a call of `connman.BindListenPort` ends. -/
inductive BindResult
  /-- it listens on the address -/
  | bound
  /-- it fails and reports `strError` -/
  | failed (strError : String)
  /-- it throws -/
  | raise
  deriving DecidableEq, Repr

/-- What the system answers during network initialisation. -/
structure NetEnv where
  /-- `ParseNetwork(snet)` -/
  ParseNetwork : String → Network
  /-- `LookupSubNet(net, subnet)` followed by `subnet.IsValid()` -/
  LookupSubNet : String → Bool
  /-- `Lookup(name, addr, portDefault, fAllowLookup)`: the address, or none when it fails -/
  Lookup : String → Nat → Bool → Option CService
  /-- the `n`-th call of `connman.BindListenPort(addr, strError, fWhitelisted)` -/
  BindListenPort : Nat → CService → Bool → BindResult
  /-- `GetListenPort()` -/
  GetListenPort : Nat

/-- The defaults the step reads from headers that are not part of the sources. -/
structure NetDefaults extends InteractionDefaults where
  DEFAULT_NAME_LOOKUP : Bool

def DEFAULT_PROXYRANDOMIZE : Bool := true

/-- What binding changes: how many `BindListenPort` calls were made, the sockets that listen
    (`vhListenSocket`, each with whether its peers are whitelisted), and the messages that
    `InitError` showed without ending the step. -/
structure Binding where
  nBind : Nat
  vhListenSocket : List (CService × Bool)
  shown : List String

/-- The state network initialisation works on. -/
structure NetState where
  /-- `vfLimited` -/
  limited : Network → Bool
  /-- `proxyInfo` and `nameProxy` -/
  proxyInfo : Network → Option proxyType
  nameProxy : Option proxyType
  /-- the ranges passed to `connman.AddWhitelistedRange` -/
  whitelisted : List String
  fNameLookup : Bool
  fListen : Bool
  fDiscover : Bool
  fRelayTxes : Bool
  binding : Binding
  /-- the addresses passed to `AddLocal(addr, LOCAL_MANUAL)` -/
  localManual : List CService

/-- `SetLimited(net, fLimited)` (net.cpp): the unroutable network is never limited. -/
def SetLimited (net : Network) (fLimited : Bool) (s : NetState) : NetState :=
  { s with limited := if net = .NET_UNROUTABLE then s.limited
                      else Function.update s.limited net fLimited }

/-- `SetProxy(net, addrProxy)`, for a valid `addrProxy`. -/
def SetProxy (net : Network) (addrProxy : proxyType) (s : NetState) : NetState :=
  { s with proxyInfo := Function.update s.proxyInfo net (some addrProxy) }

/-- `SetNameProxy(addrProxy)`, for a valid `addrProxy`. -/
def SetNameProxy (addrProxy : proxyType) (s : NetState) : NetState :=
  { s with nameProxy := some addrProxy }

@[simp] theorem SetLimited_limited (net : Network) (fLimited : Bool) (s : NetState) (n : Network) :
    (SetLimited net fLimited s).limited n =
      if n = net ∧ net ≠ .NET_UNROUTABLE then fLimited else s.limited n := by
  unfold SetLimited
  by_cases hu : net = .NET_UNROUTABLE
  · simp [hu]
  · by_cases hn : n = net <;> simp [hu, hn, Function.update_apply]

@[simp] theorem SetProxy_limited (net : Network) (p : proxyType) (s : NetState) :
    (SetProxy net p s).limited = s.limited := rfl

@[simp] theorem SetNameProxy_limited (p : proxyType) (s : NetState) :
    (SetNameProxy p s).limited = s.limited := rfl

section ExceptLemmas

variable {ε α β : Type} {x : Except ε α} {b : β} {e : ε}

theorem bind_eq_ok {f : α → Except ε β} : x >>= f = .ok b ↔ ∃ a, x = .ok a ∧ f a = .ok b := by
  cases x <;> simp [bind, Except.bind]

theorem bind_eq_error {f : α → Except ε β} :
    x >>= f = .error e ↔ x = .error e ∨ ∃ a, x = .ok a ∧ f a = .error e := by
  cases x <;> simp [bind, Except.bind]

theorem map_eq_ok {f : α → β} : f <$> x = .ok b ↔ ∃ a, x = .ok a ∧ f a = b := by
  cases x <;> simp [Functor.map, Except.map]

theorem map_eq_error {f : α → β} : f <$> x = .error e ↔ x = .error e := by
  cases x <;> simp [Functor.map, Except.map]

end ExceptLemmas

/-- `ResolveErrMsg(optname, strBind)`. -/
def ResolveErrMsg (optname strBind : String) : String :=
  "Cannot resolve -" ++ optname ++ " address: \x27" ++ strBind ++ "\x27"

section Blocks

variable (env : NetEnv) (a : ArgsManager)

/-- The loop over `-onlynet`: the network each value names, or the error for the first value
    that names none. -/
def parseOnlynet : List String → Except String (List Network)
  | [] => .ok []
  | snet :: rest =>
    if env.ParseNetwork snet = .NET_UNROUTABLE then
      .error ("Unknown network specified in -onlynet: \x27" ++ snet ++ "\x27")
    else (env.ParseNetwork snet :: ·) <$> parseOnlynet rest

/-- `if (gArgs.IsArgSet("-onlynet"))`: every network no value names is limited. -/
def onlynetBlock (s : NetState) : Except String NetState :=
  if a.IsArgSet "-onlynet" then
    (fun nets => allNetworks.foldl (fun s net => if net ∈ nets then s else SetLimited net true s) s)
      <$> parseOnlynet env (a.GetArgs "-onlynet")
  else .ok s

/-- The loop over `-whitelist`. -/
def whitelistLoop : List String → NetState → Except String NetState
  | [], s => .ok s
  | net :: rest, s =>
    if env.LookupSubNet net then whitelistLoop rest { s with whitelisted := s.whitelisted ++ [net] }
    else .error ("Invalid netmask specified in -whitelist: \x27" ++ net ++ "\x27")

def whitelistBlock (s : NetState) : Except String NetState :=
  if a.IsArgSet "-whitelist" then whitelistLoop env (a.GetArgs "-whitelist") s else .ok s

/-- `Lookup` of a proxy for `arg` on port 9050, and the check that the proxy is valid; both fail
    with `strError`. -/
def lookupProxy (arg : String) (proxyRandomize fNameLookup : Bool) (strError : String) :
    Except String proxyType :=
  match env.Lookup arg 9050 fNameLookup with
  | none => .error strError
  | some addr => if addr.valid then .ok ⟨addr, proxyRandomize⟩ else .error strError

/-- `-proxy`: Tor is limited, unless a proxy for every network is set. -/
def proxyBlock (proxyRandomize : Bool) (s : NetState) : Except String NetState :=
  let proxyArg := a.GetArgStr "-proxy" ""
  let s := SetLimited .NET_TOR true s
  if proxyArg ≠ "" ∧ proxyArg ≠ "0" then
    (fun addrProxy => SetLimited .NET_TOR false (SetNameProxy addrProxy (SetProxy .NET_TOR addrProxy
        (SetProxy .NET_IPV6 addrProxy (SetProxy .NET_IPV4 addrProxy s)))))
      <$> lookupProxy env proxyArg proxyRandomize s.fNameLookup
        ("Invalid -proxy address or hostname: \x27" ++ proxyArg ++ "\x27")
  else .ok s

/-- `-onion`: `0` limits Tor, a proxy for Tor makes it reachable, and the empty string keeps
    what `-proxy` set. -/
def onionBlock (proxyRandomize : Bool) (s : NetState) : Except String NetState :=
  let onionArg := a.GetArgStr "-onion" ""
  if onionArg ≠ "" then
    if onionArg = "0" then .ok (SetLimited .NET_TOR true s)
    else
      (fun addrOnion => SetLimited .NET_TOR false (SetProxy .NET_TOR addrOnion s))
        <$> lookupProxy env onionArg proxyRandomize s.fNameLookup
          ("Invalid -onion address or hostname: \x27" ++ onionArg ++ "\x27")
  else .ok s

def BF_NONE : Nat := 0
def BF_EXPLICIT : Nat := 1 <<< 0
def BF_REPORT_ERROR : Nat := 1 <<< 1
def BF_WHITELIST : Nat := 1 <<< 2

/-- How the `try` block around binding is left early. -/
inductive Exit
  /-- `return InitError(msg)` -/
  | initError (msg : String)
  /-- an exception, caught by `catch(...)` -/
  | raise
  deriving DecidableEq, Repr

variable (limited : Network → Bool)

/-- `Bind(connman, addr, flags)`: whether it listens on `addr`. -/
def Bind (addr : CService) (flags : Nat) (b : Binding) : Except Exit (Bool × Binding) :=
  if flags &&& BF_EXPLICIT == 0 && limited addr.net then .ok (false, b)
  else
    let fWhitelisted := flags &&& BF_WHITELIST != 0
    let b' := { b with nBind := b.nBind + 1 }
    match env.BindListenPort b.nBind addr fWhitelisted with
    | .bound => .ok (true, { b' with vhListenSocket := b'.vhListenSocket ++ [(addr, fWhitelisted)] })
    | .failed strError =>
      .ok (false, if flags &&& BF_REPORT_ERROR != 0 then { b' with shown := b'.shown ++ [strError] }
        else b')
    | .raise => .error .raise

/-- The loop over `-bind`: `fBound |= Bind(connman, addrBind, (BF_EXPLICIT | BF_REPORT_ERROR))`
    for each value, which must resolve. -/
def bindLoop : List String → Bool × Binding → Except Exit (Bool × Binding)
  | [], r => .ok r
  | strBind :: rest, (fBound, b) =>
    match env.Lookup strBind env.GetListenPort false with
    | none => .error (.initError (ResolveErrMsg "bind" strBind))
    | some addrBind =>
      Bind env limited addrBind (BF_EXPLICIT ||| BF_REPORT_ERROR) b >>= fun r =>
        bindLoop rest (fBound || r.1, r.2)

/-- The loop over `-whitebind`, whose values must also name a port. -/
def whitebindLoop : List String → Bool × Binding → Except Exit (Bool × Binding)
  | [], r => .ok r
  | strBind :: rest, (fBound, b) =>
    match env.Lookup strBind 0 false with
    | none => .error (.initError (ResolveErrMsg "whitebind" strBind))
    | some addrBind =>
      if addrBind.port = 0 then
        .error (.initError ("Need to specify a port with -whitebind: \x27" ++ strBind ++ "\x27"))
      else
        Bind env limited addrBind (BF_EXPLICIT ||| BF_REPORT_ERROR ||| BF_WHITELIST) b >>= fun r =>
          whitebindLoop rest (fBound || r.1, r.2)

/-- `CService(in6addr_any, GetListenPort())` and `CService(INADDR_ANY, GetListenPort())`: neither
    address is routable, so both are on the unroutable network. -/
def anyAddr : CService := ⟨.NET_UNROUTABLE, env.GetListenPort, false⟩

/-- Neither `-bind` nor `-whitebind`: bind the IPv6 and then the IPv4 any-address; the second
    reports its error only when the first failed. -/
def bindAny (r : Bool × Binding) : Except Exit (Bool × Binding) :=
  Bind env limited (anyAddr env) BF_NONE r.2 >>= fun r₁ =>
    let fBound := r.1 || r₁.1
    Bind env limited (anyAddr env) (if !fBound then BF_REPORT_ERROR else BF_NONE) r₁.2 >>= fun r₂ =>
      .ok (fBound || r₂.1, r₂.2)

def failedToListen : String := "Failed to listen on any port. Use -listen=0 if you want this."

/-- The body of `if (fListen)` inside the `try` block. -/
def listenTry (b : Binding) : Except Exit Binding :=
  (if a.IsArgSet "-bind" then bindLoop env limited (a.GetArgs "-bind") (false, b)
    else .ok (false, b)) >>= fun r =>
  (if a.IsArgSet "-whitebind" then whitebindLoop env limited (a.GetArgs "-whitebind") r
    else .ok r) >>= fun r =>
  (if !a.IsArgSet "-bind" && !a.IsArgSet "-whitebind" then bindAny env limited r
    else .ok r) >>= fun r =>
  if !r.1 then .error (.initError failedToListen) else .ok r.2

/-- `fListen`, `fDiscover` and `fRelayTxes`, then the `try` block that binds when listening; an
    exception fails with the same message as binding nothing. -/
def listenBlock (d : NetDefaults) (s : NetState) : Except String NetState :=
  let s := { s with fListen := a.GetBoolArg "-listen" d.DEFAULT_LISTEN,
                    fDiscover := a.GetBoolArg "-discover" true,
                    fRelayTxes := !a.GetBoolArg "-blocksonly" d.DEFAULT_BLOCKSONLY }
  if s.fListen then
    match listenTry env a s.limited s.binding with
    | .ok b => .ok { s with binding := b }
    | .error (.initError msg) => .error msg
    | .error .raise => .error failedToListen
  else .ok s

/-- The loop over `-externalip`: each value must resolve to a valid address. -/
def externalipLoop : List String → NetState → Except String NetState
  | [], s => .ok s
  | strAddr :: rest, s =>
    match env.Lookup strAddr env.GetListenPort s.fNameLookup with
    | some addrLocal =>
      if addrLocal.valid then externalipLoop rest { s with localManual := s.localManual ++ [addrLocal] }
      else .error (ResolveErrMsg "externalip" strAddr)
    | none => .error (ResolveErrMsg "externalip" strAddr)

def externalipBlock (s : NetState) : Except String NetState :=
  if a.IsArgSet "-externalip" then externalipLoop env (a.GetArgs "-externalip") s else .ok s

end Blocks

/-- Step 6 of `AppInitMain`, from `-onlynet` to `-externalip`. -/
def networkInitialization (d : NetDefaults) (env : NetEnv) (a : ArgsManager) (s : NetState) :
    Except String NetState :=
  let proxyRandomize := a.GetBoolArg "-proxyrandomize" DEFAULT_PROXYRANDOMIZE
  onlynetBlock env a s >>= whitelistBlock env a
    >>= (fun s => proxyBlock env a proxyRandomize
          { s with fNameLookup := a.GetBoolArg "-dns" d.DEFAULT_NAME_LOOKUP })
    >>= onionBlock env a proxyRandomize >>= listenBlock env a d >>= externalipBlock env a

/-- The state before network initialisation: no network limited, no proxy, nothing bound. -/
def NetState.init : NetState :=
  ⟨fun _ => false, fun _ => none, none, [], true, true, true, true, ⟨0, [], []⟩, []⟩

/-- The defaults of the main network, on a processor that is not ARM. -/
def mainDefaults : NetDefaults := ⟨⟨true, false, true, false⟩, true⟩

/-- A host on which `ipv4`, `ipv6` and `onion` name their networks, every name resolves to a
    valid IPv4 address (on port 9231 when it names none), and every call of `BindListenPort` ends
    as `bindResult`. -/
def hostEnv (bindResult : BindResult) : NetEnv where
  ParseNetwork snet := if snet = "ipv4" then .NET_IPV4 else if snet = "ipv6" then .NET_IPV6
    else if snet = "onion" then .NET_TOR else .NET_UNROUTABLE
  LookupSubNet _ := true
  Lookup _ port _ := some ⟨.NET_IPV4, if port = 0 then 9231 else port, true⟩
  BindListenPort _ _ _ := bindResult
  GetListenPort := 9231

end gulden.network
