import GuldenInit.Network

namespace gulden.network

open ArgsManager init_interaction

/-- The messages network initialisation fails with: each names the option it checks and, but
    for the last two, the value that failed. -/
inductive NetError (a : ArgsManager) : String → Prop
  | onlynet {v : String} : v ∈ a.GetArgs "-onlynet" →
      NetError a ("Unknown network specified in -onlynet: \x27" ++ v ++ "\x27")
  | whitelist {v : String} : v ∈ a.GetArgs "-whitelist" →
      NetError a ("Invalid netmask specified in -whitelist: \x27" ++ v ++ "\x27")
  | proxy : NetError a ("Invalid -proxy address or hostname: \x27" ++ a.GetArgStr "-proxy" "" ++ "\x27")
  | onion : NetError a ("Invalid -onion address or hostname: \x27" ++ a.GetArgStr "-onion" "" ++ "\x27")
  | bind {v : String} : v ∈ a.GetArgs "-bind" → NetError a (ResolveErrMsg "bind" v)
  | whitebind {v : String} : v ∈ a.GetArgs "-whitebind" → NetError a (ResolveErrMsg "whitebind" v)
  | whitebindPort {v : String} : v ∈ a.GetArgs "-whitebind" →
      NetError a ("Need to specify a port with -whitebind: \x27" ++ v ++ "\x27")
  | listen : NetError a failedToListen
  | externalip {v : String} : v ∈ a.GetArgs "-externalip" → NetError a (ResolveErrMsg "externalip" v)

section Errors

variable {env : NetEnv} {a : ArgsManager} {limited : Network → Bool} {s : NetState} {m : String}
  {l : List String}

theorem parseOnlynet_error (h : parseOnlynet env l = .error m) :
    ∃ v ∈ l, m = "Unknown network specified in -onlynet: \x27" ++ v ++ "\x27" := by
  induction l with
  | nil => cases h
  | cons snet rest ih =>
    simp only [parseOnlynet] at h
    split at h
    · cases h; exact ⟨snet, List.mem_cons_self _ _, rfl⟩
    · obtain ⟨v, hv, rfl⟩ := ih (map_eq_error.1 h)
      exact ⟨v, List.mem_cons_of_mem _ hv, rfl⟩

theorem whitelistLoop_error (h : whitelistLoop env l s = .error m) :
    ∃ v ∈ l, m = "Invalid netmask specified in -whitelist: \x27" ++ v ++ "\x27" := by
  induction l generalizing s with
  | nil => cases h
  | cons net rest ih =>
    simp only [whitelistLoop] at h
    split at h
    · obtain ⟨v, hv, rfl⟩ := ih h
      exact ⟨v, List.mem_cons_of_mem _ hv, rfl⟩
    · cases h; exact ⟨net, List.mem_cons_self _ _, rfl⟩

theorem lookupProxy_error {arg strError : String} {r f : Bool}
    (h : lookupProxy env arg r f strError = .error m) : m = strError := by
  unfold lookupProxy at h
  split at h
  · cases h; rfl
  · split at h <;> cases h; rfl

theorem Bind_error {addr : CService} {flags : Nat} {b : Binding} {e : Exit}
    (h : Bind env limited addr flags b = .error e) : e = .raise := by
  unfold Bind at h
  split at h
  · cases h
  · dsimp only at h
    split at h <;> cases h; rfl

theorem bindLoop_error {r : Bool × Binding} {e : Exit} (h : bindLoop env limited l r = .error e) :
    e = .raise ∨ ∃ v ∈ l, e = .initError (ResolveErrMsg "bind" v) := by
  induction l generalizing r with
  | nil => cases h
  | cons strBind rest ih =>
    simp only [bindLoop] at h
    split at h
    · cases h; exact .inr ⟨strBind, List.mem_cons_self _ _, rfl⟩
    · rcases bind_eq_error.1 h with h | ⟨_, -, h⟩
      · exact .inl (Bind_error h)
      · exact (ih h).imp_right fun ⟨v, hv, he⟩ => ⟨v, List.mem_cons_of_mem _ hv, he⟩

theorem whitebindLoop_error {r : Bool × Binding} {e : Exit}
    (h : whitebindLoop env limited l r = .error e) :
    e = .raise ∨ ∃ v ∈ l, e = .initError (ResolveErrMsg "whitebind" v) ∨
      e = .initError ("Need to specify a port with -whitebind: \x27" ++ v ++ "\x27") := by
  induction l generalizing r with
  | nil => cases h
  | cons strBind rest ih =>
    simp only [whitebindLoop] at h
    split at h
    · cases h; exact .inr ⟨strBind, List.mem_cons_self _ _, .inl rfl⟩
    · split at h
      · cases h; exact .inr ⟨strBind, List.mem_cons_self _ _, .inr rfl⟩
      · rcases bind_eq_error.1 h with h | ⟨_, -, h⟩
        · exact .inl (Bind_error h)
        · exact (ih h).imp_right fun ⟨v, hv, he⟩ => ⟨v, List.mem_cons_of_mem _ hv, he⟩

theorem bindAny_error {r : Bool × Binding} {e : Exit} (h : bindAny env limited r = .error e) :
    e = .raise := by
  rcases bind_eq_error.1 h with h | ⟨_, -, h⟩
  · exact Bind_error h
  · rcases bind_eq_error.1 h with h | ⟨_, -, h⟩
    · exact Bind_error h
    · cases h

theorem listenTry_error {b : Binding} {e : Exit} (h : listenTry env a limited b = .error e) :
    e = .raise ∨ ∃ m, e = .initError m ∧ NetError a m := by
  rcases bind_eq_error.1 h with h | ⟨_, -, h⟩
  · split at h
    · exact (bindLoop_error h).imp_right fun ⟨v, hv, he⟩ => ⟨_, he, .bind hv⟩
    · cases h
  rcases bind_eq_error.1 h with h | ⟨_, -, h⟩
  · split at h
    · refine (whitebindLoop_error h).imp_right fun ⟨v, hv, he⟩ => ?_
      rcases he with he | he
      · exact ⟨_, he, .whitebind hv⟩
      · exact ⟨_, he, .whitebindPort hv⟩
    · cases h
  rcases bind_eq_error.1 h with h | ⟨_, -, h⟩
  · split at h
    · exact .inl (bindAny_error h)
    · cases h
  split at h
  · cases h; exact .inr ⟨_, rfl, .listen⟩
  · cases h

theorem onlynetBlock_error (h : onlynetBlock env a s = .error m) : NetError a m := by
  unfold onlynetBlock at h
  split at h
  · obtain ⟨v, hv, rfl⟩ := parseOnlynet_error (map_eq_error.1 h)
    exact .onlynet hv
  · cases h

theorem whitelistBlock_error (h : whitelistBlock env a s = .error m) : NetError a m := by
  unfold whitelistBlock at h
  split at h
  · obtain ⟨v, hv, rfl⟩ := whitelistLoop_error h
    exact .whitelist hv
  · cases h

theorem proxyBlock_error {r : Bool} (h : proxyBlock env a r s = .error m) : NetError a m := by
  unfold proxyBlock at h
  dsimp only at h
  split at h
  · rw [lookupProxy_error (map_eq_error.1 h)]
    exact .proxy
  · cases h

theorem onionBlock_error {r : Bool} (h : onionBlock env a r s = .error m) : NetError a m := by
  unfold onionBlock at h
  dsimp only at h
  split at h
  · split at h
    · cases h
    · rw [lookupProxy_error (map_eq_error.1 h)]
      exact .onion
  · cases h

theorem listenBlock_error {d : NetDefaults} (h : listenBlock env a d s = .error m) :
    NetError a m := by
  unfold listenBlock at h
  dsimp only at h
  split at h
  · split at h
    · cases h
    next e msg he =>
      cases h
      obtain he' | ⟨m, hm, hnet⟩ := listenTry_error he
      · cases he'
      · cases hm; exact hnet
    · cases h; exact .listen
  · cases h

theorem externalipLoop_error (h : externalipLoop env l s = .error m) :
    ∃ v ∈ l, m = ResolveErrMsg "externalip" v := by
  induction l generalizing s with
  | nil => cases h
  | cons strAddr rest ih =>
    simp only [externalipLoop] at h
    split at h
    · split at h
      · obtain ⟨v, hv, rfl⟩ := ih h
        exact ⟨v, List.mem_cons_of_mem _ hv, rfl⟩
      · cases h; exact ⟨strAddr, List.mem_cons_self _ _, rfl⟩
    · cases h; exact ⟨strAddr, List.mem_cons_self _ _, rfl⟩

theorem externalipBlock_error (h : externalipBlock env a s = .error m) : NetError a m := by
  unfold externalipBlock at h
  split at h
  · obtain ⟨v, hv, rfl⟩ := externalipLoop_error h
    exact .externalip hv
  · cases h

/-- Every failure of network initialisation is one of the messages of `NetError`. -/
theorem networkInitialization_error {d : NetDefaults} (h : networkInitialization d env a s = .error m) :
    NetError a m := by
  rcases bind_eq_error.1 h with h | ⟨_, -, h⟩
  swap; exact externalipBlock_error h
  rcases bind_eq_error.1 h with h | ⟨_, -, h⟩
  swap; exact listenBlock_error h
  rcases bind_eq_error.1 h with h | ⟨_, -, h⟩
  swap; exact onionBlock_error h
  rcases bind_eq_error.1 h with h | ⟨_, -, h⟩
  swap; exact proxyBlock_error h
  rcases bind_eq_error.1 h with h | ⟨_, -, h⟩
  · exact onlynetBlock_error h
  · exact whitelistBlock_error h

end Errors

end gulden.network
