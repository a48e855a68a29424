import GuldenInit.Network

namespace gulden.network

open ArgsManager init_interaction

section Binding

variable {env : NetEnv} {limited : Network → Bool}

/-- What one call of `Bind` does to the sockets: it adds the one it binds, if any. -/
theorem Bind_vhListenSocket {addr : CService} {flags : Nat} {b : Binding} {r : Bool × Binding}
    (h : Bind env limited addr flags b = .ok r) :
    r.2.vhListenSocket.length = b.vhListenSocket.length + if r.1 then 1 else 0 := by
  unfold Bind at h
  split at h
  · cases h; simp
  · dsimp only at h
    split at h <;> cases h
    · simp
    · split <;> simp

/-- A call of `Bind` binds only when `BindListenPort` does. -/
theorem Bind_fst {addr : CService} {flags : Nat} {b : Binding} {r : Bool × Binding}
    (h : Bind env limited addr flags b = .ok r) (hr : r.1 = true) :
    ∃ n w, env.BindListenPort n addr w = .bound := by
  unfold Bind at h
  split at h
  · cases h; cases hr
  · dsimp only at h
    split at h <;> cases h
    · exact ⟨_, _, ‹_›⟩
    · cases hr

/-- A relation between the `(fBound, binding)` pairs before and after a stretch of the binding
    code, that every `fBound |= Bind(...)` keeps and that composes. -/
structure BindInv (env : NetEnv) (limited : Network → Bool)
    (R : Bool × Binding → Bool × Binding → Prop) : Prop where
  refl : ∀ r, R r r
  trans : ∀ {r₁ r₂ r₃}, R r₁ r₂ → R r₂ r₃ → R r₁ r₃
  bind : ∀ {addr flags fBound b r}, Bind env limited addr flags b = .ok r →
    R (fBound, b) (fBound || r.1, r.2)

variable {R : Bool × Binding → Bool × Binding → Prop} (hR : BindInv env limited R)
include hR

theorem rel_bindLoop (l : List String) (r r' : Bool × Binding)
    (h : bindLoop env limited l r = .ok r') : R r r' := by
  induction l generalizing r with
  | nil => cases h; exact hR.refl _
  | cons strBind rest ih =>
    simp only [bindLoop] at h
    split at h
    · cases h
    · obtain ⟨r₁, h₁, h⟩ := bind_eq_ok.1 h
      exact hR.trans (hR.bind h₁) (ih _ h)

theorem rel_whitebindLoop (l : List String) (r r' : Bool × Binding)
    (h : whitebindLoop env limited l r = .ok r') : R r r' := by
  induction l generalizing r with
  | nil => cases h; exact hR.refl _
  | cons strBind rest ih =>
    simp only [whitebindLoop] at h
    split at h
    · cases h
    · split at h
      · cases h
      · obtain ⟨r₁, h₁, h⟩ := bind_eq_ok.1 h
        exact hR.trans (hR.bind h₁) (ih _ h)

theorem rel_bindAny (r r' : Bool × Binding) (h : bindAny env limited r = .ok r') : R r r' := by
  obtain ⟨r₁, h₁, h⟩ := bind_eq_ok.1 h
  obtain ⟨r₂, h₂, h⟩ := bind_eq_ok.1 h
  cases h
  exact hR.trans (hR.bind h₁) (hR.bind h₂)

theorem rel_ite {c : Prop} [Decidable c] {x : Except Exit (Bool × Binding)} {r r' : Bool × Binding}
    (hx : x = .ok r' → R r r') (h : (if c then x else .ok r) = .ok r') : R r r' := by
  split at h
  · exact hx h
  · cases h; exact hR.refl r

/-- The `try` block ends normally only with `fBound` set, so what `R` says of `fBound` holds of
    the sockets it leaves. -/
theorem rel_listenTry (a : ArgsManager) (b b' : Binding) (h : listenTry env a limited b = .ok b') :
    R (false, b) (true, b') := by
  obtain ⟨r₁, h₁, h⟩ := bind_eq_ok.1 h
  obtain ⟨r₂, h₂, h⟩ := bind_eq_ok.1 h
  obtain ⟨r₃, h₃, hfin⟩ := bind_eq_ok.1 h
  obtain ⟨_ | _, b₃⟩ := r₃ <;> simp only [Bool.not_false, Bool.not_true] at hfin
  · cases hfin
  · cases hfin
    exact hR.trans (rel_ite hR (rel_bindLoop hR _ _ _) h₁)
      (hR.trans (rel_ite hR (rel_whitebindLoop hR _ _ _) h₂) (rel_ite hR (rel_bindAny hR _ _) h₃))

end Binding

/-- `fBound` is set only once a socket was bound since the binding code began. -/
theorem bindInv_bound (env : NetEnv) (limited : Network → Bool) :
    BindInv env limited fun r r' => r.2.vhListenSocket.length ≤ r'.2.vhListenSocket.length ∧
      (r'.1 = true → r.1 = true ∨ r.2.vhListenSocket.length < r'.2.vhListenSocket.length) where
  refl _ := ⟨le_rfl, .inl⟩
  trans h₁ h₂ := ⟨h₁.1.trans h₂.1, fun h => (h₂.2 h).elim (fun h => (h₁.2 h).imp_right
    (fun h => h.trans_le h₂.1)) fun h => .inr (h₁.1.trans_lt h)⟩
  bind {_ _ fBound _ r} h := by
    have := Bind_vhListenSocket h
    dsimp only
    refine ⟨by split at this <;> omega, fun hb => ?_⟩
    cases fBound
    · exact .inr (by cases hr : r.1 <;> simp_all)
    · exact .inl rfl

/-- When no call of `BindListenPort` can bind, `fBound` never changes. -/
theorem bindInv_unbound (env : NetEnv) (limited : Network → Bool)
    (hfail : ∀ n addr w, env.BindListenPort n addr w ≠ .bound) :
    BindInv env limited fun r r' => r'.1 = r.1 where
  refl _ := rfl
  trans h₁ h₂ := h₂.trans h₁
  bind {addr _ fBound _ r} h := by
    cases hr : r.1
    · simp
    · obtain ⟨n, w, hb⟩ := Bind_fst h hr
      exact absurd hb (hfail n addr w)

section Listen

variable {env : NetEnv} {a : ArgsManager} {d : NetDefaults} {s s' : NetState}

/-- A node that listens ends the block with a new socket bound; one that does not tries no
    bind. -/
theorem listenBlock_ok (h : listenBlock env a d s = .ok s') :
    s'.fListen = a.GetBoolArg "-listen" d.DEFAULT_LISTEN ∧
      (s'.fListen = true → s.binding.vhListenSocket.length < s'.binding.vhListenSocket.length) ∧
      (s'.fListen = false → s'.binding = s.binding) := by
  unfold listenBlock at h
  dsimp only at h
  split at h
  · split at h <;> cases h
    next hl b hb =>
      have hlen := (rel_listenTry (bindInv_bound env _) a _ _ hb).2 rfl
      exact ⟨rfl, fun _ => hlen.resolve_left Bool.false_ne_true, fun h => by simp_all⟩
  · cases h
    exact ⟨rfl, fun h => absurd h ‹_›, fun _ => rfl⟩

/-- When no bind can succeed, the block fails exactly when the node listens. -/
theorem listenBlock_ok_iff (hfail : ∀ n addr w, env.BindListenPort n addr w ≠ .bound) :
    (∃ s', listenBlock env a d s = .ok s') ↔ a.GetBoolArg "-listen" d.DEFAULT_LISTEN = false := by
  unfold listenBlock
  dsimp only
  by_cases hl : a.GetBoolArg "-listen" d.DEFAULT_LISTEN = true
  · simp only [hl, ↓reduceIte, Bool.true_eq_false, iff_false, not_exists]
    intro s' h
    split at h
    next b hb => exact absurd (rel_listenTry (bindInv_unbound env _ hfail) a _ _ hb) (by simp)
    all_goals cases h
  · simp [hl]

end Listen

/-- Binding and listening: once `InitParameterInteraction` has run on the user's arguments `a`,
    `fListen` is what `listens` says; a node that listens ends the listening block with a new
    socket bound or fails, and one that does not tries no bind. So when no bind can succeed,
    network initialisation fails exactly when the node listens: explicitly with `-listen`, or
    through `-bind` and `-whitebind`, but not after `-connect` or `-proxy` unless one of those
    asks for it. -/
theorem bind_failure_fatal_iff_listens (d : NetDefaults) (env : NetEnv) (a : ArgsManager)
    (log : List String) (s : NetState) :
    (∀ s', listenBlock env (InitParameterInteraction d.toInteractionDefaults ⟨a, log⟩).1.args d s =
        .ok s' →
      s'.fListen = listens d.toInteractionDefaults a ∧
        (s'.fListen = true → s.binding.vhListenSocket.length < s'.binding.vhListenSocket.length) ∧
        (s'.fListen = false → s'.binding = s.binding)) ∧
    ((∀ n addr w, env.BindListenPort n addr w ≠ .bound) →
      ((∃ s', listenBlock env (InitParameterInteraction d.toInteractionDefaults ⟨a, log⟩).1.args d s =
          .ok s') ↔ listens d.toInteractionDefaults a = false)) := by
  have hl := InitParameterInteraction_listen d.toInteractionDefaults a log
  exact ⟨fun _ h => hl ▸ listenBlock_ok h, fun hfail => hl ▸ listenBlock_ok_iff hfail⟩

/-- `-connect` on its own. -/
def connectArgs : ArgsManager := ArgsManager.empty.ForceSetArg "-connect" "10.0.0.1"

theorem bind_failure_fatal_iff_listens_connect :
    (∀ n addr w, (hostEnv (.failed "Unable to bind")).BindListenPort n addr w ≠ .bound) ∧
    ((∃ s', listenBlock (hostEnv (.failed "Unable to bind"))
        (InitParameterInteraction mainDefaults.toInteractionDefaults ⟨connectArgs, []⟩).1.args
        mainDefaults NetState.init = .ok s') ↔
      listens mainDefaults.toInteractionDefaults connectArgs = false) :=
  ⟨(fun _ _ _ h => by cases h),
    (bind_failure_fatal_iff_listens mainDefaults _ connectArgs [] NetState.init).2
      fun _ _ _ h => by cases h⟩

/-- `-connect` turns listening off, so a failed bind does not stop the node. -/
example : listens mainDefaults.toInteractionDefaults connectArgs = false := by
  decide

end gulden.network
