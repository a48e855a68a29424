import GuldenInit.Util

namespace gulden.init_interaction

open ArgsManager

/-- The defaults `InitParameterInteraction` reads (from headers that are not part of the
    sources), and whether the build targets an ARM processor. -/
structure InteractionDefaults where
  DEFAULT_LISTEN : Bool
  DEFAULT_BLOCKSONLY : Bool
  DEFAULT_WHITELISTFORCERELAY : Bool
  onArm : Bool

/-- The arguments, and the lines written to the debug log so far. -/
structure Interaction where
  args : ArgsManager
  log : List String

/-- `if (SoftSetBoolArg(strArg, fValue)) LogPrintf("%s: parameter interaction: ...", __func__)`. -/
def softSetLogged (strArg : String) (fValue : Bool) (msg : String) (s : Interaction) : Interaction :=
  let r := s.args.SoftSetBoolArg strArg fValue
  ⟨r.2, if r.1 then s.log ++ ["InitParameterInteraction: parameter interaction: " ++ msg ++ "\n"]
    else s.log⟩

/-- One `if (cond) { ... }` block: the soft sets `sets`, in order, when `cond` holds of the
    arguments as the block finds them. -/
def block (cond : ArgsManager → Bool) (sets : List (String × Bool × String)) (s : Interaction) :
    Interaction :=
  if cond s.args then sets.foldl (fun s x => softSetLogged x.1 x.2.1 x.2.2 s) s else s

/-- The blocks that follow an explicit binding, `-connect` and `-proxy`. -/
def bindingBlocks (s : Interaction) : Interaction :=
  s |> block (·.IsArgSet "-bind") [("-listen", true, "-bind set -> setting -listen=1")]
    |> block (·.IsArgSet "-whitebind") [("-listen", true, "-whitebind set -> setting -listen=1")]
    |> block (·.IsArgSet "-connect")
      [("-dnsseed", false, "-connect set -> setting -dnsseed=0"),
       ("-listen", false, "-connect set -> setting -listen=0")]
    |> block (·.IsArgSet "-proxy")
      [("-listen", false, "-proxy set -> setting -listen=0"),
       ("-upnp", false, "-proxy set -> setting -upnp=0"),
       ("-discover", false, "-proxy set -> setting -discover=0")]

/-- The blocks that follow from not listening and from `-externalip`. -/
def listenBlocks (d : InteractionDefaults) (s : Interaction) : Interaction :=
  s |> block (fun a => !a.GetBoolArg "-listen" d.DEFAULT_LISTEN)
      [("-upnp", false, "-listen=0 -> setting -upnp=0"),
       ("-discover", false, "-listen=0 -> setting -discover=0"),
       ("-listenonion", false, "-listen=0 -> setting -listenonion=0")]
    |> block (·.IsArgSet "-externalip") [("-discover", false, "-externalip set -> setting -discover=0")]

/-- The blocks on relaying for whitelisted peers. -/
def relayBlocks (d : InteractionDefaults) (s : Interaction) : Interaction :=
  s |> block (·.GetBoolArg "-blocksonly" d.DEFAULT_BLOCKSONLY)
      [("-whitelistrelay", false, "-blocksonly=1 -> setting -whitelistrelay=0")]
    |> block (·.GetBoolArg "-whitelistforcerelay" d.DEFAULT_WHITELISTFORCERELAY)
      [("-whitelistrelay", true, "-whitelistforcerelay=1 -> setting -whitelistrelay=1")]

/-- `#if defined(__arm__) || defined(__aarch64__)`: `SoftSetBoolArg("-minimallogging", true)`. -/
def armDefaults (onArm : Bool) (a : ArgsManager) : ArgsManager :=
  if onArm then (a.SoftSetBoolArg "-minimallogging" true).2 else a

/-- `InitParameterInteraction`: the blocks of soft sets in source order, the ARM soft set, and
    the value of `gbMinimalLogging` (the second component). -/
def InitParameterInteraction (d : InteractionDefaults) (s : Interaction) : Interaction × Bool :=
  let s := relayBlocks d (listenBlocks d (bindingBlocks s))
  let args := armDefaults d.onArm s.args
  (⟨args, s.log⟩, args.GetBoolArg "-minimallogging" false)

/-- The value of a setting once soft sets have run: the user's value, else the value of the
    first rule whose condition holds, else none. -/
def firstOf (user : Option String) (rules : List (Bool × String)) : Option String :=
  if user.isSome then user else (rules.find? (·.1)).map (·.2)

/-- The rules that set `-listen`, in source order. -/
def listenRules (a : ArgsManager) : List (Bool × String) :=
  [(a.IsArgSet "-bind", "1"), (a.IsArgSet "-whitebind", "1"), (a.IsArgSet "-connect", "0"),
    (a.IsArgSet "-proxy", "0")]

/-- Whether the node listens: `GetBoolArg("-listen", DEFAULT_LISTEN)` after the interaction. -/
def listens (d : InteractionDefaults) (a : ArgsManager) : Bool :=
  (firstOf (a.mapArgs "-listen") (listenRules a)).elim d.DEFAULT_LISTEN InterpretBool

/-- The rules of `InitParameterInteraction` for each argument, in source order, with their
    conditions read off the arguments the user gave. -/
def interactionRules (d : InteractionDefaults) (a : ArgsManager) (name : String) :
    List (Bool × String) :=
  if name = "-listen" then listenRules a
  else if name = "-dnsseed" then [(a.IsArgSet "-connect", "0")]
  else if name = "-upnp" then [(a.IsArgSet "-proxy", "0"), (!listens d a, "0")]
  else if name = "-discover" then
    [(a.IsArgSet "-proxy", "0"), (!listens d a, "0"), (a.IsArgSet "-externalip", "0")]
  else if name = "-listenonion" then [(!listens d a, "0")]
  else if name = "-whitelistrelay" then
    [(a.GetBoolArg "-blocksonly" d.DEFAULT_BLOCKSONLY, "0"),
      (a.GetBoolArg "-whitelistforcerelay" d.DEFAULT_WHITELISTFORCERELAY, "1")]
  else if name = "-minimallogging" then [(d.onArm, "1")]
  else []

section FirstOf

variable (u : Option String)

@[simp] theorem firstOf_nil : firstOf u [] = u := by
  cases u <;> rfl

/-- Soft sets compose: a later rule only applies when no earlier one did. -/
theorem firstOf_append (r₁ r₂ : List (Bool × String)) :
    firstOf (firstOf u r₁) r₂ = firstOf u (r₁ ++ r₂) := by
  cases u with
  | some v => rfl
  | none =>
    unfold firstOf
    cases h : r₁.find? (·.1) <;> simp [List.find?_append, h]

theorem firstOf_of_false (r : List (Bool × String)) (hr : ∀ x ∈ r, x.1 = false) :
    firstOf u r = u := by
  cases u with
  | some v => rfl
  | none =>
    have : r.find? (·.1) = none := List.find?_eq_none.mpr fun x hx => by simp [hr x hx]
    simp [firstOf, this]

end FirstOf

section Blocks

theorem GetBoolArg_eq_elim (a : ArgsManager) (strArg : String) (fDefault : Bool) :
    a.GetBoolArg strArg fDefault = (a.mapArgs strArg).elim fDefault InterpretBool := by
  unfold GetBoolArg; cases a.mapArgs strArg <;> rfl

theorem softSetLogged_mapArgs (strArg : String) (fValue : Bool) (msg : String) (s : Interaction)
    (name : String) :
    (softSetLogged strArg fValue msg s).args.mapArgs name =
      if name = strArg ∧ !s.args.IsArgSet strArg then some (if fValue then "1" else "0")
      else s.args.mapArgs name :=
  SoftSetArg_mapArgs _ _ _ _

/-- The soft sets of a block in order: an argument takes the first value the block has for
    it, unless it was set already. -/
theorem foldl_softSetLogged_mapArgs (sets : List (String × Bool × String)) (name : String) :
    ∀ s : Interaction, (sets.foldl (fun s x => softSetLogged x.1 x.2.1 x.2.2 s) s).args.mapArgs name =
      firstOf (s.args.mapArgs name)
        ((sets.filter (·.1 == name)).map fun x => (true, if x.2.1 then "1" else "0")) := by
  induction sets with
  | nil => simp
  | cons x sets ih =>
    intro s
    rw [List.foldl_cons, ih, softSetLogged_mapArgs, List.filter_cons]
    by_cases hx : name = x.1
    · subst hx
      cases h : s.args.mapArgs x.1 <;> simp [firstOf, IsArgSet, h]
    · have : (x.1 == name) = false := beq_false_of_ne (Ne.symm hx)
      simp [hx, this]

variable (cond : ArgsManager → Bool) (sets : List (String × Bool × String)) (s : Interaction)
  (name : String)

theorem block_mapArgs : (block cond sets s).args.mapArgs name = firstOf (s.args.mapArgs name)
    ((sets.filter (·.1 == name)).map fun x => (cond s.args, if x.2.1 then "1" else "0")) := by
  unfold block
  split
  next h => rw [foldl_softSetLogged_mapArgs, h]
  next h =>
    simp only [Bool.not_eq_true] at h
    exact (firstOf_of_false _ _ (by simp [h])).symm

theorem block_mapArgs_of_not_mem (h : ∀ x ∈ sets, name ≠ x.1) :
    (block cond sets s).args.mapArgs name = s.args.mapArgs name := by
  rw [block_mapArgs, List.filter_eq_nil_iff.mpr fun x hx => by simpa using (h x hx).symm]
  simp

/-- `block_mapArgs` for a block that can set `name`; the guard keeps `simp` from expanding the
    blocks that cannot. -/
theorem block_mapArgs_of_mem (_ : sets.any (·.1 == name)) :
    (block cond sets s).args.mapArgs name = firstOf (s.args.mapArgs name)
      ((sets.filter (·.1 == name)).map fun x => (cond s.args, if x.2.1 then "1" else "0")) :=
  block_mapArgs cond sets s name

end Blocks

theorem armDefaults_mapArgs (onArm : Bool) (a : ArgsManager) (name : String) :
    (armDefaults onArm a).mapArgs name =
      firstOf (a.mapArgs name) (if name = "-minimallogging" then [(onArm, "1")] else []) := by
  unfold armDefaults
  by_cases h : name = "-minimallogging"
  · subst h
    cases onArm <;> cases hm : a.mapArgs "-minimallogging" <;>
      simp [firstOf, SoftSetBoolArg, SoftSetArg_mapArgs, IsArgSet, hm]
  · cases onArm <;> simp [h, SoftSetBoolArg, SoftSetArg_mapArgs]

/-- Each argument keeps the value the user gave it, else takes that of its first rule that
    applies. -/
theorem InitParameterInteraction_mapArgs (d : InteractionDefaults) (a : ArgsManager)
    (log : List String) (name : String) :
    (InitParameterInteraction d ⟨a, log⟩).1.args.mapArgs name =
      firstOf (a.mapArgs name) (interactionRules d a name) := by
  obtain (rfl | rfl | rfl | rfl | rfl | rfl | rfl) | hn := em (name = "-listen" ∨
    name = "-dnsseed" ∨ name = "-upnp" ∨ name = "-discover" ∨ name = "-listenonion" ∨
    name = "-whitelistrelay" ∨ name = "-minimallogging")
  any_goals simp only [not_or] at hn
  all_goals
    simp (disch := first | decide | simp [*]) only [interactionRules, InitParameterInteraction,
      relayBlocks,
      listenBlocks, bindingBlocks, armDefaults_mapArgs, block_mapArgs_of_not_mem,
      block_mapArgs_of_mem, IsArgSet, GetBoolArg_eq_elim, List.filter_cons, List.filter_nil,
      String.reduceBEq, String.reduceEq, Bool.false_eq_true, ↓reduceIte, List.map_cons,
      List.map_nil, firstOf_nil, firstOf_append, List.nil_append, List.cons_append, listens,
      listenRules, *]

/-- The node listens once the interaction has run exactly when `listens` says so. -/
theorem InitParameterInteraction_listen (d : InteractionDefaults) (a : ArgsManager)
    (log : List String) :
    (InitParameterInteraction d ⟨a, log⟩).1.args.GetBoolArg "-listen" d.DEFAULT_LISTEN =
      listens d a := by
  rw [GetBoolArg_eq_elim, InitParameterInteraction_mapArgs]
  rfl

/-- `InitParameterInteraction` for every argument set: each argument keeps the value the user
    gave it, and otherwise takes the value of the first of its rules in `interactionRules` whose
    condition, read off the user's arguments, holds; `gbMinimalLogging` is the resulting
    `-minimallogging`. In particular `-blocksonly` turns `-whitelistrelay` off before
    `-whitelistforcerelay` can turn it on. -/
theorem InitParameterInteraction_rules (d : InteractionDefaults) (a : ArgsManager)
    (log : List String) :
    (∀ name, (InitParameterInteraction d ⟨a, log⟩).1.args.mapArgs name =
      firstOf (a.mapArgs name) (interactionRules d a name)) ∧
    (InitParameterInteraction d ⟨a, log⟩).2 =
      (firstOf (a.mapArgs "-minimallogging") [(d.onArm, "1")]).elim false InterpretBool := by
  refine ⟨InitParameterInteraction_mapArgs d a log, ?_⟩
  have := InitParameterInteraction_mapArgs d a log "-minimallogging"
  simp only [interactionRules, String.reduceEq, ↓reduceIte] at this
  rw [← this, ← GetBoolArg_eq_elim]
  rfl

/-- With `-proxy` given, whatever else the user gave: UPnP and the discovery of the node's own
    address end up off unless the user turned them on, and the node listens only when `-listen`,
    `-bind` or `-whitebind` asks for it. -/
theorem proxy_keeps_node_private (d : InteractionDefaults) (a : ArgsManager) (log : List String)
    (hproxy : a.IsArgSet "-proxy") :
    (a.IsArgSet "-upnp" = false →
      (InitParameterInteraction d ⟨a, log⟩).1.args.mapArgs "-upnp" = some "0") ∧
    (a.IsArgSet "-discover" = false →
      (InitParameterInteraction d ⟨a, log⟩).1.args.mapArgs "-discover" = some "0") ∧
    (a.IsArgSet "-listen" = false → a.IsArgSet "-bind" = false → a.IsArgSet "-whitebind" = false →
      (InitParameterInteraction d ⟨a, log⟩).1.args.mapArgs "-listen" = some "0") := by
  have hrules := InitParameterInteraction_mapArgs d a log
  refine ⟨fun hu => ?_, fun hd => ?_, fun hl hb hw => ?_⟩ <;>
    simp only [hrules, interactionRules, listenRules, String.reduceEq, ↓reduceIte, IsArgSet] at * <;>
    cases a.mapArgs "-connect" <;> simp_all [firstOf]

/-- `-proxy` on its own. -/
def proxyArgs : ArgsManager := ArgsManager.empty.ForceSetArg "-proxy" "127.0.0.1:9050"

theorem proxy_keeps_node_private_proxyArgs :
    proxyArgs.IsArgSet "-proxy" ∧
    (proxyArgs.IsArgSet "-upnp" = false →
      (InitParameterInteraction ⟨true, false, true, false⟩ ⟨proxyArgs, []⟩).1.args.mapArgs "-upnp" =
        some "0") ∧
    (proxyArgs.IsArgSet "-discover" = false →
      (InitParameterInteraction ⟨true, false, true, false⟩ ⟨proxyArgs, []⟩).1.args.mapArgs
        "-discover" = some "0") ∧
    (proxyArgs.IsArgSet "-listen" = false → proxyArgs.IsArgSet "-bind" = false →
      proxyArgs.IsArgSet "-whitebind" = false →
      (InitParameterInteraction ⟨true, false, true, false⟩ ⟨proxyArgs, []⟩).1.args.mapArgs
        "-listen" = some "0") :=
  ⟨by decide, proxy_keeps_node_private ⟨true, false, true, false⟩ proxyArgs [] (by decide)⟩

end gulden.init_interaction
