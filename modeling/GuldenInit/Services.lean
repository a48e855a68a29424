import GuldenInit.Settings
import GuldenInit.Network
import GuldenInit.VersionBits

namespace gulden.services

open parameter_interaction settings

/-- The bits of the `ServiceFlags` values start-up sets (protocol.h, not part of the sources):
    three distinct bits of the 64. -/
structure ServiceBits where
  NODE_NETWORK : Nat
  NODE_BLOOM : Nat
  NODE_SEGSIG : Nat
  hlt : NODE_NETWORK < 64 ∧ NODE_BLOOM < 64 ∧ NODE_SEGSIG < 64
  hne : NODE_NETWORK ≠ NODE_BLOOM ∧ NODE_NETWORK ≠ NODE_SEGSIG ∧ NODE_BLOOM ≠ NODE_SEGSIG

/-- `NODE_NETWORK = (1 << 0)`, `NODE_BLOOM = (1 << 2)` and `NODE_SEGSIG = (1 << 3)`, as in the
    headers the code was derived from. -/
def sampleBits : ServiceBits := ⟨0, 2, 3, by decide, by decide⟩

/-- The `ServiceFlags` value `(1 << i)`. -/
def flag (i : Nat) : BitVec 64 := 1#64 <<< i

@[simp] theorem getLsbD_flag (i j : Nat) :
    (flag i).getLsbD j = (decide (i < 64) && decide (i = j)) :=
  BitVec.getLsbD_twoPow i j

/-- `nLocalServices` and `nRelevantServices` once AppInitParameterInteraction has read
    `-peerbloomfilters`: both start as `NODE_NETWORK`, and bloom filters add `NODE_BLOOM` to the
    services offered. -/
def interactionServices (b : ServiceBits) (DEFAULT_PEERBLOOMFILTERS : Bool) (args : ArgsManager) :
    BitVec 64 × BitVec 64 :=
  let nLocalServices := flag b.NODE_NETWORK
  let nRelevantServices := flag b.NODE_NETWORK
  let nLocalServices := if args.GetBoolArg "-peerbloomfilters" DEFAULT_PEERBLOOMFILTERS then
    nLocalServices ||| flag b.NODE_BLOOM else nLocalServices
  (nLocalServices, nRelevantServices)

/-- Step 9 of AppInitMain: a pruning node unsets `NODE_NETWORK`, and a `DEPLOYMENT_POW2_PHASE4`
    with a non-zero `nTimeout` adds `NODE_SEGSIG` to the services offered and to those looked
    for. -/
def dataDirMaintenance (b : ServiceBits) (fPruneMode : Bool) (nTimeout : Int64)
    (services : BitVec 64 × BitVec 64) : BitVec 64 × BitVec 64 :=
  let nLocalServices := if fPruneMode then services.1 &&& ~~~(flag b.NODE_NETWORK) else services.1
  if nTimeout.val ≠ 0 then
    (nLocalServices ||| flag b.NODE_SEGSIG, services.2 ||| flag b.NODE_SEGSIG)
  else (nLocalServices, services.2)

/-- `connOptions.nLocalServices` and `connOptions.nRelevantServices` as Step 11 hands them to
    `CConnman::Start`, from the globals AppInitParameterInteraction left. -/
def startServices (b : ServiceBits) (DEFAULT_PEERBLOOMFILTERS : Bool) (nTimeout : Int64)
    (s : ParamState) : BitVec 64 × BitVec 64 :=
  dataDirMaintenance b s.fPruneMode nTimeout (interactionServices b DEFAULT_PEERBLOOMFILTERS s.args)

section Bits

variable (b : ServiceBits) (DEFAULT_PEERBLOOMFILTERS : Bool) (nTimeout : Int64)

theorem interactionServices_fst (args : ArgsManager) (i : Nat) :
    (interactionServices b DEFAULT_PEERBLOOMFILTERS args).1.getLsbD i =
      (decide (i = b.NODE_NETWORK) || args.GetBoolArg "-peerbloomfilters" DEFAULT_PEERBLOOMFILTERS
        && decide (i = b.NODE_BLOOM)) := by
  obtain ⟨hn, hb, -⟩ := b.hlt
  unfold interactionServices
  split <;> simp [*, eq_comm (a := i)]

theorem dataDirMaintenance_fst (fPruneMode : Bool) (services : BitVec 64 × BitVec 64) (i : Nat) :
    (dataDirMaintenance b fPruneMode nTimeout services).1.getLsbD i =
      (services.1.getLsbD i && !(fPruneMode && decide (i = b.NODE_NETWORK)) ||
        decide (nTimeout.val ≠ 0) && decide (i = b.NODE_SEGSIG)) := by
  obtain ⟨hn, -, hs⟩ := b.hlt
  unfold dataDirMaintenance
  by_cases hi : i < 64
  · cases fPruneMode <;> by_cases ht : nTimeout.val = 0 <;> simp [*, eq_comm (a := i)]
  · have : i ≠ b.NODE_NETWORK ∧ i ≠ b.NODE_SEGSIG := by omega
    split_ifs <;> simp [BitVec.getLsbD_ge _ _ (Nat.le_of_not_lt hi), this]

theorem dataDirMaintenance_snd (fPruneMode : Bool) (services : BitVec 64 × BitVec 64) (i : Nat) :
    (dataDirMaintenance b fPruneMode nTimeout services).2.getLsbD i =
      (services.2.getLsbD i || decide (nTimeout.val ≠ 0) && decide (i = b.NODE_SEGSIG)) := by
  obtain ⟨-, -, hs⟩ := b.hlt
  unfold dataDirMaintenance
  by_cases ht : nTimeout.val = 0 <;> simp [ht, hs, eq_comm (a := i)]

variable (s : ParamState)

/-- The services offered: `NODE_NETWORK` unless pruning, `NODE_BLOOM` with bloom filters, and
    `NODE_SEGSIG` with a defined phase 4; no other bit. -/
theorem startServices_local (i : Nat) :
    (startServices b DEFAULT_PEERBLOOMFILTERS nTimeout s).1.getLsbD i = true ↔
      i = b.NODE_NETWORK ∧ s.fPruneMode = false ∨
      i = b.NODE_BLOOM ∧ s.args.GetBoolArg "-peerbloomfilters" DEFAULT_PEERBLOOMFILTERS = true ∨
      i = b.NODE_SEGSIG ∧ nTimeout.val ≠ 0 := by
  obtain ⟨hnb, hns, hbs⟩ := b.hne
  rw [startServices, dataDirMaintenance_fst, interactionServices_fst]
  by_cases hN : i = b.NODE_NETWORK
  · subst hN; simp [hnb, hns]
  by_cases hB : i = b.NODE_BLOOM
  · subst hB; simp [hN, hbs]
  · simp [hN, hB, and_comm]

/-- The services looked for in peers: `NODE_NETWORK`, and `NODE_SEGSIG` with a defined phase 4. -/
theorem startServices_relevant (i : Nat) :
    (startServices b DEFAULT_PEERBLOOMFILTERS nTimeout s).2.getLsbD i = true ↔
      i = b.NODE_NETWORK ∨ i = b.NODE_SEGSIG ∧ nTimeout.val ≠ 0 := by
  obtain ⟨hn, -, -⟩ := b.hlt
  rw [startServices, dataDirMaintenance_snd]
  simp [interactionServices, hn, eq_comm (a := i), and_comm]

end Bits

section Interaction

variable {c : InitConstants} {host : Host}

theorem fdBudget_fPruneMode {args : ArgsManager} {s s' : ParamState}
    (h : fdBudget c host args s = .ok s') : s'.fPruneMode = s.fPruneMode := by
  dsimp only [fdBudget] at h
  split at h <;> cases h; rfl

theorem pruneTarget_args {nPruneArg : Int64} {s s' : ParamState}
    (h : pruneTarget c nPruneArg s = .ok s') : s'.args = s.args := by
  unfold pruneTarget at h
  dsimp only at h
  split_ifs at h <;> cases h <;> rfl

/-- The low-memory overrides leave every argument outside their table as it was. -/
theorem lowMemoryOverrides_mapArgs_of_lookup_none {args : ArgsManager} {warnings : List String}
    {name : String} (hname : (lowMemorySettings c).lookup name = none) :
    (lowMemoryOverrides c host args warnings).1.mapArgs name = args.mapArgs name := by
  by_cases hlow : host.systemPhysicalMemoryInBytes ≤ 1 * 1024 * 1024 * 1024
  · rw [lowMemoryOverrides_mapArgs c host hlow, hname]
  · simp [lowMemoryOverrides, hlow]

/-- What a successful AppInitParameterInteraction is made of: the descriptor budget, then the
    prune target on its arguments. -/
theorem appInitParameterInteraction_ok {s s' : ParamState}
    (h : appInitParameterInteraction c host s = .ok s') :
    ∃ s₁ warnings, fdBudget c host s.args s = .ok s₁ ∧
      pruneTarget c (s₁.args.GetArg "-prune" (Int64.ofInt 0)) { s₁ with warnings } = .ok s' := by
  obtain ⟨_, -, h⟩ := network.bind_eq_ok.1 h
  obtain ⟨s₁, h₁, h⟩ := network.bind_eq_ok.1 h
  obtain ⟨warnings, -, h⟩ := network.bind_eq_ok.1 h
  obtain ⟨_, -, h⟩ := network.bind_eq_ok.1 h
  exact ⟨s₁, warnings, h₁, h⟩

end Interaction

/-- The services a node offers and looks for once started, for every host, every phase 4
    timeout and every argument set with `-prune` below `2^44` MiB that AppInitParameterInteraction
    accepts: it offers `NODE_NETWORK` exactly when `-prune` is 0 or unset, so a pruning node never
    claims to serve the full chain, `NODE_BLOOM` exactly with `-peerbloomfilters`, and
    `NODE_SEGSIG` exactly when phase 4 has a timeout; it looks for `NODE_NETWORK`, and for
    `NODE_SEGSIG` under the same condition. -/
theorem advertised_services (c : InitConstants) (host : Host) (args : ArgsManager)
    (b : ServiceBits) (DEFAULT_PEERBLOOMFILTERS : Bool) (nTimeout : Int64) {s' : ParamState}
    (h : appInitParameterInteraction c host (ParamState.init args) = .ok s')
    (hp : (args.GetArg "-prune" (Int64.ofInt 0)).val < 2 ^ 44) (i : Nat) :
    ((startServices b DEFAULT_PEERBLOOMFILTERS nTimeout s').1.getLsbD i = true ↔
      i = b.NODE_NETWORK ∧ (args.GetArg "-prune" (Int64.ofInt 0)).val = 0 ∨
      i = b.NODE_BLOOM ∧ args.GetBoolArg "-peerbloomfilters" DEFAULT_PEERBLOOMFILTERS = true ∨
      i = b.NODE_SEGSIG ∧ nTimeout.val ≠ 0) ∧
    ((startServices b DEFAULT_PEERBLOOMFILTERS nTimeout s').2.getLsbD i = true ↔
      i = b.NODE_NETWORK ∨ i = b.NODE_SEGSIG ∧ nTimeout.val ≠ 0) := by
  obtain ⟨s₁, warnings, h₁, h₂⟩ := appInitParameterInteraction_ok h
  have hargs : ∀ name, (lowMemorySettings c).lookup name = none →
      s₁.args.mapArgs name = args.mapArgs name := fun name hname => by
    rw [(fdBudget_ok h₁).2.2.2]; exact lowMemoryOverrides_mapArgs_of_lookup_none hname
  have hprune : s₁.args.GetArg "-prune" (Int64.ofInt 0) = args.GetArg "-prune" (Int64.ofInt 0) := by
    simp only [ArgsManager.GetArg, hargs "-prune" rfl]
  have hbloom : s'.args.GetBoolArg "-peerbloomfilters" DEFAULT_PEERBLOOMFILTERS =
      args.GetBoolArg "-peerbloomfilters" DEFAULT_PEERBLOOMFILTERS := by
    simp only [ArgsManager.GetBoolArg, pruneTarget_args h₂, hargs "-peerbloomfilters" rfl]
  rw [hprune] at h₂
  obtain ⟨herr, hok⟩ := pruneTarget_of_lt c _ _ hp
  have hnonneg : 0 ≤ (args.GetArg "-prune" (Int64.ofInt 0)).val := by
    by_contra hneg
    obtain ⟨e, he⟩ := herr.2 (.inl (by omega))
    rw [h₂] at he; cases he
  have hmode : s'.fPruneMode = decide (1 ≤ (args.GetArg "-prune" (Int64.ofInt 0)).val) := by
    rw [(hok s' h₂).1, fdBudget_fPruneMode h₁]; rfl
  refine ⟨?_, startServices_relevant b _ nTimeout s' i⟩
  rw [startServices_local, hmode, hbloom, decide_eq_false_iff_not, not_le]
  constructor <;> rintro (⟨rfl, h⟩ | h) <;> first | exact .inl ⟨rfl, by omega⟩ | exact .inr h

/-- A host with 4 GiB of memory, a soft descriptor limit of 1024 and a hard one of 4096. -/
def pruneHost : Host := ⟨2 ^ 32, some ⟨1024, 4096, by decide, by decide⟩⟩

/-- `-prune=550`. -/
def pruneArgs : ArgsManager := ArgsManager.empty.ForceSetArg "-prune" "550"

set_option maxRecDepth 2000 in
theorem advertised_services_prune :
    ∃ s', appInitParameterInteraction sampleConstants pruneHost
        (ParamState.init pruneArgs) = .ok s' ∧
      (pruneArgs.GetArg "-prune" (Int64.ofInt 0)).val < 2 ^ 44 ∧ ∀ i,
      ((startServices sampleBits true ⟨0, by decide, by decide⟩ s').1.getLsbD i = true ↔
        i = sampleBits.NODE_NETWORK ∧ (pruneArgs.GetArg "-prune" (Int64.ofInt 0)).val = 0 ∨
        i = sampleBits.NODE_BLOOM ∧ pruneArgs.GetBoolArg "-peerbloomfilters" true = true ∨
        i = sampleBits.NODE_SEGSIG ∧ (⟨0, by decide, by decide⟩ : Int64).val ≠ 0) ∧
      ((startServices sampleBits true ⟨0, by decide, by decide⟩ s').2.getLsbD i = true ↔
        i = sampleBits.NODE_NETWORK ∨
          i = sampleBits.NODE_SEGSIG ∧ (⟨0, by decide, by decide⟩ : Int64).val ≠ 0) :=
  have hp : (pruneArgs.GetArg "-prune" (Int64.ofInt 0)).val < 2 ^ 44 := by decide
  have ⟨s', hs'⟩ : ∃ s', appInitParameterInteraction sampleConstants pruneHost
      (ParamState.init pruneArgs) = .ok s' := ⟨_, rfl⟩
  ⟨s', hs', hp, advertised_services sampleConstants pruneHost pruneArgs sampleBits true
    ⟨0, by decide, by decide⟩ hs' hp⟩

/-- A pruning node offers `NODE_BLOOM` alone. -/
example : (startServices sampleBits true ⟨0, by decide, by decide⟩
    { ParamState.init pruneArgs with fPruneMode := true }).1 = flag sampleBits.NODE_BLOOM := by
  decide

section VersionBits

open version_bits

variable {info : List String}

/-- On regtest, the phase 4 deployment Step 9 reads after `-vbparams` has the times of the
    last entry naming it, or its own when none does; and the node offers and looks for
    `NODE_SEGSIG` exactly when that timeout is non-zero. So a `-vbparams` entry with a
    timeout of 0 for phase 4 switches segregated signatures off in the services. -/
theorem segsig_of_vbparams (b : ServiceBits) (DEFAULT_PEERBLOOMFILTERS : Bool) (s : ParamState)
    (chain : ChainParams) (args : ArgsManager) (os : List Override) (hnodup : info.Nodup)
    (hsep : ∀ name ∈ info, ':' ∉ name.data) (hd : ∀ o ∈ os, o.d < info.length)
    (hregtest : chain.MineBlocksOnDemand = true) (hset : args.IsArgSet "-vbparams" = true)
    (hargs : args.GetArgs "-vbparams" = os.map (Override.text info)) {phase4 : Nat}
    (hphase4 : phase4 < chain.vDeployments.length) :
    ∃ dep, (versionBitsParameters chain info args).2[phase4]? = some dep ∧
      dep = (((os.filter (·.d = phase4)).getLast?).map Override.times).getD
        chain.vDeployments[phase4] ∧
      ((startServices b DEFAULT_PEERBLOOMFILTERS dep.nTimeout s).1.getLsbD b.NODE_SEGSIG = true ↔
        dep.nTimeout.val ≠ 0) ∧
      ((startServices b DEFAULT_PEERBLOOMFILTERS dep.nTimeout s).2.getLsbD b.NODE_SEGSIG = true ↔
        dep.nTimeout.val ≠ 0) := by
  obtain ⟨hnb, hns, hbs⟩ := b.hne
  have hv : (versionBitsParameters chain info args).2 = os.foldl Override.apply chain.vDeployments := by
    simp only [versionBitsParameters, hset, hregtest, hargs, if_true, Bool.not_true,
      Bool.false_eq_true, if_false, deploymentLoop_text hnodup hsep hd]
  refine ⟨_, by rw [hv, getElem?_foldl_apply, List.getElem?_eq_getElem hphase4]; rfl, rfl, ?_, ?_⟩
  · rw [startServices_local]
    simp [hns.symm, hbs.symm]
  · rw [startServices_relevant]
    simp [hns.symm]

/-- `-vbparams=csv:5:0` on regtest: `csv` stands for phase 4 and gets a timeout of 0. -/
def segsigOffArgs : ArgsManager :=
  ⟨fun s => if s = "-vbparams" then some "csv:5:0" else none,
    fun s => if s = "-vbparams" then ["csv:5:0"] else []⟩

/-- The override `-vbparams=csv:5:0` asks for. -/
def segsigOffOverrides : List Override := [⟨1, Int64.ofInt 5, Int64.ofInt 0⟩]

theorem segsig_of_vbparams_off :
    ∃ h : 1 < regtestChain.vDeployments.length, ∃ dep,
      (versionBitsParameters regtestChain twoDeployments segsigOffArgs).2[1]? = some dep ∧
      dep = (((segsigOffOverrides.filter (·.d = 1)).getLast?).map Override.times).getD
        regtestChain.vDeployments[1] ∧
      ((startServices sampleBits true dep.nTimeout (ParamState.init segsigOffArgs)).1.getLsbD
        sampleBits.NODE_SEGSIG = true ↔ dep.nTimeout.val ≠ 0) ∧
      ((startServices sampleBits true dep.nTimeout (ParamState.init segsigOffArgs)).2.getLsbD
        sampleBits.NODE_SEGSIG = true ↔ dep.nTimeout.val ≠ 0) :=
  ⟨by decide, segsig_of_vbparams sampleBits true (ParamState.init segsigOffArgs) regtestChain
    segsigOffArgs segsigOffOverrides (by decide) (by decide) (by decide) rfl rfl (by decide) _⟩

/-- With that entry, the node neither offers nor looks for `NODE_SEGSIG`. -/
example : (startServices sampleBits true (Int64.ofInt 0) (ParamState.init segsigOffArgs)).1.getLsbD
      sampleBits.NODE_SEGSIG = false ∧
    (startServices sampleBits true (Int64.ofInt 0) (ParamState.init segsigOffArgs)).2.getLsbD
      sampleBits.NODE_SEGSIG = false := by
  decide

end VersionBits

end gulden.services
