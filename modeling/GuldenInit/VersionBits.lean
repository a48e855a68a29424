import GuldenInit.StrEncodings
import Mathlib.Data.List.Nodup

namespace gulden.version_bits

/-- The times of a version bits deployment, the fields `UpdateVersionBitsParameters` sets. -/
structure BIP9Deployment where
  nStartTime : Int64
  nTimeout : Int64
  deriving DecidableEq

/-- What AppInitParameterInteraction reads of the chain parameters for `-vbparams`. -/
structure ChainParams where
  /-- `MineBlocksOnDemand()`: true on regtest only. -/
  MineBlocksOnDemand : Bool
  /-- `GetConsensus().vDeployments`. -/
  vDeployments : List BIP9Deployment

/-- `UpdateVersionBitsParameters(d, nStartTime, nTimeout)`. -/
def UpdateVersionBitsParameters (vDeployments : List BIP9Deployment) (d : Nat)
    (nStartTime nTimeout : Int64) : List BIP9Deployment :=
  vDeployments.set d ⟨nStartTime, nTimeout⟩

/-- The body of the loop over the `-vbparams` entries: split at `:` into exactly three
    pieces, read the start time, then the timeout, then update the first deployment of
    `VersionBitsDeploymentInfo` with that name. -/
def deploymentEntry (VersionBitsDeploymentInfo : List String) (strDeployment : String)
    (vDeployments : List BIP9Deployment) : Except String (List BIP9Deployment) :=
  match split ':' strDeployment with
  | [name, sStart, sTimeout] =>
    match ParseInt64 sStart with
    | none => .error s!"Invalid nStartTime ({sStart})"
    | some nStartTime =>
      match ParseInt64 sTimeout with
      | none => .error s!"Invalid nTimeout ({sTimeout})"
      | some nTimeout =>
        match VersionBitsDeploymentInfo.findIdx? (· == name) with
        | some j => .ok (UpdateVersionBitsParameters vDeployments j nStartTime nTimeout)
        | none => .error s!"Invalid deployment ({name})"
  | _ => .error "Version bits parameters malformed, expecting deployment:start:end"

/-- The loop over the `-vbparams` entries. The first rejected entry ends
    AppInitParameterInteraction with its error; the updates of the entries before it have
    been made to the chain parameters and stay. -/
def deploymentLoop (VersionBitsDeploymentInfo : List String) :
    List String → List BIP9Deployment → Except String Unit × List BIP9Deployment
  | [], vDeployments => (.ok (), vDeployments)
  | strDeployment :: rest, vDeployments =>
    match deploymentEntry VersionBitsDeploymentInfo strDeployment vDeployments with
    | .ok vDeployments' => deploymentLoop VersionBitsDeploymentInfo rest vDeployments'
    | .error e => (.error e, vDeployments)

/-- AppInitParameterInteraction's `-vbparams` block: the outcome and the deployments after
    it. Version bits parameters may only be overridden on regtest. -/
def versionBitsParameters (chain : ChainParams) (VersionBitsDeploymentInfo : List String)
    (args : ArgsManager) : Except String Unit × List BIP9Deployment :=
  if args.IsArgSet "-vbparams" then
    if !chain.MineBlocksOnDemand then
      (.error "Version bits parameters may only be overridden on regtest.", chain.vDeployments)
    else deploymentLoop VersionBitsDeploymentInfo (args.GetArgs "-vbparams") chain.vDeployments
  else (.ok (), chain.vDeployments)

section Overrides

/-- An override `-vbparams` asks for: a deployment's index in `VersionBitsDeploymentInfo`,
    and its new start time and timeout. -/
structure Override where
  d : Nat
  nStartTime : Int64
  nTimeout : Int64

/-- The entry `deployment:start:end` that asks for an override. -/
def Override.text (VersionBitsDeploymentInfo : List String) (o : Override) : String :=
  VersionBitsDeploymentInfo.getD o.d "" ++ ":" ++ i64tostr o.nStartTime.val ++ ":" ++
    i64tostr o.nTimeout.val

/-- Making an override. -/
def Override.apply (vDeployments : List BIP9Deployment) (o : Override) : List BIP9Deployment :=
  UpdateVersionBitsParameters vDeployments o.d o.nStartTime o.nTimeout

/-- The times an override sets. -/
def Override.times (o : Override) : BIP9Deployment := ⟨o.nStartTime, o.nTimeout⟩

@[simp] theorem length_foldl_apply (os : List Override) (v : List BIP9Deployment) :
    (os.foldl Override.apply v).length = v.length := by
  induction os generalizing v with
  | nil => rfl
  | cons o os ih => simp [ih, Override.apply, UpdateVersionBitsParameters]

/-- After a list of overrides each deployment has the times of the last override naming it,
    or its own when none does. -/
theorem getElem?_foldl_apply (os : List Override) (v : List BIP9Deployment) (d : Nat) :
    (os.foldl Override.apply v)[d]? =
      v[d]?.map fun dep => (((os.filter (·.d = d)).getLast?).map Override.times).getD dep := by
  induction os using List.reverseRecOn with
  | nil => simp
  | append_singleton os o ih =>
    rw [List.foldl_append, List.foldl_cons, List.foldl_nil, Override.apply,
      UpdateVersionBitsParameters, List.getElem?_set, ih, List.filter_append]
    by_cases hd : o.d = d
    · subst hd
      by_cases h : o.d < v.length
      · simp [h, Override.times]
      · simp [h, List.getElem?_eq_none (Nat.le_of_not_lt h)]
    · simp [hd]

variable {info : List String}

private theorem colon_not_mem_i64tostr (v : Int) : ':' ∉ (i64tostr v).data := fun h => by
  rcases mem_i64tostr h with h | h
  · exact absurd h (by decide)
  · exact absurd h (by decide)

/-- The text of an override splits into the deployment's name and the two printed times. -/
theorem split_text {o : Override} (hsep : ∀ name ∈ info, ':' ∉ name.data)
    (hd : o.d < info.length) :
    split ':' (o.text info) =
      [info[o.d], i64tostr o.nStartTime.val, i64tostr o.nTimeout.val] := by
  have hget : info.getD o.d "" = info[o.d] := by simp [hd]
  have hname : ':' ∉ (info.getD o.d "").data := hget ▸ hsep _ (List.getElem_mem hd)
  rw [Override.text, String.append_assoc, String.append_assoc, String.append_assoc]
  rw [show (":" : String) = ⟨[':']⟩ from rfl, ← String.append_assoc, split_append hname,
    ← String.append_assoc, split_append (colon_not_mem_i64tostr _),
    split_of_not_mem (colon_not_mem_i64tostr _), hget]

/-- The name of a deployment of a table of distinct names finds that deployment. -/
theorem findIdx_name (hnodup : info.Nodup) {d : Nat} (hd : d < info.length) :
    info.findIdx? (· == info[d]) = some d := by
  rw [List.findIdx?_eq_some_iff_getElem]
  refine ⟨hd, by simp, fun j hj heq => ?_⟩
  have := (hnodup.getElem_inj_iff).1 (beq_iff_eq.1 heq)
  omega

theorem deploymentEntry_text (hnodup : info.Nodup) (hsep : ∀ name ∈ info, ':' ∉ name.data)
    {o : Override} (hd : o.d < info.length) (v : List BIP9Deployment) :
    deploymentEntry info (o.text info) v = .ok (o.apply v) := by
  simp only [deploymentEntry, split_text hsep hd, ParseInt64_i64tostr, findIdx_name hnodup hd,
    Override.apply]

theorem deploymentLoop_text (hnodup : info.Nodup) (hsep : ∀ name ∈ info, ':' ∉ name.data)
    {os : List Override} (hd : ∀ o ∈ os, o.d < info.length) (v : List BIP9Deployment) :
    deploymentLoop info (os.map (Override.text info)) v = (.ok (), os.foldl Override.apply v) := by
  induction os generalizing v with
  | nil => rfl
  | cons o os ih =>
    simp only [List.forall_mem_cons] at hd
    simp only [List.map_cons, deploymentLoop, deploymentEntry_text hnodup hsep hd.1, List.foldl_cons,
      ih hd.2]

/-- A regtest chain with two deployments. -/
def regtestChain : ChainParams :=
  ⟨true, [⟨Int64.ofInt 0, Int64.ofInt 0⟩, ⟨Int64.ofInt 0, Int64.ofInt 0⟩]⟩

/-- A table of two deployment names. -/
def twoDeployments : List String := ["testdummy", "csv"]

end Overrides

end gulden.version_bits
