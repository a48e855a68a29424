import GuldenInit.StrEncodings
import GuldenInit.Network

namespace gulden.relay_fees

/-- `CFeeRate`: a fee rate in base units per 1000 bytes. -/
structure CFeeRate where
  nSatoshisPerK : Int64
  deriving DecidableEq

/-- `AmountErrMsg(optname, strValue)`. -/
def AmountErrMsg (optname strValue : String) : String :=
  s!"Invalid amount for -{optname}=<amount>: \x27{strValue}\x27"

/-- The fee rates AppInitParameterInteraction sets. -/
structure FeeRates where
  incrementalRelayFee : CFeeRate
  minRelayTxFee : CFeeRate
  dustRelayFee : CFeeRate
  deriving DecidableEq

/-- The amount check each fee argument gets: when `-optname` is set, its value must be an
    amount for `ParseMoney`, or AppInitParameterInteraction fails with `AmountErrMsg`. The
    amount given, none when the argument is not set. -/
def feeArg (args : ArgsManager) (optname : String) : Except String (Option Int64) :=
  if args.IsArgSet ("-" ++ optname) then
    let strValue := args.GetArgStr ("-" ++ optname) ""
    match ParseMoney strValue with
    | none => .error (AmountErrMsg optname strValue)
    | some n => .ok (some n)
  else .ok none

/-- `-incrementalrelayfee`: the rate given, if any. -/
def setIncrementalRelayFee (r : Option Int64) (fees : FeeRates) : FeeRates :=
  match r with
  | some n => { fees with incrementalRelayFee := ⟨n⟩ }
  | none => fees

/-- `-minrelaytxfee`: the rate given; without one, the incremental relay fee when that is
    the higher. -/
def setMinRelayTxFee (r : Option Int64) (fees : FeeRates) : FeeRates :=
  match r with
  | some n => { fees with minRelayTxFee := ⟨n⟩ }
  | none =>
    if fees.incrementalRelayFee.nSatoshisPerK.val > fees.minRelayTxFee.nSatoshisPerK.val then
      { fees with minRelayTxFee := fees.incrementalRelayFee }
    else fees

/-- The fee statements of AppInitParameterInteraction in source order: `-incrementalrelayfee`,
    `-minrelaytxfee`, `-blockmintxfee` (only checked), and `-dustrelayfee`, which must not
    be zero. -/
def relayFees (args : ArgsManager) (fees : FeeRates) : Except String FeeRates := do
  let fees := setIncrementalRelayFee (← feeArg args "incrementalrelayfee") fees
  let fees := setMinRelayTxFee (← feeArg args "minrelaytxfee") fees
  let _ ← feeArg args "blockmintxfee"
  match ← feeArg args "dustrelayfee" with
  | some n =>
    if n.val = 0 then throw (AmountErrMsg "dustrelayfee" (args.GetArgStr "-dustrelayfee" ""))
    else pure { fees with dustRelayFee := ⟨n⟩ }
  | none => pure fees

section Block

variable {args : ArgsManager} {fees : FeeRates}

theorem feeArg_of_not_set {optname : String} (h : args.IsArgSet ("-" ++ optname) = false) :
    feeArg args optname = .ok none := by
  simp [feeArg, h]

/-- A fee argument fails its check only when it is set and is not an amount, and the error
    names it with its value. -/
theorem feeArg_eq_error {optname e : String} (h : feeArg args optname = .error e) :
    args.IsArgSet ("-" ++ optname) = true ∧ ParseMoney (args.GetArgStr ("-" ++ optname) "") = none ∧
      e = AmountErrMsg optname (args.GetArgStr ("-" ++ optname) "") := by
  unfold feeArg at h
  split_ifs at h with hset
  rcases hp : ParseMoney (args.GetArgStr ("-" ++ optname) "") with _ | n <;> simp only [hp] at h
  · cases h; exact ⟨hset, rfl, rfl⟩
  · cases h

theorem feeArg_isArgSet {optname : String} {n : Int64} (h : feeArg args optname = .ok (some n)) :
    args.IsArgSet ("-" ++ optname) = true := by
  by_contra hset
  rw [feeArg_of_not_set (by simpa using hset)] at h
  cases h

/-- Every failure of the fee block is the `AmountErrMsg` of one of its four arguments, which
    was set, with the value given to it. -/
theorem relayFees_eq_error {e : String} (h : relayFees args fees = .error e) :
    ∃ optname ∈ ["incrementalrelayfee", "minrelaytxfee", "blockmintxfee", "dustrelayfee"],
      args.IsArgSet ("-" ++ optname) = true ∧
        e = AmountErrMsg optname (args.GetArgStr ("-" ++ optname) "") := by
  have of_feeArg : ∀ optname ∈ ["incrementalrelayfee", "minrelaytxfee", "blockmintxfee",
      "dustrelayfee"], feeArg args optname = .error e →
      ∃ optname ∈ ["incrementalrelayfee", "minrelaytxfee", "blockmintxfee", "dustrelayfee"],
        args.IsArgSet ("-" ++ optname) = true ∧
          e = AmountErrMsg optname (args.GetArgStr ("-" ++ optname) "") :=
    fun optname hmem hopt => let ⟨hs, _, he⟩ := feeArg_eq_error hopt; ⟨optname, hmem, hs, he⟩
  unfold relayFees at h
  rcases network.bind_eq_error.1 h with h | ⟨_, -, h⟩
  · exact of_feeArg _ (by simp) h
  rcases network.bind_eq_error.1 h with h | ⟨_, -, h⟩
  · exact of_feeArg _ (by simp) h
  rcases network.bind_eq_error.1 h with h | ⟨_, -, h⟩
  · exact of_feeArg _ (by simp) h
  rcases network.bind_eq_error.1 h with h | ⟨rDust, h4, h⟩
  · exact of_feeArg _ (by simp) h
  rcases rDust with _ | n
  · cases h
  · by_cases hn : n.val = 0
    · simp only [hn, if_true, throw, throwThe, MonadExceptOf.throw, Except.error.injEq] at h
      exact ⟨"dustrelayfee", by simp, feeArg_isArgSet h4, h.symm⟩
    · simp only [hn, if_false] at h; cases h

end Block

/-- AppInitParameterInteraction: `fEnableReplacement`, from `-mempoolreplacement` read as a
    flag, or, when that reads false, as a comma-separated list of modes that names `fee`. -/
def enableReplacement (DEFAULT_ENABLE_REPLACEMENT : Bool) (args : ArgsManager) : Bool :=
  let fEnableReplacement := args.GetBoolArg "-mempoolreplacement" DEFAULT_ENABLE_REPLACEMENT
  if !fEnableReplacement ∧ args.IsArgSet "-mempoolreplacement" then
    "fee" ∈ split ',' (args.GetArgStr "-mempoolreplacement" "")
  else fEnableReplacement

end gulden.relay_fees
