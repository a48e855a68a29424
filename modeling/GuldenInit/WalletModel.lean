import GuldenInit.Serialize
import GuldenInit.QString

namespace gulden.wallet_model

open serialize qstring

/-- `CKeyID`: a `uint160`, twenty bytes. -/
structure CKeyID where
  data : List UInt8
  length_eq : data.length = 20
  deriving DecidableEq

/-- `CKeyID()`: all zero. -/
def CKeyID.null : CKeyID := ⟨List.replicate 20 0, List.length_replicate 20 0⟩

/-- `READWRITE(keyID)` writing: its bytes. -/
def CKeyID.Serialize (k : CKeyID) : List UInt8 := k.data

/-- `READWRITE(keyID)` reading: `s.read((char*)data, sizeof(data))`. -/
def CKeyID.Unserialize : Reader CKeyID := fun vch =>
  match h : read 20 vch with
  | .ok (bs, rest) => .ok (⟨bs, length_of_read h⟩, rest)
  | .error e => .error e

/-- `CPoW2WitnessDestination`: the key that spends a witness account and the key that
    witnesses with it. -/
structure CPoW2WitnessDestination where
  spendingKey : CKeyID
  witnessKey : CKeyID
  deriving DecidableEq

/-- Its `SerializationOp` writing: `READWRITE(spendingKey); READWRITE(witnessKey);`. -/
def CPoW2WitnessDestination.Serialize (w : CPoW2WitnessDestination) : List UInt8 :=
  w.spendingKey.Serialize ++ w.witnessKey.Serialize

/-- `try { READWRITE(destinationPoW2Witness); } catch(...) {}` reading into `w`: the spending
    key, then the witness key. A key read before the stream ran out stays read, and the stream
    stays where the failed read left it. -/
def readWitnessCatching (w : CPoW2WitnessDestination) : Reader CPoW2WitnessDestination :=
  fun vch =>
    match CKeyID.Unserialize vch with
    | .error _ => .ok (w, vch)
    | .ok (k, vch) =>
      match CKeyID.Unserialize vch with
      | .error _ => .ok ({ w with spendingKey := k }, vch)
      | .ok (k', vch) => .ok (⟨k, k'⟩, vch)

/-- The fields of `SendCoinsRecipient` that `SerializationOp` reads or writes; those marked
    memory only, and `witnessForAccount`, are left out. A `QString` is its characters, and
    `paymentRequest` the bytes `SerializeToString` gives when it `IsInitialized()`, `none`
    otherwise. -/
structure SendCoinsRecipient where
  address : String
  label : String
  amount : Int64
  message : String
  paymentRequest : Option (List UInt8)
  authenticatedMerchant : String
  nVersion : Int32
  destinationPoW2Witness : CPoW2WitnessDestination
  deriving DecidableEq

/-- `SendCoinsRecipient::CURRENT_VERSION`. -/
def CURRENT_VERSION : Int32 := ⟨1, by decide, by decide⟩

/-- `SendCoinsRecipient()`. -/
def SendCoinsRecipient.default : SendCoinsRecipient where
  address := ""
  label := ""
  amount := ⟨0, by decide, by decide⟩
  message := ""
  paymentRequest := none
  authenticatedMerchant := ""
  nVersion := CURRENT_VERSION
  destinationPoW2Witness := ⟨CKeyID.null, CKeyID.null⟩

/-- `SerializationOp` writing `r`, up to the `try`: `nVersion`, the address, the label, the
    amount, the message, the payment request and the authenticated merchant. -/
def SendCoinsRecipient.serializeFields (r : SendCoinsRecipient) : List UInt8 :=
  writeInt32 r.nVersion ++ writeString (toStdString r.address) ++
    writeString (toStdString r.label) ++ writeInt64 r.amount ++
    writeString (toStdString r.message) ++ writeString (r.paymentRequest.getD []) ++
    writeString (toStdString r.authenticatedMerchant)

/-- `SerializationOp` writing `r`. -/
def SendCoinsRecipient.Serialize (r : SendCoinsRecipient) : List UInt8 :=
  r.serializeFields ++ r.destinationPoW2Witness.Serialize

/-- The texts `SerializationOp` writes of `r`, in order. -/
def SendCoinsRecipient.strings (r : SendCoinsRecipient) : List (List UInt8) :=
  [toStdString r.address, toStdString r.label, toStdString r.message, r.paymentRequest.getD [],
    toStdString r.authenticatedMerchant]

/-- `SerializationOp` reading into `r`. `paymentRequest.parse` is taken to keep the bytes it
    parses. -/
def SendCoinsRecipient.Unserialize (r : SendCoinsRecipient) : Reader SendCoinsRecipient := do
  let nVersion ← readInt32
  let sAddress ← readString
  let sLabel ← readString
  let amount ← readInt64
  let sMessage ← readString
  let sPaymentRequest ← readString
  let sAuthenticatedMerchant ← readString
  let destinationPoW2Witness ← readWitnessCatching r.destinationPoW2Witness
  pure { r with
    nVersion := nVersion
    address := fromStdString sAddress
    label := fromStdString sLabel
    amount := amount
    message := fromStdString sMessage
    paymentRequest := if sPaymentRequest.isEmpty then r.paymentRequest else some sPaymentRequest
    authenticatedMerchant := fromStdString sAuthenticatedMerchant
    destinationPoW2Witness := destinationPoW2Witness }

theorem CKeyID.Unserialize_Serialize (k : CKeyID) (rest : List UInt8) :
    CKeyID.Unserialize (k.Serialize ++ rest) = .ok (k, rest) := by
  have hr : read 20 (k.data ++ rest) = .ok (k.data, rest) := k.length_eq ▸ read_append k.data rest
  unfold CKeyID.Unserialize CKeyID.Serialize
  split <;> rename_i h <;> rw [hr] at h <;> cases h
  rfl

theorem CKeyID.Unserialize_nil : CKeyID.Unserialize [] = .error "CDataStream::read(): end of data" :=
  rfl

theorem readWitnessCatching_Serialize (w0 w : CPoW2WitnessDestination) (rest : List UInt8) :
    readWitnessCatching w0 (w.Serialize ++ rest) = .ok (w, rest) := by
  simp only [readWitnessCatching, CPoW2WitnessDestination.Serialize, List.append_assoc,
    CKeyID.Unserialize_Serialize]

/-- The earlier format has nothing after the fields: both reads fail and `w` is kept. -/
theorem readWitnessCatching_nil (w : CPoW2WitnessDestination) :
    readWitnessCatching w [] = .ok (w, []) := by
  simp only [readWitnessCatching, CKeyID.Unserialize_nil]

/-- What `SerializationOp` reads into `r0` from what it wrote of `r` before the `try`, with `w`
    read in the `try`. -/
def readBack (r0 r : SendCoinsRecipient) (w : CPoW2WitnessDestination) : SendCoinsRecipient :=
  { r0 with
    nVersion := r.nVersion
    address := fromStdString (toStdString r.address)
    label := fromStdString (toStdString r.label)
    amount := r.amount
    message := fromStdString (toStdString r.message)
    paymentRequest := if (r.paymentRequest.getD []).isEmpty then r0.paymentRequest
      else some (r.paymentRequest.getD [])
    authenticatedMerchant := fromStdString (toStdString r.authenticatedMerchant)
    destinationPoW2Witness := w }

/-- Reading back the fields written before the `try`, each text of at most `MAX_SIZE` bytes,
    gives what `readBack` says; what follows them is read as the witness. -/
theorem Unserialize_serializeFields (r0 r : SendCoinsRecipient) (rest : List UInt8)
    (hfit : ∀ str ∈ r.strings, str.length ≤ MAX_SIZE) :
    r0.Unserialize (r.serializeFields ++ rest) =
      (readBack r0 r <$> readWitnessCatching r0.destinationPoW2Witness) rest := by
  simp only [SendCoinsRecipient.strings, List.mem_cons, List.mem_singleton, forall_eq_or_imp,
    forall_eq, List.not_mem_nil, or_false] at hfit
  obtain ⟨h1, h2, h3, h4, h5⟩ := hfit
  simp only [SendCoinsRecipient.Unserialize, SendCoinsRecipient.serializeFields, List.append_assoc,
    bind_apply, readInt32_writeInt32, readInt64_writeInt64, readString_writeString_of_le h1,
    readString_writeString_of_le h2, readString_writeString_of_le h3,
    readString_writeString_of_le h4, readString_writeString_of_le h5, map_apply]
  rfl

/-- With no payment request on either side and no text starting with U+FEFF, `readBack` gives
    `r` with the witness read. -/
theorem readBack_eq (r0 r : SendCoinsRecipient) (h0 : r0.paymentRequest = none)
    (hpr : r.paymentRequest = none)
    (hbom : ∀ s ∈ [r.address, r.label, r.message, r.authenticatedMerchant],
      s.data.head? ≠ some '\uFEFF') (w : CPoW2WitnessDestination) :
    readBack r0 r w = { r with destinationPoW2Witness := w } := by
  simp only [List.mem_cons, List.mem_singleton, forall_eq_or_imp, forall_eq,
    List.not_mem_nil, or_false] at hbom
  obtain ⟨h1, h2, h3, h4⟩ := hbom
  simp only [readBack, fromStdString_toStdString, if_neg h1, if_neg h2, if_neg h3, if_neg h4, hpr,
    Option.getD_none, List.isEmpty_nil, if_true, h0]

/-- A recipient with no payment request, whose four texts do not start with U+FEFF and take at
    most `MAX_SIZE` bytes each, reads back into `SendCoinsRecipient()` from what
    `SerializationOp` wrote of it, field for field. From the earlier format, without the
    witness, it reads back with the witness that `SendCoinsRecipient()` has. -/
theorem recipient_round_trip (r : SendCoinsRecipient) (hpr : r.paymentRequest = none)
    (htext : ∀ s ∈ [r.address, r.label, r.message, r.authenticatedMerchant],
      s.data.head? ≠ some '\uFEFF' ∧ (toStdString s).length ≤ MAX_SIZE) :
    SendCoinsRecipient.default.Unserialize r.Serialize = .ok (r, []) ∧
    SendCoinsRecipient.default.Unserialize r.serializeFields =
      .ok ({ r with destinationPoW2Witness :=
        SendCoinsRecipient.default.destinationPoW2Witness }, []) := by
  have hfit : ∀ str ∈ r.strings, str.length ≤ MAX_SIZE := by
    simp only [SendCoinsRecipient.strings, List.mem_cons, List.mem_singleton, forall_eq_or_imp,
      forall_eq, List.not_mem_nil, or_false] at htext ⊢
    simp only [hpr, Option.getD_none, List.length_nil, Nat.zero_le, htext, and_self]
  have hback := readBack_eq SendCoinsRecipient.default r rfl hpr (fun s hs => (htext s hs).1)
  constructor
  · rw [SendCoinsRecipient.Serialize, ← List.append_nil r.destinationPoW2Witness.Serialize,
      Unserialize_serializeFields _ _ _ hfit]
    simp only [map_apply, readWitnessCatching_Serialize, hback]
  · rw [← List.append_nil r.serializeFields, Unserialize_serializeFields _ _ _ hfit]
    simp only [map_apply, readWitnessCatching_nil, hback]

/-- A recipient with an address, a label, an amount and a witness. -/
def sampleRecipient : SendCoinsRecipient :=
  { SendCoinsRecipient.default with
    address := "GeEwqS4Bfvc3bWhTUPSdn1NXhZxNXRfdnt"
    label := "Gulden"
    amount := ⟨100000000, by decide, by decide⟩
    destinationPoW2Witness :=
      ⟨⟨List.replicate 20 1, List.length_replicate 20 1⟩,
        ⟨List.replicate 20 2, List.length_replicate 20 2⟩⟩ }

theorem recipient_round_trip_sample :
    sampleRecipient.paymentRequest = none ∧
    (∀ s ∈ [sampleRecipient.address, sampleRecipient.label, sampleRecipient.message,
        sampleRecipient.authenticatedMerchant],
      s.data.head? ≠ some '\uFEFF' ∧ (toStdString s).length ≤ MAX_SIZE) ∧
    SendCoinsRecipient.default.Unserialize sampleRecipient.Serialize = .ok (sampleRecipient, []) ∧
    SendCoinsRecipient.default.Unserialize sampleRecipient.serializeFields =
      .ok ({ sampleRecipient with destinationPoW2Witness :=
        SendCoinsRecipient.default.destinationPoW2Witness }, []) :=
  ⟨rfl, by decide, recipient_round_trip sampleRecipient rfl (by decide)⟩

/-- `SendCoinsRecipient()` labelled U+FEFF, the zero width no-break space. -/
def bomRecipient : SendCoinsRecipient := { SendCoinsRecipient.default with label := "\uFEFF" }

/-- Its label does not read back: `QString::fromStdString` takes the bytes of U+FEFF at the
    start of the label for a byte order mark and skips them. -/
theorem recipient_bom_label_lost :
    SendCoinsRecipient.default.Unserialize bomRecipient.Serialize =
      .ok ({ bomRecipient with label := "" }, []) ∧ bomRecipient.label ≠ "" :=
  ⟨rfl, by decide⟩

/-- Reading back what `SerializationOp` wrote of `r`, into any recipient: it fails, with
    `ReadCompactSize(): size too large`, exactly when one of the texts written takes more than
    `MAX_SIZE` bytes, and otherwise gives what `readBack` says with the witness written. -/
theorem recipient_read_back (r0 r : SendCoinsRecipient)
    (h64 : ∀ str ∈ r.strings, str.length < 2 ^ 64) :
    r0.Unserialize r.Serialize =
      if ∀ str ∈ r.strings, str.length ≤ MAX_SIZE then
        .ok (readBack r0 r r.destinationPoW2Witness, [])
      else .error "ReadCompactSize(): size too large" := by
  by_cases hfit : ∀ str ∈ r.strings, str.length ≤ MAX_SIZE
  · rw [if_pos hfit, SendCoinsRecipient.Serialize,
      ← List.append_nil r.destinationPoW2Witness.Serialize, Unserialize_serializeFields _ _ _ hfit]
    simp only [map_apply, readWitnessCatching_Serialize]
  · rw [if_neg hfit]
    simp only [SendCoinsRecipient.strings, List.mem_cons, List.mem_singleton, forall_eq_or_imp,
      forall_eq, List.not_mem_nil, or_false] at h64 hfit
    obtain ⟨h1, h2, h3, h4, h5⟩ := h64
    simp only [SendCoinsRecipient.Unserialize, SendCoinsRecipient.Serialize,
      SendCoinsRecipient.serializeFields, List.append_assoc, bind_apply, readInt32_writeInt32,
      readInt64_writeInt64, readString_writeString h1, readString_writeString h2,
      readString_writeString h3, readString_writeString h4, readString_writeString h5]
    repeat' split_ifs <;> simp only [readInt64_writeInt64, readString_writeString h2,
      readString_writeString h3, readString_writeString h4, readString_writeString h5]
    all_goals simp_all

theorem recipient_read_back_bom :
    (∀ str ∈ bomRecipient.strings, str.length < 2 ^ 64) ∧
    SendCoinsRecipient.default.Unserialize bomRecipient.Serialize =
      if ∀ str ∈ bomRecipient.strings, str.length ≤ MAX_SIZE then
        .ok (readBack SendCoinsRecipient.default bomRecipient bomRecipient.destinationPoW2Witness, [])
      else .error "ReadCompactSize(): size too large" :=
  ⟨by decide, recipient_read_back _ _ (by decide)⟩

end gulden.wallet_model
