import CloudBilling.Integration.Config
import CloudBilling.Proofs.RoundTrip

/-!
# Configurations in transit

A configuration in transit is written as a map of its fields, which may stand in any order.  Whoever
reads that map finds the fields as they were, and the value of the envelope where the credential
was.  So a configuration is read back as it was if its credential is, and that is so within the
limit on nesting.
-/

namespace CloudBilling

open Json (Value)

namespace Integration

variable {kind : Kind} {value : Value} {entries : Dict Value}

/-! ## Records -/

namespace Record

variable {γ δ : Type} {credential : Value} {record : Record kind γ}

theorem nodup_toEntries (credential : Value) (kind : Kind) (record : Record kind γ) :
    (Dict.names (toEntries credential kind record)).Nodup := by
  cases kind with
  | s3 => simp [toEntries, S3.toEntries, Dict.names]
  | athena => simp [toEntries, Athena.toEntries, Dict.names]
  | bigQuery => simp [toEntries, BigQuery.toEntries, Dict.names]
  | azureStorage => simp [toEntries, AzureStorage.toEntries, Dict.names]
  | alibaba => simp [toEntries, BillingApi.toEntries, Dict.names]

theorem get?_of_perm (same : entries.Perm (toEntries credential kind record)) (key : String) :
    entries.get? key = Dict.get? (toEntries credential kind record) key :=
  Dict.get?_eq_of_perm (nodup_toEntries credential kind record) same key

/-- The fields of a record are read as they were written, in whatever order they stand. -/
theorem ofMap_of_perm (same : entries.Perm (toEntries credential kind record))
    (readCredential : Dict Value → Decoder (Option δ)) :
    ofMap readCredential kind entries =
      (fun found => withCredential found kind record) <$> readCredential entries := by
  have text (key : String) {content : String}
      (written : Dict.get? (toEntries credential kind record) key = some (.string content)) :
      Json.field .string entries key = .ok content :=
    Json.field_string_eq_ok_iff.mpr ((get?_of_perm same key).trans written)
  have optional (key : String) {content : String}
      (written : Dict.get? (toEntries credential kind record) key = some (.string content)) :
      Json.stringOrEmpty entries key = .ok content :=
    Json.stringOrEmpty_of_string ((get?_of_perm same key).trans written)
  rw [map_eq_pure_bind]
  cases kind with
  | s3 =>
      rw [ofMap, S3.ofMap, text "bucket" rfl, text "region" rfl, text "account" rfl]
      rfl
  | athena =>
      rw [ofMap, Athena.ofMap, text "bucket" rfl, text "region" rfl, text "database" rfl,
        text "table" rfl, optional "workgroup" rfl, text "account" rfl]
      rfl
  | bigQuery =>
      rw [ofMap, BigQuery.ofMap, text "projectID" rfl, text "dataset" rfl, text "table" rfl]
      rfl
  | azureStorage =>
      rw [ofMap, AzureStorage.ofMap, text "subscriptionID" rfl, text "account" rfl,
        text "container" rfl, optional "path" rfl, optional "cloud" rfl]
      rfl
  | alibaba =>
      rw [ofMap, BillingApi.ofMap, text "account" rfl, text "region" rfl]
      rfl

/-- The value that the credential of a record is written as stands under its name. -/
theorem get?_toEntries_configurer (credential : Value) (kind : Kind) (record : Record kind γ) :
    Dict.get? (toEntries credential kind record) "configurer" = some credential := by
  cases kind <;> rfl

end Record

/-! ## Credentials -/

/-- The value that an envelope is written as, or null if there is none. -/
def envelopeValue (envelope : Option Envelope) : Value :=
  envelope.elim .null Envelope.toValue

variable {envelope : Option Envelope}

theorem present?_envelopeValue
    (found : entries.get? "configurer" = some (envelopeValue envelope)) :
    Json.present? entries "configurer" = envelope.map Envelope.toValue := by
  cases envelope with
  | none => exact Json.present?_eq_none_iff.mpr (.inr found)
  | some envelope =>
      have notNull : envelope.toValue ≠ .null := envelope.toValue_ne_null
      exact Json.present?_eq_some_iff.mpr ⟨found, notNull⟩

theorem readCredential_of_found (provider : Provider)
    (found : entries.get? "configurer" = some (envelopeValue envelope)) :
    readCredential provider entries =
      envelope.elim (pure none) fun envelope => Credential.decode provider envelope.toValue := by
  rw [readCredential, Json.optionalField_any, present?_envelopeValue found]
  cases envelope <;> rfl

theorem readEnvelope_of_found (provider : Provider)
    (found : entries.get? "configurer" = some (envelopeValue envelope)) :
    readEnvelope provider entries = pure envelope := by
  rw [readEnvelope, Json.optionalField_any, present?_envelopeValue found]
  cases envelope with
  | none => rfl
  | some envelope =>
      have read := Envelope.decode_toValue provider envelope
      simp [read]

/-! ## Configurations -/

/-- The fields that a configuration in transit is written as. -/
def Transfer.fields (kind : Kind) (transfer : Transfer kind) : List (String × Value) :=
  Record.toEntries (envelopeValue (Record.credential kind transfer)) kind transfer

/-- A value holds the fields of a configuration in transit, in any order, and nothing else. -/
def Transfer.WrittenAs (kind : Kind) (transfer : Transfer kind) (value : Value) : Prop :=
  ∃ entries, value = .object entries ∧ entries.Perm (fields kind transfer)

theorem Transfer.writtenAs_toValue (kind : Kind) (transfer : Transfer kind) :
    WrittenAs kind transfer (toValue kind transfer) :=
  ⟨fields kind transfer, rfl, .refl _⟩

/-- The map of the fields lists them in the order of their names. -/
theorem Transfer.writtenAs_ofEntries (kind : Kind) (transfer : Transfer kind) :
    WrittenAs kind transfer (.object (Dict.ofEntries (fields kind transfer))) :=
  ⟨_, rfl, Dict.perm_ofEntries (Record.nodup_toEntries _ kind transfer)⟩

/-- A configuration in transit is turned into one with what its envelope is opened to. -/
theorem Transfer.toConfig_eq (kind : Kind) (transfer : Transfer kind) :
    Transfer.toConfig kind transfer = (fun found => Record.withCredential found kind transfer) <$>
      (Record.credential kind transfer).elim (pure none) (Credential.ofEnvelope kind.provider) := by
  rw [Transfer.toConfig]
  cases Record.credential kind transfer with
  | none => rfl
  | some envelope => exact (map_eq_pure_bind _ _).symm

section

variable {transfer : Transfer kind} (written : Transfer.WrittenAs kind transfer value)

include written

theorem Transfer.decode_of_writtenAs : Transfer.decode kind value = pure transfer := by
  obtain ⟨entries, rfl, same⟩ := written
  have found := (Record.get?_of_perm same "configurer").trans
    (Record.get?_toEntries_configurer _ kind transfer)
  have read : Record.ofMap (readEnvelope kind.provider) kind entries = pure transfer := by
    rw [Record.ofMap_of_perm same, readEnvelope_of_found kind.provider found, map_pure,
      Record.withCredential_credential]
  exact congrArg (Attempt.within kind.transferName) read

/-- A configuration is read with what its envelope is decoded to. -/
theorem Config.decode_of_writtenAs :
    Config.decode kind value = Attempt.within kind.typeName
      ((fun found => Record.withCredential found kind transfer) <$>
        (Record.credential kind transfer).elim (pure none) fun envelope =>
          Credential.decode kind.provider envelope.toValue) := by
  obtain ⟨entries, rfl, same⟩ := written
  have found := (Record.get?_of_perm same "configurer").trans
    (Record.get?_toEntries_configurer _ kind transfer)
  rw [← readCredential_of_found kind.provider found, ← Record.ofMap_of_perm same]
  rfl

end

namespace Config

variable {config : Config kind}

/-- What is nested in the credential of a configuration stays within the limit. -/
def Shallow (kind : Kind) (config : Config kind) : Prop :=
  ∀ credential, Record.credential kind config = some credential →
    Credential.height kind.provider credential ≤ maxDepth

@[simp] theorem credential_toTransfer (kind : Kind) (config : Config kind) :
    Record.credential kind (toTransfer kind config) =
      (Record.credential kind config).map (Credential.toEnvelope kind.provider) :=
  Record.credential_withCredential _ kind config

@[simp] theorem withCredential_toTransfer {γ : Type} (credential : Option γ) (kind : Kind)
    (config : Config kind) :
    Record.withCredential credential kind (toTransfer kind config) =
      Record.withCredential credential kind config :=
  Record.withCredential_withCredential _ credential kind config

/-- A configuration is what it was once its credential is. -/
theorem withCredential_map_pure {m : Type → Type} [Monad m] [LawfulMonad m] (kind : Kind)
    (config : Config kind) {read : Envelope → m (Option (Credential kind.provider))}
    (reads : ∀ credential, Record.credential kind config = some credential →
      read (Credential.toEnvelope kind.provider credential) = pure (some credential)) :
    (fun found => Record.withCredential found kind (toTransfer kind config)) <$>
      (Record.credential kind (toTransfer kind config)).elim (pure none) read = pure config := by
  have held : (Record.credential kind (toTransfer kind config)).elim (pure none) read =
      pure (Record.credential kind config) := by
    rw [credential_toTransfer]
    cases present : Record.credential kind config with
    | none => rfl
    | some credential => exact reads credential present
  rw [held, map_pure, withCredential_toTransfer, Record.withCredential_credential]

theorem toConfig_toTransfer (shallow : config.Shallow kind) :
    Transfer.toConfig kind (toTransfer kind config) = pure config := by
  rw [Transfer.toConfig_eq]
  apply withCredential_map_pure
  intro credential present
  exact Credential.ofEnvelope_toEnvelope (shallow credential present)

theorem decode_toTransfer (shallow : config.Shallow kind)
    (written : Transfer.WrittenAs kind (toTransfer kind config) value) :
    decode kind value = pure config := by
  rw [decode_of_writtenAs written, withCredential_map_pure]
  · rfl
  · intro credential present
    exact Credential.decodeAt_toEnvelope (by simpa using shallow credential present)

end Config

/-- A configuration is what it was after it was in transit, and after it was written and read, as
long as what is nested in its credential stays within the limit.  Every configuration in transit is
what it was after it was written and read, whatever its envelope holds; an envelope is written in one
way. -/
theorem transit_reads_back :
    (∀ (kind : Kind) (config : Config kind), Config.Shallow kind config →
      Transfer.toConfig kind (Config.toTransfer kind config) = pure config ∧
      ∀ value, Transfer.WrittenAs kind (Config.toTransfer kind config) value →
        Config.decode kind value = pure config) ∧
    (∀ (kind : Kind) (transfer : Transfer kind),
      Transfer.WrittenAs kind transfer (Transfer.toValue kind transfer) ∧
      ∀ value, Transfer.WrittenAs kind transfer value →
        Transfer.decode kind value = pure transfer) ∧
    ∀ envelope : Envelope, envelope.written = envelope.toValue := by
  refine ⟨?_, ?_, Envelope.written_eq_toValue⟩
  · intro kind config shallow
    constructor
    · exact Config.toConfig_toTransfer shallow
    · intro value written
      exact Config.decode_toTransfer shallow written
  · intro kind transfer
    constructor
    · exact Transfer.writtenAs_toValue kind transfer
    · intro value written
      exact Transfer.decode_of_writtenAs written

/-- A role over an access key with its secret, without a workgroup, in a map with sorted keys; and an
envelope with a tag that no credential has. -/
theorem transit_reads_back_sorted :
    let config : Config .athena :=
      ⟨"results", "eu-west-1", "billing", "cur", "", "123",
        some (.assumeRole (some (.accessKey ⟨"AKIA", "secret"⟩)) "arn")⟩
    let written : Value :=
      .object (Dict.ofEntries (Transfer.fields .athena (Config.toTransfer .athena config)))
    let foreign : Transfer .s3 := ⟨"bucket", "", "", some ⟨"Foreign", [("list", .array [.null])]⟩⟩
    (Config.Shallow .athena config ∧
      Transfer.WrittenAs .athena (Config.toTransfer .athena config) written ∧
      Config.decode .athena written = pure config) ∧
    Transfer.decode .s3 (Transfer.toValue .s3 foreign) = pure foreign := by
  intro config written foreign
  have shallow : Config.Shallow .athena config := by
    intro credential present
    cases present
    decide
  have sorted := Transfer.writtenAs_ofEntries .athena (Config.toTransfer .athena config)
  obtain ⟨configs, transfers, _⟩ := transit_reads_back
  have whole := (transfers .s3 foreign).2 _ (transfers .s3 foreign).1
  exact ⟨⟨shallow, sorted, (configs .athena config shallow).2 written sorted⟩, whole⟩

end Integration

end CloudBilling
