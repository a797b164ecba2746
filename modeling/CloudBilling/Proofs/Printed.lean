import CloudBilling.Proofs.Aws.Opening
import CloudBilling.Proofs.Output
import CloudBilling.Proofs.Transit

/-!
# Reading what was printed

A printed configuration has its secrets replaced, and each replaced secret that is a text is still a
text.  So it can be read again, and then has everything but its secrets; printing it again makes no
difference.  The exception is a key file, which is no text: its replacement cannot be read, and the
configuration is left without a credential.
-/

namespace CloudBilling

open Json (Value)

/-! ## Credentials -/

/-- Whether there is a secret can be told from what it is replaced by. -/
theorem interchangeable_replaced (secret : String) :
    Interchangeable secret (if secret = "" then "" else redacted) := by
  by_cases empty : secret = ""
  · rw [if_pos empty]
    exact .inl empty
  · rw [if_neg empty]
    exact .inr ⟨empty, by decide⟩

/-- What is left of a credential once it was redacted: it differs in its secrets only, and its
envelope is the redacted one. -/
structure Credential.LeavesBehind (provider : Provider) (credential left : Credential provider) :
    Prop where
  agree : AgreeUpToSecrets provider credential left
  height_eq : height provider left = height provider credential
  envelope_eq : Envelope.sanitize provider (toEnvelope provider credential) =
    pure (toEnvelope provider left)

theorem Aws.Credential.agree_redact : (credential : Credential) →
    credential.AgreeUpToSecrets credential.redact
  | .accessKey key => .accessKey key.id (interchangeable_replaced key.secret)
  | .serviceAccount => .serviceAccount
  | .assumeRole none roleArn => .bareRole roleArn
  | .assumeRole (some base) roleArn => .role roleArn base.agree_redact

theorem Aws.Credential.leavesBehind_redact (credential : Credential) :
    CloudBilling.Credential.LeavesBehind .aws credential credential.redact :=
  ⟨credential.agree_redact, credential.height_redact, sanitize_toEnvelope credential⟩

theorem Azure.Credential.leavesBehind_redact (credential : Credential) :
    CloudBilling.Credential.LeavesBehind .azure credential credential.redact := by
  refine ⟨?_, rfl, congrArg pure (sanitize_toEnvelope credential)⟩
  cases credential with
  | accessKey key => exact .accessKey key.account (interchangeable_replaced key.accessKey)

theorem Alibaba.Credential.leavesBehind_redact (credential : Credential) :
    CloudBilling.Credential.LeavesBehind .alibaba credential credential.redact := by
  refine ⟨?_, rfl, congrArg pure (sanitize_toEnvelope credential)⟩
  cases credential with
  | accessKey key => exact .accessKey key.id (interchangeable_replaced key.secret)

namespace Gcp

/-- The error about the replacement of a key file. -/
def lostKey : Event :=
  ⟨.error, .envelope,
    Envelope.conversionMessage .gcp ⟨[keyName], .typeMismatch "key" "map" "string"⟩⟩

namespace Credential

variable {credential left : Credential} {file : Key}

/-- What a GCP credential is read back as once it was redacted: a key file with something in it is
lost. -/
def remains : Credential → Option Credential
  | .key file => if file.entries = [] then some (.key file) else none
  | .workloadIdentity => some .workloadIdentity

theorem sanitize_empty_key (empty : file.entries = []) :
    sanitize file.toEnvelope = file.toEnvelope := by
  rw [sanitize_key, if_pos empty, Key.toEnvelope, Key.toValue, empty]
  rfl

theorem leavesBehind_of_remains (remaining : credential.remains = some left) :
    CloudBilling.Credential.LeavesBehind .gcp credential left := by
  cases credential with
  | workloadIdentity =>
      cases remaining
      exact ⟨.workloadIdentity, rfl, rfl⟩
  | key file =>
      by_cases empty : file.entries = []
      · rw [remains, if_pos empty] at remaining
        cases remaining
        exact ⟨.sameKey file, rfl, congrArg pure (sanitize_empty_key empty)⟩
      · rw [remains, if_neg empty] at remaining
        cases remaining

/-- The replacement of a key file is no key file. -/
theorem decode_sanitize_of_lost (lost : credential.remains = none) :
    CloudBilling.Credential.decode .gcp (sanitize credential.toEnvelope).toValue =
      ⟨.ok none, [lostKey]⟩ := by
  cases credential with
  | workloadIdentity => cases lost
  | key file =>
      have filled : file.entries ≠ [] := by
        intro empty
        rw [remains, if_pos empty] at lost
        cases lost
      have replaced := sanitize_key file
      rw [if_neg filled] at replaced
      rw [toEnvelope.eq_def, replaced, CloudBilling.Credential.decode,
        CloudBilling.Credential.decodeAt_toValue _ (by decide)]
      rfl

end Credential

end Gcp

namespace Credential

variable {provider : Provider} {credential left : Credential provider}

/-- What a credential is read back as once it was redacted. -/
def remains : (provider : Provider) → Credential provider → Option (Credential provider)
  | .aws => fun credential => some credential.redact
  | .azure => fun credential => some credential.redact
  | .gcp => Gcp.Credential.remains
  | .alibaba => fun credential => some credential.redact

/-- The errors that are logged where a redacted credential is read. -/
def losses (provider : Provider) (credential : Credential provider) : List Event :=
  if (remains provider credential).isSome then [] else [Gcp.lostKey]

theorem leavesBehind_of_remains (remaining : remains provider credential = some left) :
    LeavesBehind provider credential left := by
  cases provider with
  | aws =>
      cases remaining
      exact Aws.Credential.leavesBehind_redact credential
  | azure =>
      cases remaining
      exact Azure.Credential.leavesBehind_redact credential
  | gcp => exact Gcp.Credential.leavesBehind_of_remains remaining
  | alibaba =>
      cases remaining
      exact Alibaba.Credential.leavesBehind_redact credential

theorem decode_sanitize_of_lost (lost : remains provider credential = none) :
    decode provider (Envelope.sanitize provider (toEnvelope provider credential)).value.toValue =
      ⟨.ok none, [Gcp.lostKey]⟩ := by
  cases provider with
  | aws | azure | alibaba => cases lost
  | gcp => exact Gcp.Credential.decode_sanitize_of_lost lost

/-- A credential within the limit on nesting is redacted, written and read. -/
theorem decode_sanitize (shallow : height provider credential ≤ maxDepth) :
    decode provider (Envelope.sanitize provider (toEnvelope provider credential)).value.toValue =
      ⟨.ok (remains provider credential), losses provider credential⟩ := by
  cases remaining : remains provider credential with
  | none =>
      rw [decode_sanitize_of_lost remaining, losses, remaining]
      rfl
  | some left =>
      have behind := leavesBehind_of_remains remaining
      have fits : (0 : UInt64).toNat + height provider left ≤ maxDepth := by
        simpa [behind.height_eq] using shallow
      rw [behind.envelope_eq, losses, remaining]
      exact decodeAt_toEnvelope fits

/-- Nothing but a GCP credential is lost. -/
theorem remains_ne_none (notGcp : provider ≠ .gcp) (credential : Credential provider) :
    remains provider credential ≠ none := by
  cases provider with
  | gcp => exact absurd rfl notGcp
  | aws | azure | alibaba =>
      intro lost
      cases lost

end Credential

/-! ## Configurations -/

namespace Integration

variable {kind : Kind}

namespace Transfer

theorem credential_sanitize (kind : Kind) (transfer : Transfer kind) :
    Record.credential kind (sanitize kind transfer).value =
      (Record.credential kind transfer).map fun envelope =>
        (Envelope.sanitize kind.provider envelope).value := by
  cases present : Record.credential kind transfer with
  | none =>
      rw [sanitize_of_absent present]
      exact present
  | some envelope =>
      rw [sanitize_of_present present]
      exact Record.credential_withCredential _ kind transfer

theorem withCredential_sanitize {γ : Type} (credential : Option γ) (kind : Kind)
    (transfer : Transfer kind) :
    Record.withCredential credential kind (sanitize kind transfer).value =
      Record.withCredential credential kind transfer := by
  cases present : Record.credential kind transfer with
  | none => rw [sanitize_of_absent present, Logged.value_pure]
  | some envelope =>
      rw [sanitize_of_present present]
      exact Record.withCredential_withCredential _ credential kind transfer

end Transfer

namespace Config

variable {config : Config kind} {value : Value}

/-- A value that a configuration is printed as, with its fields in any order. -/
def PrintedAs (kind : Kind) (config : Config kind) (value : Value) : Prop :=
  Transfer.WrittenAs kind (Transfer.sanitize kind (toTransfer kind config)).value value

theorem printedAs_toSanitizedValue (kind : Kind) (config : Config kind) :
    PrintedAs kind config (toSanitizedValue kind config).value :=
  Transfer.writtenAs_toValue kind _

/-- The configuration with what is left of its credential. -/
def remains (kind : Kind) (config : Config kind) : Config kind :=
  Record.withCredential
    ((Record.credential kind config).bind (Credential.remains kind.provider)) kind config

theorem decode_of_printedAs (shallow : config.Shallow kind) (printed : PrintedAs kind config value) :
    decode kind value = ⟨.ok (remains kind config),
      (Record.credential kind config).elim [] (Credential.losses kind.provider)⟩ := by
  -- The value holds the redacted envelope; all else is read as it was written.
  have read := decode_of_writtenAs printed
  rw [Transfer.credential_sanitize, credential_toTransfer] at read
  simp only [Transfer.withCredential_sanitize, withCredential_toTransfer] at read
  rw [read, remains]
  cases present : Record.credential kind config with
  | none => rfl
  | some credential =>
      have decoded := Credential.decode_sanitize (shallow credential present)
      simp only [Option.map_some, Option.elim_some, Option.bind_some, decoded, Attempt.map_ok]
      rfl

/-- Where the credential is not lost, the configuration differs in its secrets only. -/
theorem agree_remains
    (kept : ∀ credential, Record.credential kind config = some credential →
      Credential.remains kind.provider credential ≠ none) :
    AgreeUpToSecrets kind config (remains kind config) := by
  constructor
  · exact (Record.withCredential_withCredential _ _ kind config).symm
  · rw [remains, Record.credential_withCredential]
    cases present : Record.credential kind config with
    | none => exact .none
    | some credential =>
        obtain ⟨left, remaining⟩ := Option.ne_none_iff_exists'.mp (kept credential present)
        rw [Option.bind_some, remaining]
        exact .some (Credential.leavesBehind_of_remains remaining).agree

theorem agree_remains_of_ne (notBigQuery : kind ≠ .bigQuery) (config : Config kind) :
    AgreeUpToSecrets kind config (remains kind config) := by
  apply agree_remains
  intro credential _
  apply Credential.remains_ne_none
  cases kind with
  | bigQuery => exact absurd rfl notBigQuery
  | s3 | athena | azureStorage | alibaba => decide

theorem AgreeUpToSecrets.printedAs {left right : Config kind}
    (agree : AgreeUpToSecrets kind left right) (printed : PrintedAs kind left value) :
    PrintedAs kind right value := by
  rwa [PrintedAs, ← agree.sanitize_eq]

end Config

/-- A printed configuration is read back as it was, but for its secrets.  All of them are replaced,
which makes no difference to its problems nor to how it is printed; only a key file is lost, with an
error, if there is something in it. -/
theorem printed_reads_back (kind : Kind) (config : Config kind)
    (shallow : Config.Shallow kind config) :
    Config.PrintedAs kind config (Config.toSanitizedValue kind config).value ∧
    ∀ value, Config.PrintedAs kind config value → ∃ again,
      (Config.decode kind value).outcome = .ok again ∧
      (Record.withCredential none kind again : Transfer kind) =
        Record.withCredential none kind config ∧
      Record.key kind again = Record.key kind config ∧
      Record.credential kind again =
        (Record.credential kind config).bind (Credential.remains kind.provider) ∧
      (Config.decode kind value).notes =
        (Record.credential kind config).elim [] (Credential.losses kind.provider) ∧
      (kind ≠ .bigQuery →
        Config.validate kind again = Config.validate kind config ∧
        Config.PrintedAs kind again value ∧
        Config.toSanitizedValue kind again = Config.toSanitizedValue kind config) := by
  refine ⟨Config.printedAs_toSanitizedValue kind config, ?_⟩
  intro value printed
  have read := Config.decode_of_printedAs shallow printed
  rw [read]
  refine ⟨Config.remains kind config, rfl, ?_, ?_, ?_, rfl, ?_⟩
  · exact Record.withCredential_withCredential _ _ kind config
  · exact Record.key_withCredential _ kind config
  · exact Record.credential_withCredential _ kind config
  · intro notBigQuery
    have agree := Config.agree_remains_of_ne notBigQuery config
    exact ⟨agree.validate_eq.symm, agree.printedAs printed, agree.toSanitizedValue_eq.symm⟩

/-- A role over an access key is read back with its secret replaced, and a key file is lost. -/
theorem printed_reads_back_role_and_key_file :
    let bucket : Config .s3 := ⟨"bills", "eu-west-1", "123",
      some (.assumeRole (some (.accessKey ⟨"AKIA", "secret"⟩)) "arn")⟩
    let table : Config .bigQuery :=
      ⟨"project", "dataset", "table", some (.key (.ofEntries [("private_key", "secret")]))⟩
    (Config.Shallow .s3 bucket ∧ ∃ again,
      (Config.decode .s3 (Config.toSanitizedValue .s3 bucket).value).outcome = .ok again ∧
        Record.credential .s3 again =
          some (.assumeRole (some (.accessKey ⟨"AKIA", "REDACTED"⟩)) "arn") ∧
        Config.validate .s3 again = .ok ()) ∧
    (Config.Shallow .bigQuery table ∧ ∃ again,
      (Config.decode .bigQuery (Config.toSanitizedValue .bigQuery table).value).outcome =
          .ok again ∧ Record.credential .bigQuery again = none ∧
        (Config.decode .bigQuery (Config.toSanitizedValue .bigQuery table).value).notes =
          [Gcp.lostKey]) := by
  intro bucket table
  have bucketShallow : Config.Shallow .s3 bucket := by
    intro credential present
    cases present
    decide
  have tableShallow : Config.Shallow .bigQuery table := by
    intro credential present
    exact Nat.zero_le maxDepth
  have buckets := printed_reads_back .s3 bucket bucketShallow
  have tables := printed_reads_back .bigQuery table tableShallow
  obtain ⟨again, read, _, _, left, _, unchanged⟩ := buckets.2 _ buckets.1
  obtain ⟨bare, bareRead, _, _, lost, errors, _⟩ := tables.2 _ tables.1
  have valid : Config.validate .s3 bucket = .ok () := rfl
  have validAgain := (unchanged (by decide)).1.trans valid
  refine ⟨⟨bucketShallow, again, read, left.trans ?_, validAgain⟩,
    tableShallow, bare, bareRead, lost.trans ?_, errors.trans ?_⟩
  · rfl
  · rfl
  · rfl

end Integration

end CloudBilling
