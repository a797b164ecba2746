import CloudBilling.Proofs.Record
import CloudBilling.Proofs.Transit

/-!
# Two routes to a configuration

A document is read as a configuration directly, or as a configuration in transit whose envelope is
opened afterwards.  Where the credential stands in an envelope the two routes come to the same, with
one exception: the limit on nesting fails the direct route, and on the other one it is only logged and
leaves the configuration without a credential.
-/

namespace CloudBilling.Integration

open Json (Value present?)

variable {provider : Provider} {kind : Kind} {entries : Dict Value}

/-! ## Credentials -/

/-- The credential of a map is absent, null, or a map that is read by its tag. -/
def TaggedIfPresent (provider : Provider) (entries : Dict Value) : Prop :=
  ∀ value, present? entries "configurer" = some value →
    ∃ nested, value = .object nested ∧ Envelope.isReadByTag provider nested = true

theorem taggedIfPresent_of_found {nested : Dict Value}
    (found : entries.get? "configurer" = some (.object nested))
    (tagged : Envelope.isReadByTag provider nested = true) : TaggedIfPresent provider entries := by
  intro value present
  obtain ⟨same, _⟩ := Json.present?_eq_some_iff.mp present
  rw [found] at same
  cases same
  exact ⟨nested, rfl, tagged⟩

/-- The credential that an envelope is resolved to, if there is an envelope. -/
def resolveIfPresent (provider : Provider) (envelope : Option Envelope) :
    Decoder (Option (Credential provider)) :=
  envelope.elim (pure none) fun envelope =>
    envelope.resolve provider (Credential.decodeTagged provider 0)

/-- The credential that an envelope is opened to, if there is an envelope. -/
def openIfPresent (provider : Provider) (envelope : Option Envelope) :
    Logged Event (Option (Credential provider)) :=
  envelope.elim (pure none) (Credential.ofEnvelope provider)

/-- Opening comes to what resolving comes to, and to nothing where that fails for the limit. -/
theorem value_openIfPresent (provider : Provider) (envelope : Option Envelope) :
    match (resolveIfPresent provider envelope).outcome with
    | .ok found => (openIfPresent provider envelope).value = found
    | .error failure => failure.cause.isNestingTooDeep = true ∧
        (openIfPresent provider envelope).value = none := by
  cases envelope with
  | none => rfl
  | some envelope =>
      simp only [resolveIfPresent, openIfPresent, Option.elim_some, Credential.ofEnvelope,
        Envelope.open?]
      cases resolved : (envelope.resolve provider (Credential.decodeTagged provider 0)).outcome with
      | ok found => rfl
      | error failure =>
          obtain ⟨_, _, tooDeep⟩ := Envelope.outcome_resolve_eq_error_iff.mp resolved
          exact ⟨tooDeep, rfl⟩

/-- How a credential in an envelope is read: on both routes reading the envelope fails, or on both it
is read, and resolved on one of them. -/
inductive CredentialRoutes (provider : Provider) (entries : Dict Value) : Prop
  | fails (failure : Failure) (withinLimit : failure.cause.isNestingTooDeep = false)
      (direct : readCredential provider entries = .fail failure)
      (transit : readEnvelope provider entries = .fail failure)
  | reads (envelope : Option Envelope)
      (direct : readCredential provider entries = resolveIfPresent provider envelope)
      (transit : readEnvelope provider entries = pure envelope)

theorem credentialRoutes (tagged : TaggedIfPresent provider entries) :
    CredentialRoutes provider entries := by
  cases present : present? entries "configurer" with
  | none =>
      apply CredentialRoutes.reads none
      · simp [readCredential, present, resolveIfPresent]
      · simp [readEnvelope, present]
  | some value =>
      obtain ⟨nested, rfl, byTag⟩ := tagged value present
      have direct : readCredential provider entries = (do
          let envelope ← Envelope.ofMap provider nested
          envelope.resolve provider (Credential.decodeTagged provider 0)) := by
        rw [← Credential.decodeAt_of_isReadByTag provider (by decide) byTag]
        simp [readCredential, present, Credential.decode]
      have transit : readEnvelope provider entries = (do
          return some (← Envelope.ofMap provider nested)) := by
        simp only [readEnvelope, Json.optionalField_any, present, Attempt.liftM_ok, pure_bind]
        rfl
      cases read : Envelope.ofMap provider nested with
      | error failure =>
          rw [read] at direct transit
          exact .fails failure (Envelope.withinLimit_ofMap provider nested failure read) direct
            transit
      | ok envelope =>
          rw [read] at direct transit
          exact .reads (some envelope) direct transit

/-! ## Configurations -/

/-- The configuration that a configuration in transit is turned into. -/
theorem value_toConfig (kind : Kind) (transfer : Transfer kind) :
    (Transfer.toConfig kind transfer).value =
      Record.withCredential (openIfPresent kind.provider (Record.credential kind transfer)).value
        kind transfer := by
  rw [Transfer.toConfig_eq]
  rfl

/-- How a document is read on both routes. -/
inductive ConfigRoutes (kind : Kind) (entries : Dict Value) : Prop
  | agree (config : Config kind) (transfer : Transfer kind)
      (direct : (Config.decode kind (.object entries)).outcome = .ok config)
      (transit : (Transfer.decode kind (.object entries)).outcome = .ok transfer)
      (turned : (Transfer.toConfig kind transfer).value = config)
  | fail (failure : Failure) (withinLimit : failure.cause.isNestingTooDeep = false)
      (direct : (Config.decode kind (.object entries)).outcome =
        .error (failure.within kind.typeName))
      (transit : (Transfer.decode kind (.object entries)).outcome =
        .error (failure.within kind.transferName))
  | limit (failure : Failure) (transfer : Transfer kind)
      (tooDeep : failure.cause.isNestingTooDeep = true)
      (direct : (Config.decode kind (.object entries)).outcome = .error failure)
      (transit : (Transfer.decode kind (.object entries)).outcome = .ok transfer)
      (bare : Record.credential kind (Transfer.toConfig kind transfer).value = none)

/-- A document whose fields are read is read on both routes as its envelope is. -/
theorem ConfigRoutes.of_resolve {fields : Record kind Empty} {envelope : Option Envelope}
    (direct : Config.decode kind (.object entries) = Attempt.within kind.typeName do
      let found ← resolveIfPresent kind.provider envelope
      return Record.withCredential found kind fields)
    (transit : Transfer.decode kind (.object entries) =
      pure (Record.withCredential envelope kind fields)) :
    ConfigRoutes kind entries := by
  have outcome := congrArg Attempt.outcome direct
  rw [Attempt.outcome_within, Attempt.outcome_bind] at outcome
  have opened := value_openIfPresent kind.provider envelope
  cases resolved : (resolveIfPresent kind.provider envelope).outcome with
  | ok found =>
      rw [resolved] at outcome opened
      refine .agree _ _ outcome (congrArg Attempt.outcome transit) ?_
      rw [value_toConfig, Record.credential_withCredential, opened,
        Record.withCredential_withCredential]
  | error failure =>
      rw [resolved] at outcome opened
      obtain ⟨limit, absent⟩ := opened
      refine .limit (failure.within _) _ limit outcome (congrArg Attempt.outcome transit) ?_
      rw [value_toConfig, Record.credential_withCredential, Record.credential_withCredential,
        absent]

theorem configRoutes (tagged : TaggedIfPresent kind.provider entries) :
    ConfigRoutes kind entries := by
  have direct : Config.decode kind (.object entries) = Attempt.within kind.typeName
      (Record.ofMap (readCredential kind.provider) kind entries) := rfl
  have transit : Transfer.decode kind (.object entries) = Attempt.within kind.transferName
      (Record.ofMap (readEnvelope kind.provider) kind entries) := rfl
  rw [Record.ofMap_eq] at direct transit
  cases read : Record.fieldsOf kind entries with
  | error failure =>
      rw [read] at direct transit
      exact .fail failure (Record.withinLimit_fieldsOf kind entries failure read)
        (congrArg Attempt.outcome direct) (congrArg Attempt.outcome transit)
  | ok fields =>
      rw [read] at direct transit
      cases credentialRoutes tagged with
      | fails failure withinLimit directFails transitFails =>
          rw [directFails] at direct
          rw [transitFails] at transit
          exact .fail failure withinLimit (congrArg Attempt.outcome direct)
            (congrArg Attempt.outcome transit)
      | reads envelope directReads transitReads =>
          rw [directReads] at direct
          rw [transitReads] at transit
          exact .of_resolve direct transit

/-- The two routes agree on a map whose credential is absent, null or in an envelope.  A configuration
that is read directly is the one that the configuration in transit is turned into.  A failure is the
same on both routes but for the name of the outermost type, unless it is that of the limit on nesting:
then the configuration in transit is read, and turned into one without a credential. -/
theorem routes_agree (kind : Kind) (tagged : TaggedIfPresent kind.provider entries) :
    (∀ config, (Config.decode kind (.object entries)).outcome = .ok config →
      ∃ transfer, (Transfer.decode kind (.object entries)).outcome = .ok transfer ∧
        (Transfer.toConfig kind transfer).value = config) ∧
    (∀ failure, (Config.decode kind (.object entries)).outcome = .error failure →
      failure.cause.isNestingTooDeep = false →
        ∃ contexts, failure.contexts = kind.typeName :: contexts ∧
          (Transfer.decode kind (.object entries)).outcome =
            .error ⟨kind.transferName :: contexts, failure.cause⟩) ∧
    ∀ failure, (Config.decode kind (.object entries)).outcome = .error failure →
      failure.cause.isNestingTooDeep = true →
        ∃ transfer, (Transfer.decode kind (.object entries)).outcome = .ok transfer ∧
          Record.credential kind (Transfer.toConfig kind transfer).value = none := by
  cases configRoutes tagged with
  | agree config transfer direct transit turned =>
      rw [direct, transit]
      refine ⟨?_, by simp, by simp⟩
      intro decoded same
      cases same
      exact ⟨transfer, rfl, turned⟩
  | fail reported withinLimit direct transit =>
      rw [direct, transit]
      refine ⟨by simp, ?_, ?_⟩
      · intro failure same _
        cases same
        exact ⟨reported.contexts, rfl, rfl⟩
      · intro failure same tooDeep
        cases same
        rw [Failure.cause_within, withinLimit] at tooDeep
        cases tooDeep
  | limit reported transfer tooDeep direct transit bare =>
      rw [direct, transit]
      refine ⟨by simp, ?_, fun _ _ _ => ⟨transfer, rfl, bare⟩⟩
      intro failure same withinLimit
      cases same
      rw [tooDeep] at withinLimit
      cases withinLimit

/-- A role in an envelope over an access key is the same on both routes.  An envelope whose tag is not
a text fails both.  Nine roles over the service account are too many for the first route only. -/
theorem routes_agree_tagged_roles :
    let bucket (credential : Value) : Dict Value :=
      [("account", .string "1"), ("bucket", .string "bills"), ("configurer", credential),
       ("region", .string "eu")]
    let role (base : Value) : Value := .object [("type", .string Aws.assumeRoleTag),
      ("values", .object [("configurer", base), ("roleARN", .string "arn")])]
    let sound := bucket (role (.object [("id", .string "AKIA"), ("secret", .string "secret")]))
    let broken := bucket (.object [("type", .bool true)])
    let deep := bucket (Nat.repeat role 9 (.object []))
    let config : Config .s3 :=
      ⟨"bills", "eu", "1", some (.assumeRole (some (.accessKey ⟨"AKIA", "secret"⟩)) "arn")⟩
    let mismatch : Cause := .typeMismatch "type" "string" "bool"
    let tooDeep : Failure := ⟨"S3Configuration" ::
      List.replicate 9 Aws.assumeRoleName ++ [Provider.typeName .aws], .nestingTooDeep maxDepth⟩
    (TaggedIfPresent .aws sound ∧
      (Config.decode .s3 (.object sound)).outcome = .ok config ∧
      ∃ transfer, (Transfer.decode .s3 (.object sound)).outcome = .ok transfer ∧
        (Transfer.toConfig .s3 transfer).value = config) ∧
    (TaggedIfPresent .aws broken ∧
      (Config.decode .s3 (.object broken)).outcome =
        .error ⟨["S3Configuration", "AWSConfigurerDTO"], mismatch⟩ ∧
      ∃ contexts, ["S3Configuration", "AWSConfigurerDTO"] = "S3Configuration" :: contexts ∧
        (Transfer.decode .s3 (.object broken)).outcome =
          .error ⟨"S3ConfigurationDTO" :: contexts, mismatch⟩) ∧
    TaggedIfPresent .aws deep ∧
      (Config.decode .s3 (.object deep)).outcome = .error tooDeep ∧
      ∃ transfer, (Transfer.decode .s3 (.object deep)).outcome = .ok transfer ∧
        Record.credential .s3 (Transfer.toConfig .s3 transfer).value = none := by
  intro bucket role sound broken deep config mismatch tooDeep
  have soundTagged : TaggedIfPresent .aws sound := taggedIfPresent_of_found rfl rfl
  have brokenTagged : TaggedIfPresent .aws broken := taggedIfPresent_of_found rfl rfl
  have deepTagged : TaggedIfPresent .aws deep := taggedIfPresent_of_found rfl rfl
  have decoded : (Config.decode .s3 (.object sound)).outcome = .ok config := rfl
  have failed : (Config.decode .s3 (.object broken)).outcome =
      .error ⟨["S3Configuration", "AWSConfigurerDTO"], mismatch⟩ := rfl
  have limited : (Config.decode .s3 (.object deep)).outcome = .error tooDeep := rfl
  exact ⟨⟨soundTagged, decoded, (routes_agree .s3 soundTagged).1 config decoded⟩,
    ⟨brokenTagged, failed, (routes_agree .s3 brokenTagged).2.1 _ failed rfl⟩,
    deepTagged, limited, (routes_agree .s3 deepTagged).2.2 tooDeep limited rfl⟩

end CloudBilling.Integration
