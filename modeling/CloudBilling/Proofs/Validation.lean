import CloudBilling.Proofs.Acceptance

/-!
# What validation reports

Validation goes from the inside outwards.  Of a credential under roles the innermost credential is
looked at first, and then each role around it, so what is reported is about the innermost level at
which something is wrong; the levels around it add nothing to the report.  Of a configuration the
credential is looked at before the texts, and of those some need not be there at all.
-/

namespace CloudBilling

open Json (Value)

/-! ## Roles -/

/-- Of two checks the second one counts only if the first one succeeds. -/
theorem Outcome.bind_eq_error_iff {check : Outcome Unit} {next : Unit → Outcome Unit}
    {failure : Failure} :
    check >>= next = .error failure ↔
      check = .error failure ∨ check = .ok () ∧ next () = .error failure := by
  cases check <;> simp [bind, Except.bind]

theorem Outcome.bind_eq_ok_iff {check : Outcome Unit} {next : Unit → Outcome Unit} :
    check >>= next = .ok () ↔ check = .ok () ∧ next () = .ok () := by
  cases check <;> simp [bind, Except.bind]

theorem Outcome.within_eq_ok_iff {context : String} {check : Outcome Unit} :
    check.within context = .ok () ↔ check = .ok () := by
  cases check <;> simp

theorem Outcome.within_eq_error_iff {context : String} {check : Outcome Unit} {failure : Failure} :
    check.within context = .error failure ↔
      ∃ inner, check = .error inner ∧ failure = inner.within context := by
  cases check <;> simp [eq_comm]

/-- A required field is reported if it is empty, inside the name of its type. -/
theorem requireField_eq_error_iff {typeName field value : String} {failure : Failure} :
    requireField typeName field value = .error failure ↔
      value = "" ∧ failure = .missingField typeName field := by
  rw [requireField]
  split <;> simp [*, eq_comm]

theorem requireField_eq_ok_iff {typeName field value : String} :
    requireField typeName field value = .ok () ↔ value ≠ "" := by
  rw [requireField]
  split <;> simp [*]

theorem Aws.AccessKey.validate_eq_ok_iff {key : Aws.AccessKey} :
    key.validate = .ok () ↔ key.id ≠ "" ∧ key.secret ≠ "" := by
  rw [validate, Outcome.bind_eq_ok_iff, requireField_eq_ok_iff, requireField_eq_ok_iff]

theorem Azure.AccessKey.validate_eq_ok_iff {key : Azure.AccessKey} :
    key.validate = .ok () ↔ key.accessKey ≠ "" ∧ key.account ≠ "" := by
  rw [validate, Outcome.bind_eq_ok_iff, requireField_eq_ok_iff, requireField_eq_ok_iff]

theorem Gcp.Key.validate_eq_ok_iff {key : Gcp.Key} :
    key.validate = .ok () ↔ key.entries ≠ [] := by
  rw [validate]
  split <;> simp_all

theorem Alibaba.AccessKey.validate_eq_ok_iff {key : Alibaba.AccessKey} :
    key.validate = .ok () ↔ key.id ≠ "" ∧ key.secret ≠ "" := by
  rw [validate, Outcome.bind_eq_ok_iff, requireField_eq_ok_iff, requireField_eq_ok_iff]

namespace Aws.Credential

variable {credential : Credential} {failure : Failure}

/-- The names of the roles in a credential, the outermost first. -/
def roleArns : Credential → List String
  | .assumeRole none roleArn => [roleArn]
  | .assumeRole (some inner) roleArn => roleArn :: inner.roleArns
  | _ => []

/-- The credential below all roles, which may be absent if there is a role. -/
def innermost : Credential → Option Credential
  | .assumeRole none _ => none
  | .assumeRole (some inner) _ => inner.innermost
  | credential => some credential

/-- A role has nothing below it. -/
def noBase : Failure :=
  .missingField assumeRoleName "base configurer"

/-- A role has no name. -/
def noName : Failure :=
  .missingField assumeRoleName "roleARN"

/-- What a credential that is wanted below a role is reported for. -/
def validateBase (base : Option Credential) : Outcome Unit :=
  base.elim (.error noBase) validate

/-- The names of roles count only if there is nothing wrong below all of them. -/
theorem validate_eq : (credential : Credential) →
    credential.validate = validateBase credential.innermost >>= fun _ =>
      if "" ∈ credential.roleArns then .error noName else .ok ()
  | .accessKey key => by
      change key.validate = key.validate >>= fun _ => .ok ()
      cases key.validate <;> rfl
  | .serviceAccount => rfl
  | .assumeRole none _ => rfl
  | .assumeRole (some inner) roleArn => by
      have below := validate_eq inner
      rw [validate, below, innermost, roleArns]
      cases validateBase inner.innermost with
      | error failure => rfl
      | ok =>
          by_cases unnamed : "" ∈ inner.roleArns
          · simp [unnamed, bind, Except.bind]
          · simp [unnamed, bind, Except.bind, requireField, noName, eq_comm]

theorem validate_eq_ok_iff :
    credential.validate = .ok () ↔ ∃ base, credential.innermost = some base ∧
      base.validate = .ok () ∧ "" ∉ credential.roleArns := by
  rw [validate_eq, Outcome.bind_eq_ok_iff]
  cases credential.innermost with
  | none => simp [validateBase]
  | some base => by_cases unnamed : "" ∈ credential.roleArns <;> simp [validateBase, unnamed]

/-- Of the roles without a name one is the innermost. -/
theorem unnamed_iff {roleArns : List String} :
    "" ∈ roleArns ↔ ∃ outer inner, roleArns = outer ++ "" :: inner ∧ "" ∉ inner := by
  constructor
  · intro unnamed
    induction roleArns with
    | nil => cases unnamed
    | cons roleArn roleArns ih =>
        by_cases below : "" ∈ roleArns
        · obtain ⟨outer, inner, rfl, named⟩ := ih below
          exact ⟨roleArn :: outer, inner, rfl, named⟩
        · rcases List.mem_cons.mp unnamed with rfl | there
          · exact ⟨[], roleArns, rfl, below⟩
          · exact absurd there below
  · rintro ⟨outer, inner, rfl, _⟩
    simp

theorem validate_eq_error_iff :
    credential.validate = .error failure ↔
      credential.innermost = none ∧ failure = noBase ∨
      ∃ base, credential.innermost = some base ∧
        (base.validate = .error failure ∨
          base.validate = .ok () ∧ failure = noName ∧
            ∃ outer inner, credential.roleArns = outer ++ "" :: inner ∧ "" ∉ inner) := by
  rw [validate_eq, Outcome.bind_eq_error_iff, ← unnamed_iff]
  cases credential.innermost with
  | none => simp [validateBase, eq_comm]
  | some base =>
      by_cases unnamed : "" ∈ credential.roleArns <;> simp [validateBase, unnamed, eq_comm]

/-- However many roles there are, what is reported has one context. -/
theorem length_contexts_of_validate : (credential : Credential) →
    credential.validate = .error failure → failure.contexts.length = 1
  | .accessKey key, failed => by
      rw [validate, AccessKey.validate, Outcome.bind_eq_error_iff] at failed
      rcases failed with noId | ⟨_, noSecret⟩
      · rw [(requireField_eq_error_iff.mp noId).2]
        rfl
      · rw [(requireField_eq_error_iff.mp noSecret).2]
        rfl
  | .assumeRole none _, failed => by
      cases failed
      rfl
  | .assumeRole (some inner) roleArn, failed => by
      rw [validate, Outcome.bind_eq_error_iff] at failed
      rcases failed with below | ⟨_, unnamed⟩
      · exact length_contexts_of_validate inner below
      · rw [(requireField_eq_error_iff.mp unnamed).2]
        rfl

end Aws.Credential

/-! ## Configurations -/

namespace Integration

variable {kind : Kind} {failure : Failure}

/-- The texts of a kind that must not be empty, by their names in documents and in messages, in the
order in which they are looked at. -/
def Kind.checks : Kind → List (String × String)
  | .s3 => [("bucket", "bucket"), ("region", "region"), ("account", "account")]
  | .athena =>
      [("bucket", "bucket"), ("region", "region"), ("database", "database"), ("table", "table"),
        ("account", "account")]
  | .bigQuery => [("projectID", "ProjectID"), ("dataset", "Dataset"), ("table", "Table")]
  | .azureStorage =>
      [("subscriptionID", "Subscription ID"), ("account", "Account"), ("container", "Container")]
  | .alibaba => [("region", "region"), ("account", "account")]

/-- The text of a record that is written under a name in documents. -/
def Record.textOf {γ : Type} (kind : Kind) (record : Record kind γ) (name : String) : String :=
  textAt (Record.toEntries .null kind record) name

theorem Record.required_eq {γ : Type} (kind : Kind) (record : Record kind γ) :
    Record.required kind record =
      kind.checks.map fun check => (check.2, Record.textOf kind record check.1) := by
  cases kind <;> rfl

namespace Config

variable {config : Config kind}

/-- The first text of a configuration that must not be empty and is. -/
def firstEmpty? (kind : Kind) (config : Config kind) : Option (String × String) :=
  kind.checks.find? fun check => Record.textOf kind config check.1 = ""

theorem checkRequired_eq (typeName : String) (fields : List (String × String)) :
    checkRequired typeName fields =
      match fields.find? fun field => field.2 = "" with
      | some field => .error (.missingField typeName field.1)
      | none => .ok () := by
  induction fields with
  | nil => rfl
  | cons field fields ih =>
      obtain ⟨name, content⟩ := field
      rw [checkRequired, requireField, List.find?_cons]
      by_cases empty : content = ""
      · simp [empty, bind, Except.bind]
      · simp [empty, ih, bind, Except.bind]

theorem checkRequired_required (kind : Kind) (config : Config kind) :
    checkRequired kind.typeName (Record.required kind config) =
      match firstEmpty? kind config with
      | some check => .error (.missingField kind.typeName check.2)
      | none => .ok () := by
  rw [checkRequired_eq, Record.required_eq, List.find?_map, firstEmpty?]
  simp only [Function.comp_def]
  cases kind.checks.find? fun check => Record.textOf kind config check.1 = "" <;> rfl

theorem firstEmpty?_eq_none_iff :
    firstEmpty? kind config = none ↔
      ∀ check ∈ kind.checks, Record.textOf kind config check.1 ≠ "" := by
  simp [firstEmpty?]

/-- What a configuration is reported for if it must have a credential. -/
def validateCredential (kind : Kind) (config : Config kind) : Outcome Unit :=
  match Record.credential kind config with
  | none => .error (.missingField kind.typeName "configurer")
  | some credential => (Credential.validate kind.provider credential).within kind.typeName

theorem validate_eq (kind : Kind) (config : Config kind) :
    validate kind config = validateCredential kind config >>= fun _ =>
      match firstEmpty? kind config with
      | some check => .error (.missingField kind.typeName check.2)
      | none => .ok () := by
  rw [← checkRequired_required, validateCredential, validate]
  cases Record.credential kind config <;> rfl

theorem validate_eq_ok_iff :
    validate kind config = .ok () ↔
      ∃ credential, Record.credential kind config = some credential ∧
        Credential.validate kind.provider credential = .ok () ∧
        ∀ check ∈ kind.checks, Record.textOf kind config check.1 ≠ "" := by
  rw [validate_eq, Outcome.bind_eq_ok_iff, ← firstEmpty?_eq_none_iff, validateCredential]
  cases Record.credential kind config with
  | none => simp
  | some credential => cases firstEmpty? kind config <;> simp [Outcome.within_eq_ok_iff]

theorem validate_eq_error_iff :
    validate kind config = .error failure ↔
      Record.credential kind config = none ∧ failure = .missingField kind.typeName "configurer" ∨
      ∃ credential, Record.credential kind config = some credential ∧
        ((∃ inner, Credential.validate kind.provider credential = .error inner ∧
            failure = inner.within kind.typeName) ∨
          Credential.validate kind.provider credential = .ok () ∧
            ∃ check, firstEmpty? kind config = some check ∧
              failure = .missingField kind.typeName check.2) := by
  rw [validate_eq, Outcome.bind_eq_error_iff, validateCredential]
  cases Record.credential kind config with
  | none => simp [eq_comm]
  | some credential =>
      cases firstEmpty? kind config <;>
        simp [Outcome.within_eq_ok_iff, Outcome.within_eq_error_iff, @eq_comm _ failure]

/-- A configuration with a credential is fine if that is, and if no text is empty that must not be. -/
theorem validate_eq_ok_iff_of_credential {credential : Credential kind.provider}
    (held : Record.credential kind config = some credential) :
    validate kind config = .ok () ↔ Credential.validate kind.provider credential = .ok () ∧
      ∀ field ∈ Record.required kind config, field.2 ≠ "" := by
  rw [validate_eq_ok_iff, Record.required_eq, List.forall_mem_map]
  simp [held]

/-- What is reported depends on the credential only by what is reported about that. -/
theorem validate_congr {other : Config kind} {credential otherCredential : Credential kind.provider}
    (held : Record.credential kind config = some credential)
    (otherHeld : Record.credential kind other = some otherCredential)
    (sameReport : Credential.validate kind.provider credential =
      Credential.validate kind.provider otherCredential)
    (sameRequired : Record.required kind config = Record.required kind other) :
    validate kind config = validate kind other := by
  simp only [validate, held, otherHeld, sameReport, sameRequired]

/-- The texts that no configuration must have. -/
def unneeded : List String :=
  ["workgroup", "path", "cloud"]

theorem not_mem_unneeded_of_mem_checks {check : String × String} (member : check ∈ kind.checks) :
    check.1 ∉ unneeded := by
  revert member
  cases kind <;> revert check <;> decide

/-- Nothing is said about the texts that need not be there. -/
theorem validate_of_agree {other : Config kind}
    (sameCredential : Record.credential kind other = Record.credential kind config)
    (sameTexts : ∀ name ∉ unneeded,
      Record.textOf kind other name = Record.textOf kind config name) :
    validate kind other = validate kind config := by
  have sameRequired : Record.required kind other = Record.required kind config := by
    rw [Record.required_eq, Record.required_eq]
    refine List.map_congr_left ?_
    intro check member
    rw [sameTexts check.1 (not_mem_unneeded_of_mem_checks member)]
  simp only [validate, sameCredential, sameRequired]

/-- A credential under roles is fine if it is there and fine itself and every role has a name; what
is reported otherwise is about the innermost level, in one context.  A configuration is fine if its
credential is there and fine and no text is empty that must not be; what is reported otherwise is the
lack of a credential, or what the credential is reported for, or the first of those texts. -/
theorem validate_reports_innermost_first :
    (∀ credential : Aws.Credential,
      (credential.validate = .ok () ↔ ∃ base, credential.innermost = some base ∧
        base.validate = .ok () ∧ "" ∉ credential.roleArns) ∧
      ∀ failure,
        (credential.validate = .error failure ↔
          credential.innermost = none ∧ failure = Aws.Credential.noBase ∨
          ∃ base, credential.innermost = some base ∧
            (base.validate = .error failure ∨
              base.validate = .ok () ∧ failure = Aws.Credential.noName ∧
                ∃ outer inner, credential.roleArns = outer ++ "" :: inner ∧ "" ∉ inner)) ∧
        (credential.validate = .error failure → failure.contexts.length = 1)) ∧
    ∀ (kind : Kind) (config : Config kind),
      (validate kind config = .ok () ↔
        ∃ credential, Record.credential kind config = some credential ∧
          Credential.validate kind.provider credential = .ok () ∧
          ∀ check ∈ kind.checks, Record.textOf kind config check.1 ≠ "") ∧
      (∀ failure, validate kind config = .error failure ↔
        Record.credential kind config = none ∧
          failure = .missingField kind.typeName "configurer" ∨
        ∃ credential, Record.credential kind config = some credential ∧
          ((∃ inner, Credential.validate kind.provider credential = .error inner ∧
              failure = inner.within kind.typeName) ∨
            Credential.validate kind.provider credential = .ok () ∧
              ∃ check, firstEmpty? kind config = some check ∧
                failure = .missingField kind.typeName check.2)) ∧
      ∀ other : Config kind, Record.credential kind other = Record.credential kind config →
        (∀ name ∉ unneeded, Record.textOf kind other name = Record.textOf kind config name) →
        validate kind other = validate kind config := by
  constructor
  · intro credential
    exact ⟨Aws.Credential.validate_eq_ok_iff, fun failure =>
      ⟨Aws.Credential.validate_eq_error_iff, credential.length_contexts_of_validate⟩⟩
  · intro kind config
    exact ⟨validate_eq_ok_iff, fun failure => validate_eq_error_iff,
      fun other sameCredential sameTexts => validate_of_agree sameCredential sameTexts⟩

/-- Of two roles the inner one has no name; a query service is asked without a workgroup. -/
theorem validate_reports_innermost_first_unnamed_role :
    let role : Aws.Credential :=
      .assumeRole (some (.assumeRole (some (.accessKey ⟨"id", "secret"⟩)) "")) "outer"
    let config : Config .athena := ⟨"b", "r", "d", "t", "w", "123", some role⟩
    let changed : Config .athena := ⟨"b", "r", "d", "t", "", "123", some role⟩
    (role.validate = .error Aws.Credential.noName ∧
      Aws.Credential.noName.contexts.length = 1) ∧
    validate .athena config = .error (Aws.Credential.noName.within "AthenaConfiguration") ∧
    (∀ name ∉ unneeded,
      Record.textOf .athena changed name = Record.textOf .athena config name) ∧
      validate .athena changed = validate .athena config := by
  intro role config changed
  obtain ⟨roles, configs⟩ := validate_reports_innermost_first
  have unnamed : role.validate = .error Aws.Credential.noName := by
    apply ((roles role).2 _).1.mpr
    exact .inr ⟨.accessKey ⟨"id", "secret"⟩, rfl,
      .inr ⟨rfl, rfl, ["outer"], [], rfl, by decide⟩⟩
  have reported : validate .athena config =
      .error (Aws.Credential.noName.within "AthenaConfiguration") := by
    apply ((configs .athena config).2.1 _).mpr
    exact .inr ⟨role, rfl, .inl ⟨_, unnamed, rfl⟩⟩
  have sameTexts : ∀ name ∉ unneeded,
      Record.textOf .athena changed name = Record.textOf .athena config name := by
    intro name needed
    have notWorkgroup : "workgroup" ≠ name := fun same => needed (same ▸ List.mem_cons_self)
    simp [Record.textOf, textAt, Record.toEntries, Athena.toEntries, Dict.get?, notWorkgroup,
      changed, config]
  exact ⟨⟨unnamed, ((roles role).2 _).2 unnamed⟩, reported, sameTexts,
    (configs .athena config).2.2 changed rfl sameTexts⟩

end Config

end Integration

end CloudBilling
