import CloudBilling.Client.Aws
import CloudBilling.Proofs.Client.Lookups

/-!
# What AWS client settings are built from

Below all its roles a credential that can be used is a key or the service account.  What a client
gets is the source of credentials that this one offers, with the roles laid over it in their order,
and one region for all of them.  An invalid credential fails as its validation does; a cancellation
comes next, and a missing region last, told inside one context for each role.  Only what is below
the roles looks variables up, and it does so once.
-/

namespace CloudBilling.Client.Aws

open CloudBilling.Aws Observation

variable {credential base : Aws.Credential} {roles : List String} {region : String}
variable {surroundings : Surroundings} {environment : String → Option String}

/-! ## What the environment offers -/

/-- The variables that may name a region, in the order in which they count. -/
def regionVariables : List String :=
  ["AWS_REGION", "AWS_DEFAULT_REGION"]

/-- The region of a client: the one that is given, or else the first that the environment names. -/
def regionIn (region : String) (environment : String → Option String) : Option String :=
  if region = "" then firstSet environment regionVariables else some region

/-- The variables that are looked up for a region: none if one is given, and otherwise the second
only if the first is unset. -/
def regionLookups (region : String) (environment : String → Option String) : List String :=
  if region = "" then
    "AWS_REGION" :: if Unset environment "AWS_REGION" then ["AWS_DEFAULT_REGION"] else []
  else []

/-- A client has no region. -/
def noRegion : Cause :=
  .delegated ("failed to initialize AWS SDK config: no region given and neither AWS_REGION nor " ++
    "AWS_DEFAULT_REGION is set") none

/-- The identity that an environment offers. -/
def identityIn (environment : String → Option String) : AmbientIdentity where
  webIdentityTokenFile := firstSet environment ["AWS_WEB_IDENTITY_TOKEN_FILE"]
  roleArn := firstSet environment ["AWS_ROLE_ARN"]
  profile := firstSet environment ["AWS_PROFILE"]
  containerCredentialsUri := firstSet environment
    ["AWS_CONTAINER_CREDENTIALS_FULL_URI", "AWS_CONTAINER_CREDENTIALS_RELATIVE_URI"]

/-- The variables that are looked up for an identity. -/
def identityLookups (environment : String → Option String) : List String :=
  ["AWS_WEB_IDENTITY_TOKEN_FILE", "AWS_ROLE_ARN", "AWS_PROFILE",
    "AWS_CONTAINER_CREDENTIALS_FULL_URI"] ++
    if Unset environment "AWS_CONTAINER_CREDENTIALS_FULL_URI" then
      ["AWS_CONTAINER_CREDENTIALS_RELATIVE_URI"]
    else []

theorem resolveRegion_eq (region : String) (surroundings : Surroundings) :
    resolveRegion region surroundings =
      ⟨match regionIn region surroundings.environment with
        | some found => .ok found
        | none => .fail noRegion,
        (regionLookups region surroundings.environment).map .lookup⟩ := by
  by_cases given : region = ""
  · rw [resolveRegion, if_neg (not_not_intro given), lookup_bind, regionIn, regionLookups,
      if_pos given, if_pos given, regionVariables, ← findSome?_get?]
    simp only [← get?_eq_none_iff]
    cases first : surroundings.get? "AWS_REGION" with
    | some found => simp [first]
    | none =>
        simp only [lookup_bind]
        cases second : surroundings.get? "AWS_DEFAULT_REGION" <;>
          simp [first, second, noRegion, Outcome.fail, Attempt.fail]
  · rw [resolveRegion, if_pos given, regionIn, regionLookups, if_neg given, if_neg given]
    rfl

theorem discover_eq (surroundings : Surroundings) :
    AmbientIdentity.discover surroundings =
      ⟨.ok (identityIn surroundings.environment),
        (identityLookups surroundings.environment).map .lookup⟩ := by
  simp only [AmbientIdentity.discover, lookup_bind, identityIn, identityLookups, ← findSome?_get?,
    ← get?_eq_none_iff]
  cases full : surroundings.get? "AWS_CONTAINER_CREDENTIALS_FULL_URI" <;> simp [full]

/-! ## What comes before the environment -/

theorem create_of_invalid {failure : Failure} (invalid : credential.validate = .error failure) :
    create region surroundings credential = .fail failure := by
  cases credential with
  | accessKey key =>
      change key.validate = .error failure at invalid
      rw [create, ofAccessKey, invalid]
      rfl
  | serviceAccount => cases invalid
  | assumeRole base roleArn =>
      cases base with
      | none =>
          rw [create, invalid]
          rfl
      | some base =>
          rw [create, invalid]
          rfl

theorem create_of_cancelled (valid : credential.validate = .ok ())
    (cancelled : surroundings.cancelled = true) :
    create region surroundings credential = .fail (.ofCause .cancelled) := by
  have stopped : surroundings.check = .fail .cancelled := if_pos cancelled
  cases credential with
  | accessKey key =>
      change key.validate = .ok () at valid
      rw [create, ofAccessKey, valid, stopped]
      rfl
  | serviceAccount =>
      rw [create, ofServiceAccount, stopped]
      rfl
  | assumeRole base roleArn =>
      cases base with
      | none => cases valid
      | some base =>
          rw [create, valid, stopped]
          rfl

/-! ## What is below the roles -/

/-- What a credential that is no role offers to a client. -/
inductive Offers (environment : String → Option String) :
    Aws.Credential → CredentialSource → Prop
  | accessKey (key : AccessKey) :
      Offers environment (.accessKey key) (.static ⟨key.id, key.secret, none⟩)
  | serviceAccount : Offers environment .serviceAccount (.ambient (identityIn environment))

/-- The settings with a source of credentials; without a region, a failure inside contexts. -/
def settingsWith (region : String) (environment : String → Option String) (contexts : List String)
    (source : CredentialSource) : Outcome Settings :=
  match regionIn region environment with
  | some found => .ok ⟨found, source⟩
  | none => .error ⟨contexts, noRegion⟩

theorem within_settingsWith (context : String) (contexts : List String)
    (source : CredentialSource) :
    (settingsWith region environment contexts source).within context =
      settingsWith region environment (context :: contexts) source := by
  unfold settingsWith
  cases regionIn region environment <;> rfl

theorem map_outcome_resolveRegion (source : CredentialSource) :
    ((resolveRegion region surroundings).outcome.map fun found => ⟨found, source⟩) =
      settingsWith region surroundings.environment [] source := by
  rw [resolveRegion_eq, settingsWith]
  cases regionIn region surroundings.environment <;> rfl

theorem lookups_resolveRegion :
    lookups (resolveRegion region surroundings).notes =
      regionLookups region surroundings.environment := by
  rw [resolveRegion_eq, lookups_map_lookup]

/-- The context in which the failures of a credential that is no role are told. -/
def contextOf (base : Aws.Credential) : List String :=
  if base = .serviceAccount then [serviceAccountTag] else []

/-- The variables that a credential that is no role looks up. -/
def lookupsOf (region : String) (environment : String → Option String) (base : Aws.Credential) :
    List String :=
  (if base = .serviceAccount then identityLookups environment else []) ++
    regionLookups region environment

theorem create_of_offers (region : String) {source : CredentialSource}
    (offers : Offers surroundings.environment base source) (valid : base.validate = .ok ())
    (going : surroundings.cancelled = false) :
    (create region surroundings base).outcome =
        settingsWith region surroundings.environment (contextOf base) source ∧
      lookups (create region surroundings base).notes =
        lookupsOf region surroundings.environment base := by
  have goes : surroundings.check = .ok () := Surroundings.check_eq_ok_iff.mpr going
  cases offers with
  | accessKey key =>
      change key.validate = .ok () at valid
      have steps : create region surroundings (.accessKey key) =
          (⟨·, .static ⟨key.id, key.secret, none⟩⟩) <$> resolveRegion region surroundings := by
        simp [create, ofAccessKey, valid, goes]
      rw [steps, Attempt.outcome_map, Attempt.notes_map, map_outcome_resolveRegion,
        lookups_resolveRegion]
      exact ⟨rfl, rfl⟩
  | serviceAccount =>
      simp [create, ofServiceAccount, goes, discover_eq, Attempt.bind_of_ok, outcome_log_if,
        lookups_log_if, Attempt.map_within, map_outcome_resolveRegion, within_settingsWith,
        lookups_resolveRegion, contextOf, lookupsOf]

/-! ## Roles -/

/-- Roles over a credential, the outermost first. -/
def layered (roles : List String) (base : Aws.Credential) : Aws.Credential :=
  roles.foldr (fun role inner => .assumeRole (some inner) role) base

theorem layered_cons (role : String) (roles : List String) (base : Aws.Credential) :
    layered (role :: roles) base = .assumeRole (some (layered roles base)) role := rfl

theorem validate_of_role {role : String}
    (valid : (Aws.Credential.assumeRole (some base) role).validate = .ok ()) :
    base.validate = .ok () := by
  rw [Aws.Credential.validate] at valid
  cases below : base.validate with
  | ok => rfl
  | error failure => simp [below, bind, Except.bind] at valid

theorem validate_of_layered (valid : (layered roles base).validate = .ok ()) :
    base.validate = .ok () := by
  induction roles with
  | nil => exact valid
  | cons role roles ih => exact ih (validate_of_role valid)

/-- A credential that can be used is made of roles over one that offers something to a client. -/
theorem exists_layered_of_valid (environment : String → Option String) :
    (credential : Aws.Credential) → credential.validate = .ok () →
      ∃ roles base source, credential = layered roles base ∧ Offers environment base source
  | .accessKey key, _ => ⟨[], .accessKey key, _, rfl, .accessKey key⟩
  | .serviceAccount, _ => ⟨[], .serviceAccount, _, rfl, .serviceAccount⟩
  | .assumeRole (some inner) role, valid => by
      obtain ⟨roles, base, source, rfl, offers⟩ :=
        exists_layered_of_valid environment inner (validate_of_role valid)
      exact ⟨role :: roles, base, source, rfl, offers⟩

/-- A role that can be used builds what is below it, and lays itself over the result. -/
theorem create_of_role {role : String}
    (valid : (Aws.Credential.assumeRole (some base) role).validate = .ok ())
    (going : surroundings.cancelled = false) :
    create region surroundings (.assumeRole (some base) role) =
      (fun settings =>
        ⟨settings.region, .assumeRole role sessionName settings.credentials⟩) <$>
          (create region surroundings base).within assumeRoleName := by
  have goes : surroundings.check = .ok () := Surroundings.check_eq_ok_iff.mpr going
  rw [create, valid, goes]
  simp

theorem map_settingsWith (contexts : List String) (source : CredentialSource)
    (change : CredentialSource → CredentialSource) :
    ((settingsWith region environment contexts source).map fun settings =>
        ⟨settings.region, change settings.credentials⟩) =
      settingsWith region environment contexts (change source) := by
  unfold settingsWith
  cases regionIn region environment <;> rfl

/-- Each role adds its context and lays itself over the source of credentials; it looks nothing
up. -/
theorem create_layered {contexts : List String} {source : CredentialSource}
    (going : surroundings.cancelled = false) (valid : (layered roles base).validate = .ok ())
    (built : (create region surroundings base).outcome =
      settingsWith region surroundings.environment contexts source) :
    (create region surroundings (layered roles base)).outcome =
        settingsWith region surroundings.environment
          (List.replicate roles.length assumeRoleName ++ contexts)
          (roles.foldr (fun role inner => .assumeRole role sessionName inner) source) ∧
      (create region surroundings (layered roles base)).notes =
        (create region surroundings base).notes := by
  induction roles with
  | nil => exact ⟨built, rfl⟩
  | cons role roles ih =>
      rw [layered_cons] at valid ⊢
      obtain ⟨below, sameNotes⟩ := ih (validate_of_role valid)
      rw [create_of_role valid going, Attempt.outcome_map, Attempt.notes_map,
        Attempt.outcome_within, Attempt.notes_within, below, within_settingsWith]
      exact ⟨map_settingsWith _ _ (.assumeRole role sessionName), sameNotes⟩

/-! ## The builder -/

/-- What a client gets, and what it fails for: an invalid credential first, then a cancellation, and
then a missing region, which is told inside one context for each role. -/
theorem create_over_roles (credential : Aws.Credential) (region : String)
    (surroundings : Surroundings) :
    (∀ failure, credential.validate = .error failure →
      (create region surroundings credential).outcome = .error failure) ∧
    (credential.validate = .ok () → surroundings.cancelled = true →
      (create region surroundings credential).outcome = .fail .cancelled) ∧
    (credential.validate = .ok () → surroundings.cancelled = false →
      (∃ roles base source, credential = layered roles base ∧
        Offers surroundings.environment base source) ∧
      ∀ roles base source, credential = layered roles base →
        Offers surroundings.environment base source →
        (create region surroundings credential).outcome =
          match regionIn region surroundings.environment with
          | some found =>
              .ok ⟨found, roles.foldr (fun role inner => .assumeRole role sessionName inner) source⟩
          | none =>
              .error ⟨List.replicate roles.length assumeRoleName ++
                (if base = .serviceAccount then [serviceAccountTag] else []), noRegion⟩) := by
  refine ⟨?_, ?_, ?_⟩
  · intro failure invalid
    rw [create_of_invalid invalid]
    rfl
  · intro valid cancelled
    rw [create_of_cancelled valid cancelled]
    rfl
  · intro valid going
    refine ⟨exists_layered_of_valid surroundings.environment credential valid, ?_⟩
    rintro roles base source rfl offers
    have built := (create_of_offers region offers (validate_of_layered valid) going).1
    exact (create_layered going valid built).1

/-- Two roles over the service account, with an environment that offers an identity: without a name
of the inner role, after a cancellation, and to the end with both variables for a region set, with
only the second one, and with none. -/
theorem create_over_roles_two_deep :
    let chain (inner : String) : Aws.Credential :=
      .assumeRole (some (.assumeRole (some .serviceAccount) inner)) "outer"
    let naming (first second : String) : String → Option String := fun name =>
      if name = "AWS_REGION" then some first
      else if name = "AWS_DEFAULT_REGION" then some second
      else if name = "AWS_CONTAINER_CREDENTIALS_FULL_URI" then some "http://full"
      else if name = "AWS_CONTAINER_CREDENTIALS_RELATIVE_URI" then some "/relative"
      else none
    let layers : CredentialSource := .assumeRole "outer" sessionName (.assumeRole "inner" sessionName
      (.ambient ⟨none, none, none, some "http://full"⟩))
    let unnamed : Failure := .missingField assumeRoleName "roleARN"
    ((chain "").validate = .error unnamed ∧
        (create "" ⟨true, naming "here" "there"⟩ (chain "")).outcome = .error unnamed) ∧
      ((chain "inner").validate = .ok () ∧
        (create "" ⟨true, naming "here" "there"⟩ (chain "inner")).outcome = .fail .cancelled) ∧
      (create "" ⟨false, naming "here" "there"⟩ (chain "inner")).outcome = .ok ⟨"here", layers⟩ ∧
      (create "" ⟨false, naming "" "there"⟩ (chain "inner")).outcome = .ok ⟨"there", layers⟩ ∧
      (create "" ⟨false, naming "" ""⟩ (chain "inner")).outcome =
        .error ⟨[assumeRoleName, assumeRoleName, serviceAccountTag], noRegion⟩ := by
  intro chain naming layers unnamed
  have invalid : (chain "").validate = .error unnamed := rfl
  have valid : (chain "inner").validate = .ok () := rfl
  refine ⟨⟨invalid, ?_⟩, ⟨valid, ?_⟩, ?_, ?_, ?_⟩
  · exact (create_over_roles (chain "") "" ⟨true, naming "here" "there"⟩).1 unnamed invalid
  · exact (create_over_roles (chain "inner") "" ⟨true, naming "here" "there"⟩).2.1 valid rfl
  · exact ((create_over_roles (chain "inner") "" ⟨false, naming "here" "there"⟩).2.2 valid rfl).2
      ["outer", "inner"] .serviceAccount _ rfl .serviceAccount
  · exact ((create_over_roles (chain "inner") "" ⟨false, naming "" "there"⟩).2.2 valid rfl).2
      ["outer", "inner"] .serviceAccount _ rfl .serviceAccount
  · exact ((create_over_roles (chain "inner") "" ⟨false, naming "" ""⟩).2.2 valid rfl).2
      ["outer", "inner"] .serviceAccount _ rfl .serviceAccount

/-! ## What the builder looks up -/

theorem guided_resolveRegion (region : String) : Guided (resolveRegion region) := by
  unfold resolveRegion
  by_cases given : region = ""
  · simp only [given, ne_eq, not_true_eq_false, if_false]
    apply Guided.bind (guided_lookup _)
    intro first
    cases first with
    | some found => exact guided_const _
    | none =>
        apply Guided.bind (guided_lookup _)
        intro second
        cases second with
        | some found => exact guided_const _
        | none => exact guided_const _
  · simp only [given, ne_eq, not_false_eq_true, if_true]
    exact guided_const _

theorem guided_discover : Guided AmbientIdentity.discover := by
  unfold AmbientIdentity.discover
  apply Guided.bind (guided_lookup _)
  intro webIdentityTokenFile
  apply Guided.bind (guided_lookup _)
  intro roleArn
  apply Guided.bind (guided_lookup _)
  intro profile
  apply Guided.bind (guided_lookup _)
  intro full
  cases full with
  | some uri => exact guided_const _
  | none => exact (guided_lookup _).bind fun uri => guided_const _

theorem guided_create (region : String) :
    (credential : Aws.Credential) → Guided fun surroundings => create region surroundings credential
  | .accessKey key => by
      simp only [create, ofAccessKey]
      apply Guided.bind (guided_const _)
      intro valid
      apply Guided.bind guided_check
      intro going
      exact (guided_resolveRegion region).bind fun found => guided_const _
  | .serviceAccount => by
      simp only [create, ofServiceAccount]
      apply Guided.bind guided_check
      intro going
      apply Guided.bind guided_discover
      intro identity
      have settled := ((guided_resolveRegion region).within serviceAccountTag).bind fun found =>
        guided_const (pure (⟨found, .ambient identity⟩ : Settings))
      cases identity.isInstanceMetadata with
      | true => exact (guided_const _).bind fun logged => settled
      | false => exact settled
  | .assumeRole none role => by
      simp only [create]
      apply Guided.bind (guided_const _)
      intro valid
      exact guided_check.bind fun going => guided_const _
  | .assumeRole (some inner) role => by
      simp only [create]
      apply Guided.bind (guided_const _)
      intro valid
      apply Guided.bind guided_check
      intro going
      exact ((guided_create region inner).within assumeRoleName).bind fun settings => guided_const _

/-- What is looked up, and in which order.  Roles look nothing up, so their number does not matter;
and nothing but the variables that are looked up matters to what is built. -/
theorem create_looks_up (credential : Aws.Credential) (region : String)
    (surroundings : Surroundings) :
    ((∃ failure, credential.validate = .error failure) ∨ surroundings.cancelled = true →
      lookups (create region surroundings credential).notes = []) ∧
    (credential.validate = .ok () → surroundings.cancelled = false →
      (∃ roles base source, credential = layered roles base ∧
        Offers surroundings.environment base source) ∧
      ∀ roles base source, credential = layered roles base →
        Offers surroundings.environment base source →
        lookups (create region surroundings credential).notes =
          (if base = .serviceAccount then identityLookups surroundings.environment else []) ++
            regionLookups region surroundings.environment) ∧
    ∀ other, AgreeOn (lookups (create region surroundings credential).notes) surroundings other →
      create region surroundings credential = create region other credential := by
  refine ⟨?_, ?_, guided_create region credential surroundings⟩
  · intro stopped
    cases valid : credential.validate with
    | error failure =>
        rw [create_of_invalid valid]
        rfl
    | ok =>
        rcases stopped with ⟨failure, invalid⟩ | cancelled
        · rw [valid] at invalid
          cases invalid
        · rw [create_of_cancelled valid cancelled]
          rfl
  · intro valid going
    refine ⟨exists_layered_of_valid surroundings.environment credential valid, ?_⟩
    rintro roles base source rfl offers
    obtain ⟨built, lookedUp⟩ :=
      create_of_offers region offers (validate_of_layered valid) going
    rw [(create_layered going valid built).2, lookedUp]
    rfl

/-- Two roles over the service account look up what the service account does, and nothing after a
cancellation.  The second variable of two is looked up only where the first is unset.  Variables with
other names may differ, and so may an empty one and one that is not set. -/
theorem create_looks_up_two_deep :
    let chain : Aws.Credential :=
      .assumeRole (some (.assumeRole (some .serviceAccount) "inner")) "outer"
    let naming (container region : String) : String → Option String := fun name =>
      if name = "AWS_CONTAINER_CREDENTIALS_FULL_URI" then some container
      else if name = "AWS_REGION" then some region
      else if name = "AWS_DEFAULT_REGION" then some "there"
      else none
    let other : String → Option String := fun name =>
      if name = "AWS_PROFILE" then some ""
      else if name = "AWS_CONTAINER_CREDENTIALS_RELATIVE_URI" then some "/relative"
      else if name = "AWS_REGION" then none
      else naming "http://full" "" name
    lookups (create "" ⟨true, naming "http://full" ""⟩ chain).notes = [] ∧
      lookups (create "" ⟨false, naming "" "here"⟩ chain).notes =
        ["AWS_WEB_IDENTITY_TOKEN_FILE", "AWS_ROLE_ARN", "AWS_PROFILE",
          "AWS_CONTAINER_CREDENTIALS_FULL_URI", "AWS_CONTAINER_CREDENTIALS_RELATIVE_URI",
          "AWS_REGION"] ∧
      lookups (create "" ⟨false, naming "http://full" ""⟩ chain).notes =
        ["AWS_WEB_IDENTITY_TOKEN_FILE", "AWS_ROLE_ARN", "AWS_PROFILE",
          "AWS_CONTAINER_CREDENTIALS_FULL_URI", "AWS_REGION", "AWS_DEFAULT_REGION"] ∧
      AgreeOn (lookups (create "" ⟨false, naming "http://full" ""⟩ chain).notes)
          ⟨false, naming "http://full" ""⟩ ⟨false, other⟩ ∧
        create "" ⟨false, naming "http://full" ""⟩ chain = create "" ⟨false, other⟩ chain := by
  intro chain naming other
  have valid : chain.validate = .ok () := rfl
  have lookedUp (container region : String) :=
    ((create_looks_up chain "" ⟨false, naming container region⟩).2.1 valid rfl).2
      ["outer", "inner"] .serviceAccount _ rfl .serviceAccount
  have agree : AgreeOn (lookups (create "" ⟨false, naming "http://full" ""⟩ chain).notes)
      ⟨false, naming "http://full" ""⟩ ⟨false, other⟩ := by
    rw [lookedUp]
    refine ⟨rfl, ?_⟩
    decide
  exact ⟨(create_looks_up chain "" ⟨true, naming "http://full" ""⟩).1 (.inr rfl),
    lookedUp "" "here", lookedUp "http://full" "", agree,
    (create_looks_up chain "" ⟨false, naming "http://full" ""⟩).2.2 ⟨false, other⟩ agree⟩

end CloudBilling.Client.Aws
