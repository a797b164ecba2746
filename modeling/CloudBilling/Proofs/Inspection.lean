import CloudBilling.Integration.Config
import CloudBilling.Proofs.Inspect

/-!
# What inspection shows

The inspection text of a credential, of a configuration or of the settings of a client shows
everything but the secrets.  Two of them have the same text exactly if they are the same but for
secrets: for what a secret is, and even for whether there is one.  Of a key file the names are shown,
and of the token of a session whether there is one.
-/

namespace CloudBilling

open Inspect

/-! ## Credentials -/

/-- Two AWS credentials are the same but for secrets, at every level of nesting. -/
inductive Aws.Credential.SameButSecrets : Aws.Credential → Aws.Credential → Prop
  | accessKey (id left right : String) :
      SameButSecrets (.accessKey ⟨id, left⟩) (.accessKey ⟨id, right⟩)
  | serviceAccount : SameButSecrets .serviceAccount .serviceAccount
  | bareRole (roleArn : String) :
      SameButSecrets (.assumeRole none roleArn) (.assumeRole none roleArn)
  | role (roleArn : String) {left right : Aws.Credential} :
      SameButSecrets left right →
      SameButSecrets (.assumeRole (some left) roleArn) (.assumeRole (some right) roleArn)

/-- Two Azure credentials are the same but for secrets. -/
inductive Azure.Credential.SameButSecrets : Azure.Credential → Azure.Credential → Prop
  | accessKey (account left right : String) :
      SameButSecrets (.accessKey ⟨left, account⟩) (.accessKey ⟨right, account⟩)

/-- Two GCP credentials are the same but for secrets: the names in a key file are none. -/
inductive Gcp.Credential.SameButSecrets : Gcp.Credential → Gcp.Credential → Prop
  | key {left right : Gcp.Key} :
      left.entries.names = right.entries.names → SameButSecrets (.key left) (.key right)
  | workloadIdentity : SameButSecrets .workloadIdentity .workloadIdentity

/-- Two Alibaba credentials are the same but for secrets. -/
inductive Alibaba.Credential.SameButSecrets : Alibaba.Credential → Alibaba.Credential → Prop
  | accessKey (id left right : String) :
      SameButSecrets (.accessKey ⟨id, left⟩) (.accessKey ⟨id, right⟩)

/-- Two credentials of a provider are the same but for secrets. -/
def Credential.SameButSecrets :
    (provider : Provider) → Credential provider → Credential provider → Prop
  | .aws => Aws.Credential.SameButSecrets
  | .azure => Azure.Credential.SameButSecrets
  | .gcp => Gcp.Credential.SameButSecrets
  | .alibaba => Alibaba.Credential.SameButSecrets

namespace Aws

theorem AccessKey.discerns_inspect (left right : AccessKey) :
    Discerns left.inspect right.inspect (left.id = right.id) := by
  have fields := DiscernsFields.cons "id" (discerns_text left.id right.id)
    (.cons "secret" (discerns_same (text redacted)) .nil)
  exact (fields.record "AwsAccessKey").of_iff (by simp)

namespace Credential

variable {left right : Credential}

/-- The names of the variants. -/
def variantNames : List String := ["AccessKey", "ServiceAccount", "AssumeRole"]

theorem variantName_mem (credential : Credential) : credential.variantName ∈ variantNames := by
  cases credential <;> simp [variantName, variantNames]

theorem inspect_assumeRole (base : Option Credential) (roleArn : String) :
    (assumeRole base roleArn).inspect = tagged "AssumeRole" (record "AwsAssumeRole"
      [("configurer", optional (base.map inspect)), ("role_arn", text roleArn)]) := by
  cases base <;> rfl

theorem variantName_prefix_inspect (credential : Credential) :
    credential.variantName.toList <+: credential.inspect.toList := by
  cases credential with
  | accessKey key => exact name_prefix_tagged "AccessKey" key.inspect
  | serviceAccount => exact name_prefix_tagged "ServiceAccount" "AwsServiceAccount"
  | assumeRole base roleArn =>
      rw [inspect_assumeRole]
      exact name_prefix_tagged "AssumeRole" _

theorem discerns_of_variants (differ : left.variantName ≠ right.variantName) :
    Discerns left.inspect right.inspect False := by
  have free : PrefixFree variantNames := by decide
  exact free.discerns left.variantName_mem right.variantName_mem
    left.variantName_prefix_inspect right.variantName_prefix_inspect differ

theorem sameButSecrets_assumeRole_iff {left right : Option Credential} {roleArn otherArn : String} :
    SameButSecrets (.assumeRole left roleArn) (.assumeRole right otherArn) ↔
      Option.Rel SameButSecrets left right ∧ roleArn = otherArn := by
  constructor
  · rintro (_ | _ | _ | ⟨_, below⟩)
    · exact ⟨.none, rfl⟩
    · exact ⟨.some below, rfl⟩
  · rintro ⟨below | _, rfl⟩
    · exact .role roleArn below
    · exact .bareRole roleArn

theorem discerns_assumeRole {left right : Option Credential} (roleArn otherArn : String)
    (below : ∀ base ∈ left, ∀ other ∈ right,
      Discerns base.inspect other.inspect (SameButSecrets base other)) :
    Discerns (assumeRole left roleArn).inspect (assumeRole right otherArn).inspect
      (SameButSecrets (.assumeRole left roleArn) (.assumeRole right otherArn)) := by
  have fields := DiscernsFields.cons "configurer" (discerns_optional below)
    (.cons "role_arn" (discerns_text roleArn otherArn) .nil)
  rw [inspect_assumeRole, inspect_assumeRole]
  refine ((fields.record "AwsAssumeRole").tagged "AssumeRole").of_iff ?_
  rw [sameButSecrets_assumeRole_iff, and_true]

theorem discerns_inspect : (left right : Credential) →
    Discerns left.inspect right.inspect (SameButSecrets left right)
  | .accessKey left, .accessKey right => by
      refine ((left.discerns_inspect right).tagged "AccessKey").of_iff ?_
      constructor
      · intro same
        obtain ⟨id, secret⟩ := left
        obtain rfl : id = right.id := same
        exact .accessKey right.id secret right.secret
      · rintro ⟨⟩
        rfl
  | .serviceAccount, .serviceAccount =>
      (discerns_same _).of_iff ⟨fun _ => .serviceAccount, fun _ => trivial⟩
  | .assumeRole none roleArn, .assumeRole right otherArn =>
      discerns_assumeRole roleArn otherArn (by simp)
  | .assumeRole (some left) roleArn, .assumeRole none otherArn =>
      discerns_assumeRole roleArn otherArn (by simp)
  | .assumeRole (some left) roleArn, .assumeRole (some right) otherArn =>
      discerns_assumeRole roleArn otherArn (by
        rintro _ ⟨⟩ _ ⟨⟩
        exact discerns_inspect left right)
  | .accessKey _, .serviceAccount => (discerns_of_variants (by simp [variantName])).never nofun
  | .accessKey _, .assumeRole _ _ => (discerns_of_variants (by simp [variantName])).never nofun
  | .serviceAccount, .accessKey _ => (discerns_of_variants (by simp [variantName])).never nofun
  | .serviceAccount, .assumeRole _ _ => (discerns_of_variants (by simp [variantName])).never nofun
  | .assumeRole _ _, .accessKey _ => (discerns_of_variants (by simp [variantName])).never nofun
  | .assumeRole _ _, .serviceAccount => (discerns_of_variants (by simp [variantName])).never nofun

end Credential

end Aws

namespace Azure

theorem Credential.discerns_inspect : (left right : Credential) →
    Discerns left.inspect right.inspect (SameButSecrets left right)
  | .accessKey ⟨left, account⟩, .accessKey ⟨right, otherAccount⟩ => by
      have fields := DiscernsFields.cons "access_key" (discerns_same (text redacted))
        (.cons "account" (discerns_text account otherAccount) .nil)
      refine ((fields.record "AzureAccessKey").tagged "AccessKey").of_iff ?_
      constructor
      · rintro ⟨_, rfl, _⟩
        exact .accessKey account left right
      · rintro ⟨⟩
        simp

end Azure

namespace Gcp

theorem Key.discerns_inspect (left right : Key) :
    Discerns left.inspect right.inspect (left.entries.names = right.entries.names) := by
  have names := discerns_list_texts left.entries.names right.entries.names
  have fields := DiscernsFields.cons "key" names .nil
  exact (fields.record "GcpKey").of_iff (and_true _).to_iff

theorem Credential.discerns_inspect : (left right : Credential) →
    Discerns left.inspect right.inspect (SameButSecrets left right)
  | .key left, .key right => by
      refine ((left.discerns_inspect right).tagged "Key").of_iff ⟨.key, ?_⟩
      rintro ⟨same⟩
      exact same
  | .workloadIdentity, .workloadIdentity =>
      (discerns_same _).of_iff ⟨fun _ => .workloadIdentity, fun _ => trivial⟩
  | .key left, .workloadIdentity => by
      have apart := discerns_of_fronts (name_prefix_tagged "Key" left.inspect)
        (name_prefix_tagged "WorkloadIdentity" "GcpWorkloadIdentity") (by decide)
      exact apart.never nofun
  | .workloadIdentity, .key right => by
      have apart := discerns_of_fronts
        (name_prefix_tagged "WorkloadIdentity" "GcpWorkloadIdentity")
        (name_prefix_tagged "Key" right.inspect) (by decide)
      exact apart.never nofun

end Gcp

namespace Alibaba

theorem Credential.discerns_inspect : (left right : Credential) →
    Discerns left.inspect right.inspect (SameButSecrets left right)
  | .accessKey ⟨id, left⟩, .accessKey ⟨otherId, right⟩ => by
      have fields := DiscernsFields.cons "access_key_id" (discerns_text id otherId)
        (.cons "access_key_secret" (discerns_same (text redacted)) .nil)
      refine ((fields.record "AlibabaAccessKey").tagged "AccessKey").of_iff ?_
      constructor
      · rintro ⟨rfl, _⟩
        exact .accessKey id left right
      · rintro ⟨⟩
        simp

end Alibaba

theorem Credential.discerns_inspect : (provider : Provider) → (left right : Credential provider) →
    Discerns (inspect provider left) (inspect provider right) (SameButSecrets provider left right)
  | .aws => Aws.Credential.discerns_inspect
  | .azure => Azure.Credential.discerns_inspect
  | .gcp => Gcp.Credential.discerns_inspect
  | .alibaba => Alibaba.Credential.discerns_inspect

/-! ## Configurations -/

namespace Integration

variable {γ : Type} {kind : Kind}

theorem Record.inspectFields_eq_iff {left right : Record kind γ} :
    inspectFields kind left = inspectFields kind right ↔
      withCredential (none : Option γ) kind left = withCredential none kind right := by
  cases kind with
  | s3 => simp [inspectFields, withCredential, S3.inspectFields, S3.withCredential]
  | athena => simp [inspectFields, withCredential, Athena.inspectFields, Athena.withCredential]
  | bigQuery =>
      simp [inspectFields, withCredential, BigQuery.inspectFields, BigQuery.withCredential]
  | azureStorage =>
      simp [inspectFields, withCredential, AzureStorage.inspectFields, AzureStorage.withCredential]
  | alibaba =>
      simp [inspectFields, withCredential, BillingApi.inspectFields, BillingApi.withCredential]

theorem Record.names_inspectFields (left right : Record kind γ) :
    (inspectFields kind left).map (·.1) = (inspectFields kind right).map (·.1) := by
  cases kind <;> rfl

/-- Two configurations of a kind are the same but for the secrets of their credentials. -/
def Config.SameButSecrets (kind : Kind) (left right : Config kind) : Prop :=
  Record.withCredential (none : Option (Credential kind.provider)) kind left =
      Record.withCredential none kind right ∧
    Option.Rel (Credential.SameButSecrets kind.provider) (Record.credential kind left)
      (Record.credential kind right)

theorem Config.discerns_inspect (kind : Kind) (left right : Config kind) :
    Discerns (inspect kind left) (inspect kind right) (SameButSecrets kind left right) := by
  have credentials : Discerns _ _ (Option.Rel _ (Record.credential kind left)
      (Record.credential kind right)) :=
    discerns_optional fun credential _ other _ =>
      Credential.discerns_inspect kind.provider credential other
  have fields := DiscernsFields.texts (.cons "configurer" credentials .nil)
    (Record.names_inspectFields left right)
  refine (fields.record kind.typeName).of_iff ?_
  rw [Record.inspectFields_eq_iff, and_true, SameButSecrets]

end Integration

/-! ## Settings of clients -/

namespace Client

namespace Aws

/-- Two sources of credentials are the same but for secrets, at every level of nesting.  Whether
there is a token is none. -/
inductive CredentialSource.SameButSecrets : CredentialSource → CredentialSource → Prop
  | static (id left right : String) {leftToken rightToken : Option String} :
      leftToken.isSome = rightToken.isSome →
      SameButSecrets (.static ⟨id, left, leftToken⟩) (.static ⟨id, right, rightToken⟩)
  | ambient (identity : AmbientIdentity) : SameButSecrets (.ambient identity) (.ambient identity)
  | assumeRole (roleArn sessionName : String) {left right : CredentialSource} :
      SameButSecrets left right →
      SameButSecrets (.assumeRole roleArn sessionName left)
        (.assumeRole roleArn sessionName right)

/-- Two settings are the same but for secrets. -/
def Settings.SameButSecrets (left right : Settings) : Prop :=
  left.region = right.region ∧ left.credentials.SameButSecrets right.credentials

theorem StaticKey.discerns_inspect (left right : StaticKey) :
    Discerns left.inspect right.inspect
      (left.accessKeyId = right.accessKeyId ∧
        left.sessionToken.isSome = right.sessionToken.isSome) := by
  have tokens := discerns_optionalText (left.sessionToken.map fun _ => redacted)
    (right.sessionToken.map fun _ => redacted)
  have fields := DiscernsFields.cons "access_key_id"
    (discerns_text left.accessKeyId right.accessKeyId)
    (.cons "secret_access_key" (discerns_same (text redacted)) (.cons "session_token" tokens .nil))
  refine (fields.record "AwsCredentials").of_iff ?_
  cases left.sessionToken <;> cases right.sessionToken <;> simp

theorem AmbientIdentity.discerns_inspect (left right : AmbientIdentity) :
    Discerns left.inspect right.inspect (left = right) := by
  have fields := DiscernsFields.cons "web_identity_token_file"
    (discerns_optionalText left.webIdentityTokenFile right.webIdentityTokenFile)
    (.cons "role_arn" (discerns_optionalText left.roleArn right.roleArn)
      (.cons "profile" (discerns_optionalText left.profile right.profile)
        (.cons "container_credentials_uri"
          (discerns_optionalText left.containerCredentialsUri right.containerCredentialsUri) .nil)))
  refine (fields.record "AmbientAwsIdentity").of_iff ?_
  cases left
  cases right
  simp

namespace CredentialSource

variable {left right : CredentialSource}

/-- The name of a source's variant. -/
def variantName : CredentialSource → String
  | .static _ => "Static"
  | .ambient _ => "Ambient"
  | .assumeRole _ _ _ => "AssumeRole"

/-- The names of the variants. -/
def variantNames : List String := ["Static", "Ambient", "AssumeRole"]

theorem variantName_mem (source : CredentialSource) : source.variantName ∈ variantNames := by
  cases source <;> simp [variantName, variantNames]

theorem variantName_prefix_inspect (source : CredentialSource) :
    source.variantName.toList <+: source.inspect.toList := by
  cases source with
  | static key => exact name_prefix_tagged "Static" key.inspect
  | ambient identity => exact name_prefix_tagged "Ambient" identity.inspect
  | assumeRole roleArn sessionName base => exact name_prefix_record "AssumeRole" _

theorem discerns_of_variants (differ : left.variantName ≠ right.variantName) :
    Discerns left.inspect right.inspect False := by
  have free : PrefixFree variantNames := by decide
  exact free.discerns left.variantName_mem right.variantName_mem
    left.variantName_prefix_inspect right.variantName_prefix_inspect differ

theorem discerns_inspect : (left right : CredentialSource) →
    Discerns left.inspect right.inspect (SameButSecrets left right)
  | .static ⟨id, left, leftToken⟩, .static ⟨otherId, right, rightToken⟩ => by
      refine ((StaticKey.discerns_inspect _ _).tagged "Static").of_iff ?_
      constructor
      · rintro ⟨rfl, tokens⟩
        exact .static id left right tokens
      · rintro ⟨_, _, _, tokens⟩
        exact ⟨rfl, tokens⟩
  | .ambient left, .ambient right => by
      refine ((left.discerns_inspect right).tagged "Ambient").of_iff ?_
      constructor
      · rintro rfl
        exact .ambient left
      · rintro ⟨⟩
        rfl
  | .assumeRole roleArn sessionName left, .assumeRole otherArn otherName right => by
      have fields := DiscernsFields.cons "role_arn" (discerns_text roleArn otherArn)
        (.cons "session_name" (discerns_text sessionName otherName)
          (.cons "source" (discerns_inspect left right) .nil))
      refine (fields.record "AssumeRole").of_iff ?_
      constructor
      · rintro ⟨rfl, rfl, below, _⟩
        exact .assumeRole roleArn sessionName below
      · intro same
        cases same with
        | assumeRole _ _ below => exact ⟨rfl, rfl, below, trivial⟩
  | .static _, .ambient _ => (discerns_of_variants (by simp [variantName])).never nofun
  | .static _, .assumeRole _ _ _ => (discerns_of_variants (by simp [variantName])).never nofun
  | .ambient _, .static _ => (discerns_of_variants (by simp [variantName])).never nofun
  | .ambient _, .assumeRole _ _ _ => (discerns_of_variants (by simp [variantName])).never nofun
  | .assumeRole _ _ _, .static _ => (discerns_of_variants (by simp [variantName])).never nofun
  | .assumeRole _ _ _, .ambient _ => (discerns_of_variants (by simp [variantName])).never nofun

end CredentialSource

theorem Settings.discerns_inspect (left right : Settings) :
    Discerns left.inspect right.inspect (SameButSecrets left right) := by
  have fields := DiscernsFields.cons "region" (discerns_text left.region right.region)
    (.cons "credentials" (left.credentials.discerns_inspect right.credentials) .nil)
  exact (fields.record "AwsSdkConfig").of_iff (by simp [SameButSecrets])

end Aws

/-- Two shared keys are the same but for their bytes. -/
def Azure.SharedKey.SameButSecrets (left right : Azure.SharedKey) : Prop :=
  left.accountName = right.accountName

theorem Azure.SharedKey.discerns_inspect (left right : SharedKey) :
    Discerns left.inspect right.inspect (SameButSecrets left right) := by
  have fields := DiscernsFields.cons "account_name"
    (discerns_text left.accountName right.accountName)
    (.cons "account_key" (discerns_same (text redacted)) .nil)
  exact (fields.record "AzureSharedKeyCredential").of_iff (by simp [SameButSecrets])

/-- Two options are the same but for secrets: the text of a key file is one as a whole. -/
inductive Gcp.ClientOption.SameButSecrets : Gcp.ClientOption → Gcp.ClientOption → Prop
  | credentialsJson (left right : String) :
      SameButSecrets (.credentialsJson left) (.credentialsJson right)
  | applicationDefault (credentialsFile : Option String) :
      SameButSecrets (.applicationDefault credentialsFile) (.applicationDefault credentialsFile)

theorem Gcp.ClientOption.discerns_inspect : (left right : ClientOption) →
    Discerns left.inspect right.inspect (SameButSecrets left right)
  | .credentialsJson left, .credentialsJson right =>
      (discerns_same _).of_iff ⟨fun _ => .credentialsJson left right, fun _ => trivial⟩
  | .applicationDefault left, .applicationDefault right => by
      have fields := DiscernsFields.cons "credentials_file" (discerns_optionalText left right) .nil
      refine (fields.record "ApplicationDefault").of_iff ?_
      constructor
      · rintro ⟨rfl, _⟩
        exact .applicationDefault left
      · rintro ⟨⟩
        simp
  | .credentialsJson _, .applicationDefault right => by
      have apart := discerns_of_fronts (name_prefix_tagged "CredentialsJson" (text redacted))
        (name_prefix_record "ApplicationDefault" [("credentials_file", optionalText right)])
        (by decide)
      exact apart.never nofun
  | .applicationDefault left, .credentialsJson _ => by
      have apart := discerns_of_fronts
        (name_prefix_record "ApplicationDefault" [("credentials_file", optionalText left)])
        (name_prefix_tagged "CredentialsJson" (text redacted)) (by decide)
      exact apart.never nofun

/-- Two signing keys are the same but for their secrets. -/
def Alibaba.SigningKey.SameButSecrets (left right : Alibaba.SigningKey) : Prop :=
  left.accessKeyId = right.accessKeyId

theorem Alibaba.SigningKey.discerns_inspect (left right : SigningKey) :
    Discerns left.inspect right.inspect (SameButSecrets left right) := by
  have fields := DiscernsFields.cons "access_key_id"
    (discerns_text left.accessKeyId right.accessKeyId)
    (.cons "access_key_secret" (discerns_same (text redacted)) .nil)
  exact (fields.record "AlibabaAccessKeyCredential").of_iff (by simp [SameButSecrets])

/-- Two settings of a provider's clients are the same but for secrets. -/
def SameButSecrets : (provider : Provider) → Settings provider → Settings provider → Prop
  | .aws => Aws.Settings.SameButSecrets
  | .azure => Azure.SharedKey.SameButSecrets
  | .gcp => Gcp.ClientOption.SameButSecrets
  | .alibaba => Alibaba.SigningKey.SameButSecrets

theorem discerns_inspect : (provider : Provider) → (left right : Settings provider) →
    Discerns (inspect provider left) (inspect provider right) (SameButSecrets provider left right)
  | .aws => Aws.Settings.discerns_inspect
  | .azure => Azure.SharedKey.discerns_inspect
  | .gcp => Gcp.ClientOption.discerns_inspect
  | .alibaba => Alibaba.SigningKey.discerns_inspect

end Client

/-! ## Everything that is inspected -/

/-- Two credentials of a provider, two configurations of a kind and the settings of two clients of a
provider have the same inspection text exactly if they are the same but for secrets. -/
theorem inspection_hides_exactly_secrets :
    (∀ (provider : Provider) (left right : Credential provider),
      Credential.inspect provider left = Credential.inspect provider right ↔
        Credential.SameButSecrets provider left right) ∧
    (∀ (kind : Integration.Kind) (left right : Integration.Config kind),
      Integration.Config.inspect kind left = Integration.Config.inspect kind right ↔
        Integration.Config.SameButSecrets kind left right) ∧
    (∀ (provider : Provider) (left right : Client.Settings provider),
      Client.inspect provider left = Client.inspect provider right ↔
        Client.SameButSecrets provider left right) := by
  refine ⟨?_, ?_, ?_⟩
  · exact fun provider left right => (Credential.discerns_inspect provider left right).eq_iff
  · exact fun kind left right => (Integration.Config.discerns_inspect kind left right).eq_iff
  · exact fun provider left right => (Client.discerns_inspect provider left right).eq_iff

end CloudBilling
