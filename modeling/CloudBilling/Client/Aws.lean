import CloudBilling.Client.Surroundings
import CloudBilling.Credential.Aws

/-!
# AWS client settings

What an AWS client needs: a region, and a source of credentials. A builder validates its
credential first and looks nothing up for an invalid one or after a cancellation. An assumed role
is laid over the settings that the credential inside it builds.
-/

namespace CloudBilling.Client.Aws

open CloudBilling.Aws

/-- The session name under which roles are assumed. -/
def sessionName : String := "cloud-configurer"

/-- A key that requests are signed with. -/
structure StaticKey where
  accessKeyId : String
  secretAccessKey : String
  sessionToken : Option String
  deriving DecidableEq, Repr

/-- The identity that the environment offers. -/
structure AmbientIdentity where
  webIdentityTokenFile : Option String
  roleArn : Option String
  profile : Option String
  containerCredentialsUri : Option String
  deriving DecidableEq, Repr

/-- Where a client gets its credentials from. -/
inductive CredentialSource where
  | static (key : StaticKey)
  | ambient (identity : AmbientIdentity)
  /-- A role that is assumed with other credentials. -/
  | assumeRole (roleArn sessionName : String) (base : CredentialSource)
  deriving DecidableEq, Repr

/-- The settings of a client. -/
structure Settings where
  region : String
  credentials : CredentialSource
  deriving DecidableEq, Repr

namespace AmbientIdentity

/-- Whether a token and a role for it were found. -/
def isWebIdentity (identity : AmbientIdentity) : Bool :=
  identity.webIdentityTokenFile.isSome && identity.roleArn.isSome

/-- Whether nothing was found, so that the machine itself has to be asked. -/
def isInstanceMetadata (identity : AmbientIdentity) : Bool :=
  !identity.isWebIdentity && identity.profile.isNone && identity.containerCredentialsUri.isNone

/-- Look for an identity in the environment. -/
def discover (surroundings : Surroundings) : Builder AmbientIdentity := do
  let webIdentityTokenFile ← surroundings.lookup "AWS_WEB_IDENTITY_TOKEN_FILE"
  let roleArn ← surroundings.lookup "AWS_ROLE_ARN"
  let profile ← surroundings.lookup "AWS_PROFILE"
  let containerCredentialsUri ← match ← surroundings.lookup "AWS_CONTAINER_CREDENTIALS_FULL_URI" with
    | some uri => pure (some uri)
    | none => surroundings.lookup "AWS_CONTAINER_CREDENTIALS_RELATIVE_URI"
  return { webIdentityTokenFile, roleArn, profile, containerCredentialsUri }

end AmbientIdentity

/-- The region that was given, or else one from the environment. -/
def resolveRegion (region : String) (surroundings : Surroundings) : Builder String := do
  if region ≠ "" then
    return region
  match ← surroundings.lookup "AWS_REGION" with
  | some region => return region
  | none =>
      match ← surroundings.lookup "AWS_DEFAULT_REGION" with
      | some region => return region
      | none =>
          .fail (.ofCause (.delegated
            "failed to initialize AWS SDK config: no region given and neither AWS_REGION nor AWS_DEFAULT_REGION is set"
            none))

/-- The settings with which a key signs. -/
def ofAccessKey (key : AccessKey) (region : String) (surroundings : Surroundings) :
    Builder Settings := do
  key.validate
  surroundings.check
  let region ← resolveRegion region surroundings
  return ⟨region, .static ⟨key.id, key.secret, none⟩⟩

/-- The settings of the service account. -/
def ofServiceAccount (region : String) (surroundings : Surroundings) : Builder Settings := do
  surroundings.check
  let identity ← AmbientIdentity.discover surroundings
  if identity.isInstanceMetadata then
    Builder.log .debug .aws
      "AWSServiceAccount: no ambient identity in environment, using instance metadata."
  let region ← (resolveRegion region surroundings).within serviceAccountTag
  return ⟨region, .ambient identity⟩

/-- The settings of a client that uses a credential. -/
def create (region : String) (surroundings : Surroundings) : Credential → Builder Settings
  | .accessKey key => ofAccessKey key region surroundings
  | .serviceAccount => ofServiceAccount region surroundings
  | .assumeRole none roleArn => do
      (Credential.assumeRole none roleArn).validate
      surroundings.check
      .fail (.missingField assumeRoleName "base configurer")
  | .assumeRole (some base) roleArn => do
      (Credential.assumeRole (some base) roleArn).validate
      surroundings.check
      let settings ← (create region surroundings base).within assumeRoleName
      return ⟨settings.region, .assumeRole roleArn sessionName settings.credentials⟩

/-- The inspection text of a key. -/
def StaticKey.inspect (key : StaticKey) : String :=
  Inspect.record "AwsCredentials"
    [("access_key_id", Inspect.text key.accessKeyId),
     ("secret_access_key", Inspect.text redacted),
     ("session_token", Inspect.optionalText (key.sessionToken.map fun _ => redacted))]

/-- The inspection text of an identity. -/
def AmbientIdentity.inspect (identity : AmbientIdentity) : String :=
  Inspect.record "AmbientAwsIdentity"
    [("web_identity_token_file", Inspect.optionalText identity.webIdentityTokenFile),
     ("role_arn", Inspect.optionalText identity.roleArn),
     ("profile", Inspect.optionalText identity.profile),
     ("container_credentials_uri", Inspect.optionalText identity.containerCredentialsUri)]

/-- The inspection text of a source of credentials. -/
def CredentialSource.inspect : CredentialSource → String
  | .static key => Inspect.tagged "Static" key.inspect
  | .ambient identity => Inspect.tagged "Ambient" identity.inspect
  | .assumeRole roleArn sessionName base =>
      Inspect.record "AssumeRole"
        [("role_arn", Inspect.text roleArn), ("session_name", Inspect.text sessionName),
         ("source", base.inspect)]

/-- The inspection text of settings. -/
def Settings.inspect (settings : Settings) : String :=
  Inspect.record "AwsSdkConfig"
    [("region", Inspect.text settings.region), ("credentials", settings.credentials.inspect)]

end CloudBilling.Client.Aws
