import CloudBilling.Client.Surroundings
import CloudBilling.Credential.Alibaba

/-!
# Alibaba client settings

The access key with which billing requests are signed.
-/

namespace CloudBilling.Client.Alibaba

open CloudBilling.Alibaba

/-- A key that requests are signed with. -/
structure SigningKey where
  accessKeyId : String
  accessKeySecret : String
  deriving DecidableEq, Repr

/-- The signing key of an access key. -/
def ofAccessKey (key : AccessKey) (surroundings : Surroundings) : Builder SigningKey := do
  key.validate
  surroundings.check
  return ⟨key.id, key.secret⟩

/-- The signing key of a credential. -/
def create (surroundings : Surroundings) : Credential → Builder SigningKey
  | .accessKey key => ofAccessKey key surroundings

/-- The inspection text of a signing key. -/
def SigningKey.inspect (key : SigningKey) : String :=
  Inspect.record "AlibabaAccessKeyCredential"
    [("access_key_id", Inspect.text key.accessKeyId),
     ("access_key_secret", Inspect.text redacted)]

end CloudBilling.Client.Alibaba
