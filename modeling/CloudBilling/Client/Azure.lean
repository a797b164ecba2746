import CloudBilling.Client.Surroundings
import CloudBilling.Credential.Azure
import CloudBilling.Text.Base64
import CloudBilling.Text.Blank

/-!
# Azure client settings

The shared key of a storage account with the key's bytes decoded. White space around the key is
no part of it.
-/

namespace CloudBilling.Client.Azure

open CloudBilling.Azure

/-- A shared key, ready to sign requests. -/
structure SharedKey where
  accountName : String
  accountKey : List UInt8
  deriving DecidableEq, Repr

/-- Decode a shared key. -/
def ofAccessKey (key : AccessKey) (surroundings : Surroundings) : Builder SharedKey := do
  key.validate
  surroundings.check
  match Text.Base64.decode (Text.trim key.accessKey.toList) with
  | some bytes => return ⟨key.account, bytes⟩
  | none =>
      .fail ⟨[accessKeyTag],
        .delegated "failed to decode storage account key" (some "invalid base64 text")⟩

/-- The shared key of a credential. -/
def create (surroundings : Surroundings) : Credential → Builder SharedKey
  | .accessKey key => ofAccessKey key surroundings

/-- The inspection text of a shared key. -/
def SharedKey.inspect (key : SharedKey) : String :=
  Inspect.record "AzureSharedKeyCredential"
    [("account_name", Inspect.text key.accountName), ("account_key", Inspect.text redacted)]

end CloudBilling.Client.Azure
