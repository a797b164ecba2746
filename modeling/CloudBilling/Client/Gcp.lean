import CloudBilling.Client.Surroundings
import CloudBilling.Credential.Gcp
import CloudBilling.Json.Printer

/-!
# GCP client options

A client authenticates with a key file, given as JSON text, or with what the place where it runs
offers: a file that the environment names, or the metadata server.
-/

namespace CloudBilling.Client.Gcp

open CloudBilling.Gcp

/-- How a client authenticates. -/
inductive ClientOption where
  | credentialsJson (json : String)
  | applicationDefault (credentialsFile : Option String)
  deriving DecidableEq, Repr

/-- The option of a key file. -/
def ofKey (key : Key) (surroundings : Surroundings) : Builder ClientOption := do
  key.validate
  surroundings.check
  return .credentialsJson key.toValue.compact

/-- The option of the workload identity. -/
def ofWorkloadIdentity (surroundings : Surroundings) : Builder ClientOption := do
  surroundings.check
  let credentialsFile ← surroundings.lookup "GOOGLE_APPLICATION_CREDENTIALS"
  if credentialsFile.isNone then
    Builder.log .debug .gcp
      "GCPWorkLoadIdentity: no credentials file set, using metadata server."
  return .applicationDefault credentialsFile

/-- The option of a credential. -/
def create (surroundings : Surroundings) : Credential → Builder ClientOption
  | .key file => ofKey file surroundings
  | .workloadIdentity => ofWorkloadIdentity surroundings

/-- The inspection text of an option. -/
def ClientOption.inspect : ClientOption → String
  | .credentialsJson _ => Inspect.tagged "CredentialsJson" (Inspect.text redacted)
  | .applicationDefault credentialsFile =>
      Inspect.record "ApplicationDefault"
        [("credentials_file", Inspect.optionalText credentialsFile)]

end CloudBilling.Client.Gcp
