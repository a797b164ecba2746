import CloudBilling.Client.Alibaba
import CloudBilling.Client.Aws
import CloudBilling.Client.Azure
import CloudBilling.Client.Gcp
import CloudBilling.Credential

/-!
# Client settings of every provider

Each provider's clients need their own settings. This module builds them from a credential of
the provider; the region matters to AWS alone.
-/

namespace CloudBilling.Client

/-- The settings of a provider's clients. -/
abbrev Settings : Provider → Type
  | .aws => Aws.Settings
  | .azure => Azure.SharedKey
  | .gcp => Gcp.ClientOption
  | .alibaba => Alibaba.SigningKey

/-- The settings of a client that uses a credential. -/
def create (region : String) (surroundings : Surroundings) :
    (provider : Provider) → Credential provider → Builder (Settings provider)
  | .aws => Aws.create region surroundings
  | .azure => Azure.create surroundings
  | .gcp => Gcp.create surroundings
  | .alibaba => Alibaba.create surroundings

/-- The inspection text of settings. -/
def inspect : (provider : Provider) → Settings provider → String
  | .aws => Aws.Settings.inspect
  | .azure => Azure.SharedKey.inspect
  | .gcp => Gcp.ClientOption.inspect
  | .alibaba => Alibaba.SigningKey.inspect

end CloudBilling.Client
