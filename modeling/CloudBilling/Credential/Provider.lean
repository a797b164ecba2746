/-!
# Cloud providers

The four providers, with the names under which their credentials appear in messages, the tags
of their credentials, and the keys by which an untagged map is recognized.
-/

namespace CloudBilling

/-- A cloud provider. -/
inductive Provider where
  | aws
  | azure
  | gcp
  | alibaba
  deriving DecidableEq, Repr

namespace Provider

/-- The name of a provider's credentials in messages. -/
def typeName : Provider → String
  | .aws => "AWSConfigurer"
  | .azure => "AzureConfigurer"
  | .gcp => "GCPConfigurer"
  | .alibaba => "AlibabaConfigurer"

/-- The name of the envelopes of a provider's credentials in messages. -/
def envelopeName : Provider → String
  | .aws => "AWSConfigurerDTO"
  | .azure => "AzureConfigurerDTO"
  | .gcp => "GCPConfigurerDTO"
  | .alibaba => "AlibabaConfigurerDTO"

/-- The tags of a provider's credentials. -/
def tags : Provider → List String
  | .aws => ["AWSAccessKey", "AWSServiceAccount", "AWSAssumeRole"]
  | .azure => ["AzureAccessKey"]
  | .gcp => ["GCPAccessKey", "GCPWorkLoadIdentity"]
  | .alibaba => ["AlibabaAccessKey"]

/-- The keys that decide how a map is read before its tag does. -/
def shapeKeys : Provider → List String
  | .aws => ["roleARN", "id"]
  | .azure => ["accessKey", "accesskey"]
  | .gcp => ["key"]
  | .alibaba => ["id"]

end Provider

end CloudBilling
