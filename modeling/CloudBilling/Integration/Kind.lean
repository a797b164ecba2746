import CloudBilling.Credential.Provider

/-!
# Kinds of integrations

An integration says where a provider keeps billing data and how to get at it. There are five
kinds; a kind decides the provider, the fields of the location, and the names that messages use.
-/

namespace CloudBilling.Integration

/-- A kind of integration. -/
inductive Kind where
  /-- Cost reports in a bucket. -/
  | s3
  /-- Cost reports behind a query service. -/
  | athena
  /-- A billing export in a data warehouse. -/
  | bigQuery
  /-- Cost exports in a storage container. -/
  | azureStorage
  /-- A billing interface of Alibaba. -/
  | alibaba
  deriving DecidableEq, Repr

namespace Kind

/-- Every kind, in the order in which documents are read. -/
def all : List Kind :=
  [.s3, .athena, .bigQuery, .azureStorage, .alibaba]

/-- The name of a kind in documents. -/
def name : Kind → String
  | .s3 => "s3"
  | .athena => "athena"
  | .bigQuery => "bigQuery"
  | .azureStorage => "azureStorage"
  | .alibaba => "alibaba"

/-- The kind with a given name. -/
def ofName? (name : String) : Option Kind :=
  all.find? fun kind => kind.name = name

/-- The provider whose credentials a kind uses. -/
def provider : Kind → Provider
  | .s3 | .athena => .aws
  | .bigQuery => .gcp
  | .azureStorage => .azure
  | .alibaba => .alibaba

/-- The name of a configuration of a kind in messages. -/
def typeName : Kind → String
  | .s3 => "S3Configuration"
  | .athena => "AthenaConfiguration"
  | .bigQuery => "BigQueryConfiguration"
  | .azureStorage => "AzureStorageConfiguration"
  | .alibaba => "BoaConfiguration"

/-- The name of a configuration in transit in messages. -/
def transferName (kind : Kind) : String :=
  kind.typeName ++ "DTO"

@[simp] theorem mem_all (kind : Kind) : kind ∈ all := by
  cases kind <;> decide

end Kind

end CloudBilling.Integration
