import CloudBilling.Integration.Entry
import CloudBilling.Integration.Legacy.Layout

/-!
# Legacy records

The flat records of an older document format, one type for each provider. A record in which
everything is empty stands for no integration; every other one is converted into one, whether or
not that is valid.
-/

namespace CloudBilling.Integration.Legacy

open Json (Value)

/-- The billing data of an AWS account. -/
structure AwsInfo where
  bucket : String
  region : String
  database : String
  table : String
  workgroup : String
  keyName : String
  keySecret : String
  account : String
  payerRole : String
  deriving DecidableEq, Repr

namespace AwsInfo

def blank : AwsInfo :=
  ⟨"", "", "", "", "", "", "", "", ""⟩

/-- The fields of a record in documents. -/
def layout : Layout AwsInfo where
  typeName := "AwsAthenaInfo"
  blank := blank
  fields :=
    [("athenaBucketName", textField fun info bucket => { info with bucket }),
     ("athenaRegion", textField fun info region => { info with region }),
     ("athenaDatabase", textField fun info database => { info with database }),
     ("athenaTable", textField fun info table => { info with table }),
     ("athenaWorkgroup", textField fun info workgroup => { info with workgroup }),
     ("serviceKeyName", textField fun info keyName => { info with keyName }),
     ("serviceKeySecret", textField fun info keySecret => { info with keySecret }),
     ("accountID", textField fun info account => { info with account }),
     ("masterPayerARN", textField fun info payerRole => { info with payerRole })]

/-- The record as a value. -/
def toValue (info : AwsInfo) : Value :=
  .object
    [("athenaBucketName", .string info.bucket), ("athenaRegion", .string info.region),
     ("athenaDatabase", .string info.database), ("athenaTable", .string info.table),
     ("athenaWorkgroup", .string info.workgroup), ("serviceKeyName", .string info.keyName),
     ("serviceKeySecret", .string info.keySecret), ("accountID", .string info.account),
     ("masterPayerARN", .string info.payerRole)]

/-- The credential of a record: without a key it is the service account, and a payer's role is
laid around it. -/
def credential (info : AwsInfo) : Aws.Credential :=
  let direct : Aws.Credential :=
    if info.keyName = "" ∧ info.keySecret = "" then .serviceAccount
    else .accessKey ⟨info.keyName, info.keySecret⟩
  if info.payerRole = "" then direct else .assumeRole (some direct) info.payerRole

/-- The integration of a record: a query service if a database or a table is named, and else a
bucket. -/
def convert (info : AwsInfo) : Option Integration :=
  if info = blank then none
  else if info.table ≠ "" ∨ info.database ≠ "" then
    let config : Athena Aws.Credential :=
      { bucket := info.bucket, region := info.region, database := info.database,
        table := info.table, workgroup := info.workgroup, account := info.account,
        credential := some info.credential }
    some ⟨.athena, config⟩
  else
    let config : S3 Aws.Credential :=
      { bucket := info.bucket, region := info.region, account := info.account,
        credential := some info.credential }
    some ⟨.s3, config⟩

end AwsInfo

/-- The billing interface of an Alibaba account. -/
structure AlibabaInfo where
  region : String
  account : String
  keyName : String
  keySecret : String
  deriving DecidableEq, Repr

namespace AlibabaInfo

def blank : AlibabaInfo :=
  ⟨"", "", "", ""⟩

/-- The fields of a record in documents. -/
def layout : Layout AlibabaInfo where
  typeName := "AlibabaInfo"
  blank := blank
  fields :=
    [("clusterRegion", textField fun info region => { info with region }),
     ("accountID", textField fun info account => { info with account }),
     ("serviceKeyName", textField fun info keyName => { info with keyName }),
     ("serviceKeySecret", textField fun info keySecret => { info with keySecret })]

/-- The record as a value. -/
def toValue (info : AlibabaInfo) : Value :=
  .object
    [("clusterRegion", .string info.region), ("accountID", .string info.account),
     ("serviceKeyName", .string info.keyName), ("serviceKeySecret", .string info.keySecret)]

/-- The integration of a record. -/
def convert (info : AlibabaInfo) : Option Integration :=
  if info = blank then none
  else
    let config : BillingApi Alibaba.Credential :=
      { account := info.account, region := info.region,
        credential := some (.accessKey ⟨info.keyName, info.keySecret⟩) }
    some ⟨.alibaba, config⟩

end AlibabaInfo

/-- The billing export of a GCP project. -/
structure BigQueryInfo where
  projectId : String
  /-- The dataset and the table, with a point between them. -/
  billingTable : String
  /-- The key file of a service account. -/
  key : Dict String
  deriving DecidableEq, Repr

namespace BigQueryInfo

def blank : BigQueryInfo :=
  ⟨"", "", []⟩

/-- The fields of a record in documents. -/
def layout : Layout BigQueryInfo where
  typeName := "BigQueryConfig"
  blank := blank
  fields :=
    [("projectID", textField fun info projectId => { info with projectId }),
     ("billingDataDataset", textField fun info billingTable => { info with billingTable }),
     ("key", mapField fun info key => { info with key })]

/-- The record as a value. -/
def toValue (info : BigQueryInfo) : Value :=
  .object
    [("projectID", .string info.projectId), ("billingDataDataset", .string info.billingTable),
     ("key", .object (info.key.map fun entry => (entry.1, .string entry.2)))]

/-- Whether a character is part of a segment between points. -/
def isSegmentChar (c : Char) : Bool :=
  c ≠ '.'

/-- The part of a text before its first point, and the part between its first two points; what
follows the second point is ignored. -/
def splitTable (text : String) : String × String :=
  let chars := text.toList
  let dataset := chars.takeWhile isSegmentChar
  let table := ((chars.dropWhile isSegmentChar).drop 1).takeWhile isSegmentChar
  (String.ofList dataset, String.ofList table)

/-- The integration of a record; without a key it has no credential. -/
def convert (info : BigQueryInfo) : Option Integration :=
  if info = blank then none
  else
    let (dataset, table) := splitTable info.billingTable
    let config : BigQuery Gcp.Credential :=
      { projectId := info.projectId, dataset, table,
        credential := if info.key.isEmpty then none else some (.key (.ofEntries info.key)) }
    some ⟨.bigQuery, config⟩

end BigQueryInfo

/-- The storage container of an Azure account. -/
structure AzureInfo where
  subscriptionId : String
  account : String
  accessKey : String
  container : String
  path : String
  cloud : String
  deriving DecidableEq, Repr

namespace AzureInfo

def blank : AzureInfo :=
  ⟨"", "", "", "", "", ""⟩

/-- The fields of a record in documents. -/
def layout : Layout AzureInfo where
  typeName := "AzureStorageConfig"
  blank := blank
  fields :=
    [("azureSubscriptionID", textField fun info subscriptionId => { info with subscriptionId }),
     ("azureStorageAccount", textField fun info account => { info with account }),
     ("azureStorageAccessKey", textField fun info accessKey => { info with accessKey }),
     ("azureStorageContainer", textField fun info container => { info with container }),
     ("azureContainerPath", textField fun info path => { info with path }),
     ("azureCloud", textField fun info cloud => { info with cloud })]

/-- The record as a value. -/
def toValue (info : AzureInfo) : Value :=
  .object
    [("azureSubscriptionID", .string info.subscriptionId),
     ("azureStorageAccount", .string info.account),
     ("azureStorageAccessKey", .string info.accessKey),
     ("azureStorageContainer", .string info.container),
     ("azureContainerPath", .string info.path), ("azureCloud", .string info.cloud)]

/-- The integration of a record. -/
def convert (info : AzureInfo) : Option Integration :=
  if info = blank then none
  else
    let config : AzureStorage Azure.Credential :=
      { subscriptionId := info.subscriptionId, account := info.account,
        container := info.container, path := info.path, cloud := info.cloud,
        credential := some (.accessKey ⟨info.accessKey, info.account⟩) }
    some ⟨.azureStorage, config⟩

end AzureInfo

end CloudBilling.Integration.Legacy
