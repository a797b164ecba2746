import CloudBilling.Integration.Legacy.Records

/-!
# Legacy records of every type

One interface to the four types of legacy records.
-/

namespace CloudBilling.Integration.Legacy

open Json (Value Fault)

/-- The types of legacy records. -/
inductive Form where
  | aws
  | alibaba
  | bigQuery
  | azure
  deriving DecidableEq, Repr

namespace Form

/-- Every type, in the order in which documents are read. -/
def all : List Form :=
  [.aws, .alibaba, .bigQuery, .azure]

/-- The name of a type in documents. -/
def name : Form → String
  | .aws => "awsAthenaInfo"
  | .alibaba => "alibabaInfo"
  | .bigQuery => "bigQueryConfig"
  | .azure => "azureStorageConfig"

/-- The type with a given name. -/
def ofName? (name : String) : Option Form :=
  all.find? fun form => form.name = name

/-- The records of a type. -/
abbrev Info : Form → Type
  | .aws => AwsInfo
  | .alibaba => AlibabaInfo
  | .bigQuery => BigQueryInfo
  | .azure => AzureInfo

/-- Read a record out of a value. -/
def read : (form : Form) → Value → Except Fault form.Info
  | .aws => AwsInfo.layout.read
  | .alibaba => AlibabaInfo.layout.read
  | .bigQuery => BigQueryInfo.layout.read
  | .azure => AzureInfo.layout.read

/-- Whether everything in a record is empty. -/
def isBlank : (form : Form) → form.Info → Bool
  | .aws => fun info => info = AwsInfo.blank
  | .alibaba => fun info => info = AlibabaInfo.blank
  | .bigQuery => fun info => info = BigQueryInfo.blank
  | .azure => fun info => info = AzureInfo.blank

/-- A record as a value. -/
def toValue : (form : Form) → form.Info → Value
  | .aws => AwsInfo.toValue
  | .alibaba => AlibabaInfo.toValue
  | .bigQuery => BigQueryInfo.toValue
  | .azure => AzureInfo.toValue

/-- The integration of a record. -/
def convert : (form : Form) → form.Info → Option Integration
  | .aws => AwsInfo.convert
  | .alibaba => AlibabaInfo.convert
  | .bigQuery => BigQueryInfo.convert
  | .azure => AzureInfo.convert

@[simp] theorem mem_all (form : Form) : form ∈ all := by
  cases form <;> decide

/-- A record is converted exactly if there is something in it. -/
theorem convert_eq_none_iff (form : Form) (info : form.Info) :
    form.convert info = none ↔ form.isBlank info = true := by
  cases form with
  | aws =>
      simp only [convert, AwsInfo.convert, isBlank]
      split <;> simp [*]
      split <;> simp
  | alibaba => simp [convert, AlibabaInfo.convert, isBlank]
  | bigQuery => simp [convert, BigQueryInfo.convert, isBlank]
  | azure => simp [convert, AzureInfo.convert, isBlank]

end Form

end CloudBilling.Integration.Legacy
