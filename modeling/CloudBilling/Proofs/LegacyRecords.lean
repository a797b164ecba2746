import CloudBilling.Integration.Legacy
import CloudBilling.Proofs.Validation
import Mathlib.Data.List.TakeWhile

/-!
# What legacy records are converted into

A legacy record is converted without being checked, so it depends on the record whether the
integration is valid.  Each type of record has its own condition for that.  The record of an AWS
account may stand for two kinds of integrations and for several credentials, and a record of a GCP
project names its dataset and its table in one text.
-/

namespace CloudBilling.Integration.Legacy

/-! ## Datasets and tables -/

/-- The parts of a text between its points. -/
def segments (text : String) : List String :=
  (text.toList.splitOn '.').map String.ofList

/-- There are a dataset and a table, and both have names. -/
def NamesTable : List String → Prop
  | dataset :: table :: _ => dataset ≠ "" ∧ table ≠ ""
  | _ => False

instance : (names : List String) → Decidable (NamesTable names)
  | [] | [_] => inferInstanceAs (Decidable False)
  | dataset :: table :: _ => inferInstanceAs (Decidable (dataset ≠ "" ∧ table ≠ ""))

namespace BigQueryInfo

theorem isSegmentChar_of_clear {chars : List Char} (clear : '.' ∉ chars) :
    ∀ c ∈ chars, isSegmentChar c = true := by
  intro c member
  exact decide_eq_true fun same => clear (same ▸ member)

theorem splitTable_of_clear {text : String} (clear : '.' ∉ text.toList) :
    splitTable text = (text, "") := by
  have inside := isSegmentChar_of_clear clear
  simp only [splitTable, List.takeWhile_eq_self_iff.mpr inside,
    List.dropWhile_eq_nil_iff.mpr inside, List.drop_nil, List.takeWhile_nil, String.ofList_toList,
    String.ofList_nil]

/-- Behind the first point a table is read as a dataset is before it. -/
theorem splitTable_append {dataset : String} (clear : '.' ∉ dataset.toList) (back : String) :
    splitTable (dataset ++ "." ++ back) = (dataset, (splitTable back).1) := by
  have inside := isSegmentChar_of_clear clear
  have chars : (dataset ++ "." ++ back).toList = dataset.toList ++ '.' :: back.toList := by simp
  simp only [splitTable, chars, List.takeWhile_append_of_pos inside,
    List.dropWhile_append_of_pos inside, List.takeWhile_cons, List.dropWhile_cons, isSegmentChar]
  simp

theorem segments_of_clear {text : String} (clear : '.' ∉ text.toList) : segments text = [text] := by
  rw [segments, List.splitOn_eq_singleton clear]
  simp

theorem segments_append {front : String} (clear : '.' ∉ front.toList) (back : String) :
    segments (front ++ "." ++ back) = front :: segments back := by
  have chars : (front ++ "." ++ back).toList = front.toList ++ '.' :: back.toList := by simp
  have apart : ∀ c ∈ front.toList, (c == '.') = false := by
    intro c member
    exact beq_false_of_ne fun same => clear (same ▸ member)
  rw [segments, chars, List.splitOn, List.splitOnP_append_cons_of_forall_mem apart _ (by simp)]
  simp [segments, List.splitOn]

/-- A text without a point, or what is around its first one. -/
theorem clear_or_exists_cut (text : String) :
    '.' ∉ text.toList ∨ ∃ front back, text = front ++ "." ++ back ∧ '.' ∉ front.toList := by
  by_cases inside : '.' ∈ text.toList
  · obtain ⟨front, back, parts, frontClear⟩ := List.eq_append_cons_of_mem inside
    refine .inr ⟨String.ofList front, String.ofList back, ?_, by simpa using frontClear⟩
    rw [← String.toList_inj, parts]
    simp
  · exact .inl inside

/-- A text has one segment, which is the dataset, or two, of which the second is the table, or there
is more behind these. -/
theorem splitTable_cases (text : String) :
    ∃ dataset table, splitTable text = (dataset, table) ∧
      '.' ∉ dataset.toList ∧ '.' ∉ table.toList ∧
      (text = dataset ∧ table = "" ∧ segments text = [dataset] ∨
        text = dataset ++ "." ++ table ∧ segments text = [dataset, table] ∨
        ∃ rest, text = dataset ++ "." ++ (table ++ "." ++ rest) ∧
          segments text = dataset :: table :: segments rest) := by
  rcases clear_or_exists_cut text with clear | ⟨dataset, back, rfl, datasetClear⟩
  · exact ⟨text, "", splitTable_of_clear clear, clear, by simp,
      .inl ⟨rfl, rfl, segments_of_clear clear⟩⟩
  · rw [splitTable_append datasetClear, segments_append datasetClear]
    rcases clear_or_exists_cut back with clear | ⟨table, rest, rfl, tableClear⟩
    · rw [splitTable_of_clear clear, segments_of_clear clear]
      exact ⟨dataset, back, rfl, datasetClear, clear, .inr (.inl ⟨rfl, rfl⟩)⟩
    · rw [splitTable_append tableClear, segments_append tableClear]
      exact ⟨dataset, table, rfl, datasetClear, tableClear, .inr (.inr ⟨rest, rfl, rfl⟩)⟩

theorem namesTable_segments_iff (text : String) :
    NamesTable (segments text) ↔ (splitTable text).1 ≠ "" ∧ (splitTable text).2 ≠ "" := by
  obtain ⟨dataset, table, split, _, _, parts⟩ := splitTable_cases text
  rw [split]
  rcases parts with ⟨_, noTable, one⟩ | ⟨_, two⟩ | ⟨rest, _, more⟩
  · simp [one, NamesTable, noTable]
  · simp [two, NamesTable]
  · simp [more, NamesTable]

theorem count_append (front back : String) :
    (front ++ "." ++ back).toList.count '.' =
      front.toList.count '.' + back.toList.count '.' + 1 := by
  simp
  omega

/-- The dataset and the table of a record are joined to what the record says exactly if that has one
point in it. -/
theorem qualified_eq_iff {text dataset table : String} (split : splitTable text = (dataset, table)) :
    dataset ++ "." ++ table = text ↔ text.toList.count '.' = 1 := by
  obtain ⟨_, _, same, datasetClear, tableClear, parts⟩ := splitTable_cases text
  cases split.symm.trans same
  have once : (dataset ++ "." ++ table).toList.count '.' = 1 := by
    rw [count_append, List.count_eq_zero.mpr datasetClear, List.count_eq_zero.mpr tableClear]
  constructor
  · rintro rfl
    exact once
  · intro counted
    rcases parts with ⟨alone, _, _⟩ | ⟨joined, _⟩ | ⟨rest, more, _⟩
    · rw [alone, List.count_eq_zero.mpr datasetClear] at counted
      cases counted
    · exact joined.symm
    · rw [more, count_append, count_append] at counted
      omega

end BigQueryInfo

/-! ## Conditions on records -/

namespace Form

/-- Every field of a record is empty. -/
def Empty : (form : Form) → form.Info → Prop
  | .aws => fun (info : AwsInfo) =>
      info.bucket = "" ∧ info.region = "" ∧ info.database = "" ∧ info.table = "" ∧
        info.workgroup = "" ∧ info.keyName = "" ∧ info.keySecret = "" ∧ info.account = "" ∧
        info.payerRole = ""
  | .alibaba => fun (info : AlibabaInfo) =>
      info.region = "" ∧ info.account = "" ∧ info.keyName = "" ∧ info.keySecret = ""
  | .bigQuery => fun (info : BigQueryInfo) =>
      info.projectId = "" ∧ info.billingTable = "" ∧ info.key = []
  | .azure => fun (info : AzureInfo) =>
      info.subscriptionId = "" ∧ info.account = "" ∧ info.accessKey = "" ∧ info.container = "" ∧
        info.path = "" ∧ info.cloud = ""

/-- There is in a record what its integration needs.  A database goes with a table, and the name of a
key with its secret: either both are there or neither is. -/
def Complete : (form : Form) → form.Info → Prop
  | .aws => fun (info : AwsInfo) =>
      info.bucket ≠ "" ∧ info.region ≠ "" ∧ info.account ≠ "" ∧
        (info.database = "" ↔ info.table = "") ∧ (info.keyName = "" ↔ info.keySecret = "")
  | .alibaba => fun (info : AlibabaInfo) =>
      info.region ≠ "" ∧ info.account ≠ "" ∧ info.keyName ≠ "" ∧ info.keySecret ≠ ""
  | .bigQuery => fun (info : BigQueryInfo) =>
      info.projectId ≠ "" ∧ info.key ≠ [] ∧ NamesTable (segments info.billingTable)
  | .azure => fun (info : AzureInfo) =>
      info.subscriptionId ≠ "" ∧ info.account ≠ "" ∧ info.accessKey ≠ "" ∧ info.container ≠ ""

instance : (form : Form) → (info : form.Info) → Decidable (form.Complete info)
  | .aws => fun (info : AwsInfo) => inferInstanceAs (Decidable (
      info.bucket ≠ "" ∧ info.region ≠ "" ∧ info.account ≠ "" ∧
        (info.database = "" ↔ info.table = "") ∧ (info.keyName = "" ↔ info.keySecret = "")))
  | .alibaba => fun (info : AlibabaInfo) => inferInstanceAs (Decidable (
      info.region ≠ "" ∧ info.account ≠ "" ∧ info.keyName ≠ "" ∧ info.keySecret ≠ ""))
  | .bigQuery => fun (info : BigQueryInfo) => inferInstanceAs (Decidable (
      info.projectId ≠ "" ∧ info.key ≠ [] ∧ NamesTable (segments info.billingTable)))
  | .azure => fun (info : AzureInfo) => inferInstanceAs (Decidable (
      info.subscriptionId ≠ "" ∧ info.account ≠ "" ∧ info.accessKey ≠ "" ∧ info.container ≠ ""))

theorem isBlank_iff_empty (form : Form) (info : form.Info) :
    form.isBlank info = true ↔ form.Empty info := by
  cases form with
  | aws =>
      obtain ⟨bucket, region, database, table, workgroup, keyName, keySecret, account, payerRole⟩ :=
        info
      simp [isBlank, Empty, AwsInfo.blank]
  | alibaba =>
      obtain ⟨region, account, keyName, keySecret⟩ := info
      simp [isBlank, Empty, AlibabaInfo.blank]
  | bigQuery =>
      obtain ⟨projectId, billingTable, key⟩ := info
      simp [isBlank, Empty, BigQueryInfo.blank]
  | azure =>
      obtain ⟨subscriptionId, account, accessKey, container, path, cloud⟩ := info
      simp [isBlank, Empty, AzureInfo.blank]

end Form

/-! ## Records of AWS accounts -/

/-- The AWS credential of an integration. -/
def awsCredential? : Integration → Option Aws.Credential
  | ⟨.s3, config⟩ => S3.credential config
  | ⟨.athena, config⟩ => Athena.credential config
  | _ => none

namespace AwsInfo

variable {info : AwsInfo}

/-- What a payer's role is laid around: the key, and without one the service account. -/
def direct (info : AwsInfo) : Aws.Credential :=
  if info.keyName = "" ∧ info.keySecret = "" then .serviceAccount
  else .accessKey ⟨info.keyName, info.keySecret⟩

theorem credential_eq (info : AwsInfo) :
    info.credential =
      if info.payerRole = "" then info.direct else .assumeRole (some info.direct) info.payerRole :=
  rfl

/-- The integration of a record with something in it. -/
def integration (info : AwsInfo) : Integration :=
  if info.table ≠ "" ∨ info.database ≠ "" then
    ⟨.athena, info.bucket, info.region, info.database, info.table, info.workgroup, info.account,
      some info.credential⟩
  else ⟨.s3, info.bucket, info.region, info.account, some info.credential⟩

theorem convert_eq (info : AwsInfo) :
    info.convert = if info = blank then none else some info.integration := by
  rw [convert, integration]
  split
  · rfl
  · split <;> rfl

theorem eq_integration_of_convert {integration : Integration}
    (converted : info.convert = some integration) : integration = info.integration := by
  rw [convert_eq] at converted
  split at converted
  · cases converted
  · exact (Option.some.inj converted).symm

/-- A role is not added to what is reported about the credential below it. -/
theorem validate_credential (info : AwsInfo) :
    info.credential.validate = info.direct.validate := by
  rw [credential_eq]
  split
  · rfl
  · next named =>
      rw [Aws.Credential.validate, requireField, if_neg named]
      cases info.direct.validate <;> rfl

theorem validate_direct_eq_ok_iff :
    info.direct.validate = .ok () ↔ (info.keyName = "" ↔ info.keySecret = "") := by
  rw [direct]
  split
  · next keyless => simp [Aws.Credential.validate, keyless]
  · next keyed =>
      rw [Aws.Credential.validate, Aws.AccessKey.validate_eq_ok_iff]
      grind

theorem roleArns_direct (info : AwsInfo) : info.direct.roleArns = [] := by
  rw [direct]
  split <;> rfl

theorem innermost_direct (info : AwsInfo) : info.direct.innermost = some info.direct := by
  rw [direct]
  split <;> rfl

theorem roleArns_credential (info : AwsInfo) :
    info.credential.roleArns = if info.payerRole = "" then [] else [info.payerRole] := by
  rw [credential_eq]
  split
  · exact roleArns_direct info
  · rw [Aws.Credential.roleArns, roleArns_direct]

theorem innermost_credential (info : AwsInfo) :
    info.credential.innermost = some info.direct := by
  rw [credential_eq]
  split <;> exact innermost_direct info

theorem awsCredential?_integration (info : AwsInfo) :
    awsCredential? info.integration = some info.credential := by
  rw [integration]
  split <;> rfl

theorem kind_integration (info : AwsInfo) :
    info.integration.kind = if info.table ≠ "" ∨ info.database ≠ "" then .athena else .s3 := by
  rw [integration]
  split <;> rfl

theorem key_integration (info : AwsInfo) :
    info.integration.key = info.account ++ "/" ++ info.bucket := by
  rw [integration]
  split <;> rfl

theorem validate_integration_eq_ok_iff (info : AwsInfo) :
    info.integration.validate = .ok () ↔ Form.aws.Complete info := by
  have key : info.credential.validate = .ok () ↔ (info.keyName = "" ↔ info.keySecret = "") := by
    rw [validate_credential, validate_direct_eq_ok_iff]
  rw [integration]
  split
  · next named =>
      refine Iff.trans (Config.validate_eq_ok_iff_of_credential rfl) ?_
      refine Iff.trans (and_congr_left' key) ?_
      simp only [Record.required, Athena.required, Form.Complete, List.forall_mem_cons]
      grind
  · next unnamed =>
      refine Iff.trans (Config.validate_eq_ok_iff_of_credential rfl) ?_
      refine Iff.trans (and_congr_left' key) ?_
      simp only [Record.required, S3.required, Form.Complete, List.forall_mem_cons]
      grind

/-- Whatever role is laid around its credential, the same is reported about an integration. -/
theorem validate_integration_of_role (info : AwsInfo) (payerRole : String) :
    ({ info with payerRole } : AwsInfo).integration.validate = info.integration.validate := by
  have sameReport : ({ info with payerRole } : AwsInfo).credential.validate =
      info.credential.validate :=
    (validate_credential { info with payerRole }).trans (validate_credential info).symm
  rw [integration, integration]
  split
  · exact Config.validate_congr rfl rfl sameReport rfl
  · exact Config.validate_congr rfl rfl sameReport rfl

end AwsInfo

/-! ## Records of GCP projects -/

namespace BigQueryInfo

/-- The credential of a record: its key, if there is something in that. -/
def credential? (info : BigQueryInfo) : Option Gcp.Credential :=
  if info.key.isEmpty then none else some (.key (.ofEntries info.key))

/-- The configuration of a record with something in it. -/
def config (info : BigQueryInfo) : Config .bigQuery :=
  let (dataset, table) := splitTable info.billingTable
  (⟨info.projectId, dataset, table, info.credential?⟩ : BigQuery Gcp.Credential)

theorem convert_eq (info : BigQueryInfo) :
    info.convert = if info = blank then none else some ⟨.bigQuery, info.config⟩ := by
  rw [convert]
  split <;> rfl

theorem validate_config_eq_ok_iff (info : BigQueryInfo) :
    Config.validate .bigQuery info.config = .ok () ↔ Form.bigQuery.Complete info := by
  have tables := namesTable_segments_iff info.billingTable
  by_cases keyless : info.key = []
  · have absent : Record.credential .bigQuery info.config = none :=
      if_pos (List.isEmpty_iff.mpr keyless)
    simp [Config.validate_eq_ok_iff, absent, Form.Complete, keyless]
  · have held : Record.credential .bigQuery info.config = some (.key (.ofEntries info.key)) :=
      if_neg (List.isEmpty_iff.not.mpr keyless)
    have key : (Gcp.Key.ofEntries info.key).validate = .ok () ↔ info.key ≠ [] :=
      Gcp.Key.validate_eq_ok_iff.trans Dict.ofEntries_eq_nil_iff.not
    refine Iff.trans (Config.validate_eq_ok_iff_of_credential held) ?_
    refine Iff.trans (and_congr_left' key) ?_
    simp only [Record.required, BigQuery.required, Form.Complete, List.forall_mem_cons, tables]
    change _ ∧ info.projectId ≠ "" ∧ (splitTable info.billingTable).1 ≠ "" ∧
      (splitTable info.billingTable).2 ≠ "" ∧ _ ↔ _
    grind

/-- A record with something in it names the dataset up to the first point and the table from there to
the second point, or to the end if there is none; without a point it names no table.  Joined again,
they are what the record says exactly if that has one point in it. -/
theorem convert_splits_table {info : BigQueryInfo} (filled : info ≠ blank) :
    ∃ config : BigQuery Gcp.Credential, info.convert = some ⟨.bigQuery, config⟩ ∧
      '.' ∉ config.dataset.toList ∧ '.' ∉ config.table.toList ∧
      (info.billingTable = config.dataset ∧ config.table = "" ∨
        info.billingTable = config.dataset ++ "." ++ config.table ∨
        ∃ rest, info.billingTable = config.dataset ++ "." ++ (config.table ++ "." ++ rest)) ∧
      (config.qualifiedTable = info.billingTable ↔ info.billingTable.toList.count '.' = 1) := by
  obtain ⟨dataset, table, split, datasetClear, tableClear, parts⟩ :=
    splitTable_cases info.billingTable
  refine ⟨⟨info.projectId, dataset, table, info.credential?⟩, ?_, datasetClear, tableClear, ?_,
    qualified_eq_iff split⟩
  · rw [convert_eq, if_neg filled, config, split]
  · rcases parts with ⟨alone, noTable, _⟩ | ⟨joined, _⟩ | ⟨rest, more, _⟩
    · exact .inl ⟨alone, noTable⟩
    · exact .inr (.inl joined)
    · exact .inr (.inr ⟨rest, more⟩)

/-- What is behind a second point is lost, and the table before it may have no name. -/
theorem convert_splits_table_empty_segment :
    let info : BigQueryInfo := ⟨"project", "billing..v1", []⟩
    let config : BigQuery Gcp.Credential := ⟨"project", "billing", "", none⟩
    info ≠ blank ∧ info.convert = some ⟨.bigQuery, config⟩ ∧ '.' ∉ config.dataset.toList ∧
      config.qualifiedTable ≠ info.billingTable := by
  intro info config
  have filled : info ≠ blank := by decide
  have expected : info.convert = some ⟨.bigQuery, config⟩ := by decide
  have points : info.billingTable.toList.count '.' ≠ 1 := by decide
  obtain ⟨found, converted, clear, _, _, qualified⟩ := convert_splits_table filled
  have same : found = config := by
    cases converted.symm.trans expected
    rfl
  subst same
  exact ⟨filled, converted, clear, fun joined => points (qualified.mp joined)⟩

end BigQueryInfo

/-! ## Records of every type -/

section

variable {integration : Integration}

theorem AlibabaInfo.validate_of_convert {info : AlibabaInfo}
    (converted : info.convert = some integration) :
    integration.validate = .ok () ↔ Form.alibaba.Complete info := by
  rw [convert] at converted
  split at converted
  · cases converted
  · cases converted
    refine Iff.trans (Config.validate_eq_ok_iff_of_credential rfl) ?_
    refine Iff.trans (and_congr_left' Alibaba.AccessKey.validate_eq_ok_iff) ?_
    simp only [Record.required, BillingApi.required, Form.Complete, List.forall_mem_cons]
    grind

theorem BigQueryInfo.validate_of_convert {info : BigQueryInfo}
    (converted : info.convert = some integration) :
    integration.validate = .ok () ↔ Form.bigQuery.Complete info := by
  rw [convert_eq] at converted
  split at converted
  · cases converted
  · cases converted
    exact validate_config_eq_ok_iff info

theorem AzureInfo.validate_of_convert {info : AzureInfo}
    (converted : info.convert = some integration) :
    integration.validate = .ok () ↔ Form.azure.Complete info := by
  rw [convert] at converted
  split at converted
  · cases converted
  · cases converted
    refine Iff.trans (Config.validate_eq_ok_iff_of_credential rfl) ?_
    refine Iff.trans (and_congr_left' Azure.AccessKey.validate_eq_ok_iff) ?_
    simp only [Record.required, AzureStorage.required, Form.Complete, List.forall_mem_cons]
    grind

/-- The integration of a record is valid exactly if the record is complete. -/
theorem Form.validate_of_convert {form : Form} {info : form.Info}
    (converted : form.convert info = some integration) :
    integration.validate = .ok () ↔ form.Complete info := by
  cases form with
  | aws =>
      rw [AwsInfo.eq_integration_of_convert converted]
      exact AwsInfo.validate_integration_eq_ok_iff info
  | alibaba => exact AlibabaInfo.validate_of_convert converted
  | bigQuery => exact BigQueryInfo.validate_of_convert converted
  | azure => exact AzureInfo.validate_of_convert converted

end

/-- A record has no integration exactly if every field of it is empty, and otherwise the integration
is valid exactly if the record is complete.  The integration of an AWS account is a query service if a
database or a table is named and a bucket otherwise, with one key.  Its credential is the key or else
the service account, under the payer's role if there is one and under no other, and whatever that
role is, the same is reported about the integration. -/
theorem Form.valid_iff_complete :
    (∀ (form : Form) (info : form.Info),
      (form.convert info = none ↔ form.Empty info) ∧
      ∀ integration, form.convert info = some integration →
        (integration.validate = .ok () ↔ form.Complete info)) ∧
    ∀ (info : AwsInfo) (integration : Integration), info.convert = some integration →
      integration.kind =
        (if info.database ≠ "" ∨ info.table ≠ "" then Kind.athena else Kind.s3) ∧
      integration.key = info.account ++ "/" ++ info.bucket ∧
      (∃ credential, awsCredential? integration = some credential ∧
        credential.roleArns = (if info.payerRole = "" then [] else [info.payerRole]) ∧
        credential.innermost = some (if info.keyName = "" ∧ info.keySecret = "" then .serviceAccount
          else .accessKey ⟨info.keyName, info.keySecret⟩)) ∧
      ∀ payerRole other, AwsInfo.convert { info with payerRole } = some other →
        other.validate = integration.validate := by
  constructor
  · intro form info
    exact ⟨(form.convert_eq_none_iff info).trans (form.isBlank_iff_empty info),
      fun integration => Form.validate_of_convert⟩
  · intro info integration converted
    cases AwsInfo.eq_integration_of_convert converted
    refine ⟨?_, AwsInfo.key_integration info, ?_, ?_⟩
    · rw [AwsInfo.kind_integration]
      simp only [or_comm]
    · exact ⟨info.credential, AwsInfo.awsCredential?_integration info,
        AwsInfo.roleArns_credential info, AwsInfo.innermost_credential info⟩
    · intro payerRole other otherConverted
      rw [AwsInfo.eq_integration_of_convert otherConverted]
      exact AwsInfo.validate_integration_of_role info payerRole

/-- A secret without the name of its key is no key, under a payer's role or not. -/
theorem Form.valid_iff_complete_unnamed_key :
    let info : AwsInfo := ⟨"s3://reports", "eu-west-1", "", "", "", "", "secret", "123", "payer"⟩
    let key : Aws.Credential := .accessKey ⟨"", "secret"⟩
    let bucket (credential : Aws.Credential) : Integration :=
      ⟨.s3, "s3://reports", "eu-west-1", "123", some credential⟩
    (info.convert = some (bucket (.assumeRole (some key) "payer")) ∧
      (bucket (.assumeRole (some key) "payer")).validate ≠ .ok ()) ∧
      ({ info with payerRole := "" } : AwsInfo).convert = some (bucket key) ∧
      (bucket key).validate = (bucket (.assumeRole (some key) "payer")).validate := by
  intro info key bucket
  obtain ⟨records, accounts⟩ := Form.valid_iff_complete
  have converted : info.convert = some (bucket (.assumeRole (some key) "payer")) := by decide
  have roleless : ({ info with payerRole := "" } : AwsInfo).convert = some (bucket key) := by decide
  have incomplete : ¬Form.aws.Complete info := by decide
  refine ⟨⟨converted, fun valid => incomplete (((records .aws info).2 _ converted).mp valid)⟩,
    roleless, ?_⟩
  exact (accounts info _ converted).2.2.2 "" _ roleless

end CloudBilling.Integration.Legacy
