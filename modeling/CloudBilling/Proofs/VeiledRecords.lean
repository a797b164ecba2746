import CloudBilling.Integration.Legacy
import CloudBilling.Proofs.VeiledCredentials

/-!
# Reading veiled legacy records

A legacy record holds its secret in one field, which stands under a name in an object or at a place in
an array.  A record is read with that field veiled as it is read otherwise, or it cannot be read for
the same reason.  The exception is the key of a billing export, which must be a map: a text in its
place is quoted in the report of the fault, so only the texts of a map are veiled there.
-/

namespace CloudBilling

open Json (Value)
open Json.Value

/-! ## Layouts -/

namespace Integration.Legacy

namespace Layout

variable {ρ : Type} {layout : Layout ρ} {veilField : String → Value → Value} {image : ρ → ρ}

/-- The elements of a record that is written as an array, with its fields veiled. -/
def veilElements (veilField : String → Value → Value) :
    List (String × FieldReader ρ) → List Value → List Value
  | (name, _) :: fields, value :: rest => veilField name value :: veilElements veilField fields rest
  | _, rest => rest

/-- A record with its fields veiled, as an object or as an array. -/
def veil (layout : Layout ρ) (veilField : String → Value → Value) : Value → Value
  | .object entries => .object (Dict.mapValues veilField entries)
  | .array elements => .array (veilElements veilField layout.fields elements)
  | value => value

/-- A veiled field is read as the field is, and veiled in the record. -/
structure Veils (layout : Layout ρ) (veilField : String → Value → Value) (image : ρ → ρ) : Prop where
  blank : image layout.blank = layout.blank
  fields : ∀ field ∈ layout.fields, ∀ record value,
    field.2 (image record) (veilField field.1 value) = (field.2 record value).map image

theorem length_veilElements (fields : List (String × FieldReader ρ)) (elements : List Value) :
    (veilElements veilField fields elements).length = elements.length := by
  induction fields generalizing elements with
  | nil => cases elements <;> rfl
  | cons field fields ih =>
      cases elements with
      | nil => rfl
      | cons value rest => exact congrArg (· + 1) (ih rest)

theorem readElements_veiled {fields : List (String × FieldReader ρ)}
    (veiled : ∀ field ∈ fields, ∀ record value,
      field.2 (image record) (veilField field.1 value) = (field.2 record value).map image)
    (record : ρ) (elements : List Value) :
    readElements fields (image record) (veilElements veilField fields elements) =
      (readElements fields record elements).map (Prod.map image id) := by
  induction fields generalizing record elements with
  | nil => cases elements <;> rfl
  | cons field fields ih =>
      obtain ⟨here, later⟩ := List.forall_mem_cons.mp veiled
      cases elements with
      | nil => rfl
      | cons value rest =>
          rw [veilElements, readElements, readElements, here]
          cases field.2 record value with
          | error fault => rfl
          | ok changed => exact ih later changed rest

variable (veils : layout.Veils veilField image)

include veils

theorem readEntries_veiled (record : ρ) (entries : List (String × Value)) :
    layout.readEntries (image record) (Dict.mapValues veilField entries) =
      (layout.readEntries record entries).map image := by
  induction entries generalizing record with
  | nil => rfl
  | cons entry rest ih =>
      obtain ⟨name, value⟩ := entry
      rw [Dict.mapValues] at ih
      rw [Dict.mapValues, List.map_cons, readEntries, readEntries]
      cases found : layout.fields.lookup name with
      | none => exact ih record
      | some read =>
          obtain ⟨before, after, split, _⟩ := List.lookup_eq_some_iff.mp found
          have member : (name, read) ∈ layout.fields := by
            rw [split]
            exact List.mem_append_right before List.mem_cons_self
          have here : read (image record) (veilField name value) = (read record value).map image :=
            veils.fields (name, read) member record value
          simp only [here]
          cases read record value with
          | error fault => rfl
          | ok changed => exact ih changed

/-- A veiled record is read as the record is, with its secret veiled. -/
theorem read_veil (value : Value) :
    layout.read (layout.veil veilField value) = (layout.read value).map image := by
  cases value with
  | null | bool | number | string => rfl
  | object entries =>
      rw [veil, read, read, ← readEntries_veiled veils, veils.blank]
  | array elements =>
      have read := readElements_veiled veils.fields layout.blank elements
      rw [veils.blank] at read
      rw [veil, Layout.read, Layout.read, read, length_veilElements]
      cases readElements layout.fields layout.blank elements with
      | error fault => rfl
      | ok result =>
          obtain ⟨record, rest⟩ := result
          cases rest <;> rfl

end Layout

variable {ρ : Type} {image : ρ → ρ}

/-- A field beside the secret. -/
theorem textField_apart {change : ρ → String → ρ}
    (apart : ∀ record text, change (image record) text = image (change record text)) (record : ρ)
    (value : Value) :
    textField change (image record) value = (textField change record value).map image := by
  rw [textField, textField]
  cases Json.textOf value with
  | error fault => rfl
  | ok text => exact congrArg Except.ok (apart record text)

/-- A field with a secret. -/
theorem textField_veiled {change : ρ → String → ρ}
    (veiled : ∀ record text, change (image record) (veilText text) = image (change record text))
    (record : ρ) (value : Value) :
    textField change (image record) value.veilString = (textField change record value).map image := by
  cases value with
  | null | bool | number | array | object => rfl
  | string text => exact congrArg Except.ok (veiled record text)

/-- The texts of a map with one word in the place of each of them; a text by itself stays. -/
def veilKeyFile : Value → Value
  | .object entries => .object (Dict.mapValues (fun _ => veilString) entries)
  | value => value

theorem textEntries_veiled (entries : Dict Value) :
    textEntries (entries.mapValues fun _ => veilString) =
      (textEntries entries).map (Dict.mapValues fun _ => veilText) := by
  induction entries with
  | nil => rfl
  | cons entry rest ih =>
      obtain ⟨name, value⟩ := entry
      cases value with
      | null | bool | number | array | object => rfl
      | string text =>
          rw [Dict.mapValues] at ih
          rw [Dict.mapValues, List.map_cons, textEntries, textEntries, ih]
          cases textEntries rest <;> rfl

/-- A field with a key file. -/
theorem mapField_veiled {change : ρ → Dict String → ρ}
    (veiled : ∀ record texts,
      change (image record) (Dict.mapValues (fun _ => veilText) texts) = image (change record texts))
    (record : ρ) (value : Value) :
    mapField change (image record) (veilKeyFile value) =
      (mapField change record value).map image := by
  cases value with
  | null | bool | number | string | array => rfl
  | object entries =>
      simp only [veilKeyFile, mapField, textEntries_veiled]
      cases textEntries entries with
      | error fault => rfl
      | ok texts => exact congrArg Except.ok (veiled record texts)

/-! ## Records of every type -/

/-- The record with its secret veiled. -/
def AwsInfo.veil (info : AwsInfo) : AwsInfo :=
  { info with keySecret := veilText info.keySecret }

@[inherit_doc AwsInfo.veil]
def AlibabaInfo.veil (info : AlibabaInfo) : AlibabaInfo :=
  { info with keySecret := veilText info.keySecret }

@[inherit_doc AwsInfo.veil]
def BigQueryInfo.veil (info : BigQueryInfo) : BigQueryInfo :=
  { info with key := info.key.mapValues fun _ => veilText }

@[inherit_doc AwsInfo.veil]
def AzureInfo.veil (info : AzureInfo) : AzureInfo :=
  { info with accessKey := veilText info.accessKey }

namespace Form

/-- The name of the field in which a record has its secret. -/
def secretName : Form → String
  | .aws | .alibaba => "serviceKeySecret"
  | .bigQuery => "key"
  | .azure => "azureStorageAccessKey"

/-- A value of a record's field, veiled if it is the secret. -/
def veilField (form : Form) (name : String) (value : Value) : Value :=
  if name = form.secretName then
    match form with
    | .bigQuery => veilKeyFile value
    | .aws | .alibaba | .azure => value.veilString
  else value

/-- A record with its secret veiled. -/
def veil : Form → Value → Value
  | .aws => AwsInfo.layout.veil (veilField .aws)
  | .alibaba => AlibabaInfo.layout.veil (veilField .alibaba)
  | .bigQuery => BigQueryInfo.layout.veil (veilField .bigQuery)
  | .azure => AzureInfo.layout.veil (veilField .azure)

/-- A record that was read with its secret veiled. -/
def veilInfo : (form : Form) → form.Info → form.Info
  | .aws => AwsInfo.veil
  | .alibaba => AlibabaInfo.veil
  | .bigQuery => BigQueryInfo.veil
  | .azure => AzureInfo.veil

theorem veils_aws : AwsInfo.layout.Veils (veilField .aws) AwsInfo.veil := by
  constructor
  · rfl
  · simp only [AwsInfo.layout, List.forall_mem_cons]
    exact ⟨textField_apart fun _ _ => rfl, textField_apart fun _ _ => rfl,
      textField_apart fun _ _ => rfl, textField_apart fun _ _ => rfl,
      textField_apart fun _ _ => rfl, textField_apart fun _ _ => rfl,
      textField_veiled fun _ _ => rfl, textField_apart fun _ _ => rfl,
      textField_apart fun _ _ => rfl, List.forall_mem_nil _⟩

theorem veils_alibaba : AlibabaInfo.layout.Veils (veilField .alibaba) AlibabaInfo.veil := by
  constructor
  · rfl
  · simp only [AlibabaInfo.layout, List.forall_mem_cons]
    exact ⟨textField_apart fun _ _ => rfl, textField_apart fun _ _ => rfl,
      textField_apart fun _ _ => rfl, textField_veiled fun _ _ => rfl, List.forall_mem_nil _⟩

theorem veils_bigQuery : BigQueryInfo.layout.Veils (veilField .bigQuery) BigQueryInfo.veil := by
  constructor
  · rfl
  · simp only [BigQueryInfo.layout, List.forall_mem_cons]
    exact ⟨textField_apart fun _ _ => rfl, textField_apart fun _ _ => rfl,
      mapField_veiled fun _ _ => rfl, List.forall_mem_nil _⟩

theorem veils_azure : AzureInfo.layout.Veils (veilField .azure) AzureInfo.veil := by
  constructor
  · rfl
  · simp only [AzureInfo.layout, List.forall_mem_cons]
    exact ⟨textField_apart fun _ _ => rfl, textField_apart fun _ _ => rfl,
      textField_veiled fun _ _ => rfl, textField_apart fun _ _ => rfl,
      textField_apart fun _ _ => rfl, textField_apart fun _ _ => rfl, List.forall_mem_nil _⟩

theorem read_veil (form : Form) (value : Value) :
    form.read (form.veil value) = (form.read value).map form.veilInfo := by
  cases form with
  | aws => exact Layout.read_veil veils_aws value
  | alibaba => exact Layout.read_veil veils_alibaba value
  | bigQuery => exact Layout.read_veil veils_bigQuery value
  | azure => exact Layout.read_veil veils_azure value

end Form

end Integration.Legacy

/-! ## Integrations -/

namespace Integration

/-- A configuration with the secrets of its credential veiled. -/
def Config.veil (kind : Kind) (config : Config kind) : Config kind :=
  Record.withCredential ((Record.credential kind config).map (Credential.veil kind.provider)) kind
    config

/-- An integration with the secrets of its credential veiled. -/
def veil (integration : Integration) : Integration :=
  ⟨integration.kind, Config.veil integration.kind integration.config⟩

namespace Legacy

theorem AwsInfo.credential_veil (info : AwsInfo) : info.veil.credential = info.credential.redact := by
  simp only [credential, veil, veilText_eq_empty_iff]
  by_cases keyless : info.keyName = "" ∧ info.keySecret = ""
  · simp only [if_pos keyless]
    split <;> rfl
  · simp only [if_neg keyless]
    split <;> rfl

theorem AwsInfo.convert_veil (info : AwsInfo) :
    info.veil.convert = info.convert.map Integration.veil := by
  have same : info.veil = blank ↔ info = blank := by
    obtain ⟨⟩ := info
    simp [veil, blank]
  simp only [convert, same, credential_veil]
  split
  · rfl
  · by_cases queried : info.table ≠ "" ∨ info.database ≠ ""
    · have still : info.veil.table ≠ "" ∨ info.veil.database ≠ "" := queried
      rw [if_pos queried, if_pos still]
      rfl
    · have still : ¬ (info.veil.table ≠ "" ∨ info.veil.database ≠ "") := queried
      rw [if_neg queried, if_neg still]
      rfl

theorem AlibabaInfo.convert_veil (info : AlibabaInfo) :
    info.veil.convert = info.convert.map Integration.veil := by
  have same : info.veil = blank ↔ info = blank := by
    obtain ⟨⟩ := info
    simp [veil, blank]
  simp only [convert, same]
  split <;> rfl

theorem BigQueryInfo.convert_veil (info : BigQueryInfo) :
    info.veil.convert = info.convert.map Integration.veil := by
  have same : info.veil = blank ↔ info = blank := by
    obtain ⟨⟩ := info
    simp [veil, blank, Dict.mapValues]
  simp only [convert, same]
  split
  · rfl
  · simp only [veil, Dict.isEmpty_mapValues, Gcp.Key.ofEntries_veiled]
    by_cases keyless : info.key.isEmpty = true
    · simp only [if_pos keyless]
      rfl
    · simp only [if_neg keyless]
      rfl

theorem AzureInfo.convert_veil (info : AzureInfo) :
    info.veil.convert = info.convert.map Integration.veil := by
  have same : info.veil = blank ↔ info = blank := by
    obtain ⟨⟩ := info
    simp [veil, blank]
  simp only [convert, same]
  split <;> rfl

theorem Form.convert_veilInfo (form : Form) (info : form.Info) :
    form.convert (form.veilInfo info) = (form.convert info).map Integration.veil := by
  cases form with
  | aws => exact AwsInfo.convert_veil info
  | alibaba => exact AlibabaInfo.convert_veil info
  | bigQuery => exact BigQueryInfo.convert_veil info
  | azure => exact AzureInfo.convert_veil info

end Legacy

end Integration

end CloudBilling
