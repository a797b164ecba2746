import CloudBilling.Integration.Document
import CloudBilling.Proofs.Record
import CloudBilling.Proofs.VeiledRecords

/-!
# Loading documents without logging secrets

A document with its secrets veiled is decoded to the entries of the document with their secrets
veiled, or it fails alike, and loading logs the same events for both.  So documents that differ in
nothing but secrets that are not empty are logged alike.  The key of a legacy billing export is an
exception where it is a text: a key file is a map, and the report of the fault quotes what was found.
-/

namespace CloudBilling

open Json (Value present?)
open Json.Value

variable {α β : Type}

/-! ## Steps -/

theorem Attempt.ofLogged_map (image : α → β) (logged : Logged Event α) :
    (liftM (image <$> logged) : Decoder β) = image <$> liftM logged := by
  obtain ⟨value, notes⟩ := logged
  rw [Logged.map_mk]
  exact (map_ok image value notes).symm

/-- A step for each item, each with its value changed, is the steps with all their values changed. -/
theorem Attempt.mapM_eq_map {σ : Type} {former latter : σ → Decoder α} {image : α → α}
    (each : ∀ item, latter item = image <$> former item) (items : List σ) :
    items.mapM latter = List.map image <$> items.mapM former := by
  induction items with
  | nil => rfl
  | cons item rest ih =>
      rw [List.mapM_cons, List.mapM_cons, each, ih]
      simp

namespace Integration

/-! ## Configurations -/

/-- What stands under a name in the map of a configuration, with the secrets of its credential
veiled. -/
def veilEntry (name : String) (value : Value) : Value :=
  if name = "configurer" then value.veil else value

/-- A configuration with the secrets of its credential veiled. -/
def veilConfig : Value → Value
  | .object entries => .object (Dict.mapValues veilEntry entries)
  | value => value

theorem readCredential_veiled (provider : Provider) (entries : Dict Value) :
    readCredential provider (entries.mapValues veilEntry) =
      Option.map (Credential.veil provider) <$> readCredential provider entries := by
  have placed : present? (entries.mapValues veilEntry) "configurer" =
      (present? entries "configurer").map Value.veil :=
    Json.present?_mapValues keepsKind_veil
  simp only [readCredential, Json.optionalField_any, Attempt.liftM_ok, pure_bind, placed]
  cases present? entries "configurer" with
  | none => rfl
  | some value => exact Credential.decodeAt_veil provider 0 value

theorem fieldsOf_veiled (kind : Kind) (entries : Dict Value) :
    Record.fieldsOf kind (entries.mapValues veilEntry) = Record.fieldsOf kind entries := by
  apply Record.fieldsOf_congr
  intro key other
  have fixed : veilEntry key = id := funext fun value => if_neg other
  rw [Dict.get?_mapValues, fixed, Option.map_id_fun, id]

theorem Config.decode_veilConfig (kind : Kind) (value : Value) :
    Config.decode kind (veilConfig value) = Config.veil kind <$> Config.decode kind value := by
  cases value with
  | null | bool | number | string | array => rfl
  | object entries =>
      have read (entries : Dict Value) : Config.decode kind (.object entries) =
          Attempt.within kind.typeName
            (Record.ofMap (readCredential kind.provider) kind entries) := rfl
      rw [veilConfig, read, read, Record.ofMap_eq, Record.ofMap_eq, fieldsOf_veiled,
        readCredential_veiled, Attempt.map_within]
      simp [Config.veil]

namespace Document

/-! ## Sections -/

/-- A value with its elements changed, if it is an array. -/
def mapElements (change : Value → Value) : Value → Value
  | .array elements => .array (elements.map change)
  | value => value

theorem keepsKind_mapElements (change : Value → Value) : Json.KeepsKind (mapElements change) := by
  intro value
  cases value <;> rfl

theorem array?_mapElements (change : Value → Value) (value : Value) :
    (mapElements change value).array? = value.array?.map (List.map change) := by
  cases value <;> rfl

section

variable {decode : Value → Decoder α} {image : α → α} {change : Value → Value}
variable (veiled : ∀ value, decode (change value) = image <$> decode value)

include veiled

theorem decodeFrom_veiled (name : String) (index : Nat) (values : List Value) :
    decodeFrom name decode index (values.map change) =
      List.map image <$> decodeFrom name decode index values := by
  induction values generalizing index with
  | nil => rfl
  | cons value rest ih =>
      rw [List.map_cons, decodeFrom, decodeFrom, veiled]
      cases reached : (decode value).outcome with
      | ok content => simp [Attempt.settle, reached, Except.map, Logged.mk_bind, Logged.map_mk, ih]
      | error failure => simp [Attempt.settle, reached, Except.map, Logged.mk_bind, Logged.map_mk, ih]

theorem decodeSection_veiled {changes : String → Value → Value} {name : String}
    (changed : changes name = mapElements change) (entries : Dict Value) :
    decodeSection name decode (entries.mapValues changes) =
      List.map image <$> decodeSection name decode entries := by
  have listed : sectionOf (entries.mapValues changes) name =
      (sectionOf entries name).map (List.map change) := by
    have keeps : Json.KeepsKind (changes name) := by
      rw [changed]
      exact keepsKind_mapElements change
    have viewed : ∀ value, Json.Shape.array.view (changes name value) =
        (Json.Shape.array.view value).map (List.map change) := by
      rw [changed]
      exact array?_mapElements change
    rw [sectionOf, sectionOf, Json.optionalField_mapValues keeps viewed]
    cases Json.optionalField .array entries name with
    | error failure => rfl
    | ok values => cases values <;> rfl
  rw [decodeSection, decodeSection, listed]
  cases sectionOf entries name with
  | error failure => rfl
  | ok values =>
      simp only [Except.map, Attempt.liftM_ok, pure_bind, decodeFrom_veiled veiled]
      exact Attempt.ofLogged_map _ _

end

theorem decodeKind_veiled {changes : String → Value → Value} {kind : Kind}
    (changed : changes kind.name = mapElements veilConfig) (entries : Dict Value) :
    decodeKind (entries.mapValues changes) kind =
      List.map Integration.veil <$> decodeKind entries kind := by
  rw [decodeKind, decodeKind, decodeSection_veiled (Config.decode_veilConfig kind) changed]
  simp [Function.comp_def, Integration.veil]

theorem decodeRecord_veil (form : Legacy.Form) (value : Value) :
    decodeRecord form (form.veil value) = form.veilInfo <$> decodeRecord form value := by
  rw [decodeRecord, decodeRecord, form.read_veil]
  cases form.read value <;> rfl

theorem decodeForm_veiled {changes : String → Value → Value} {form : Legacy.Form}
    (changed : changes form.name = mapElements form.veil) (sections : Dict Value) :
    decodeForm (sections.mapValues changes) form =
      List.map Integration.veil <$> decodeForm sections form := by
  have converted (infos : List form.Info) :
      (infos.map form.veilInfo).filterMap form.convert =
        (infos.filterMap form.convert).map Integration.veil := by
    rw [List.filterMap_map, List.map_filterMap]
    congr 1
    funext info
    exact form.convert_veilInfo info
  rw [decodeForm, decodeForm, decodeSection_veiled (decodeRecord_veil form) changed]
  simp [converted]

/-! ## Documents -/

/-- What stands under a name among the legacy sections, with every secret veiled. -/
def veilLegacySection (name : String) (value : Value) : Value :=
  match Legacy.Form.ofName? name with
  | some form => mapElements form.veil value
  | none => value

/-- The legacy sections with every secret veiled. -/
def veilLegacy : Value → Value
  | .object sections => .object (Dict.mapValues veilLegacySection sections)
  | value => value

/-- What stands under a name in a document, with every secret veiled. -/
def veilSection (name : String) (value : Value) : Value :=
  match Kind.ofName? name with
  | some _ => mapElements veilConfig value
  | none => if name = "legacy" then veilLegacy value else value

/-- A document with every secret veiled. -/
def veil : Value → Value
  | .object entries => .object (Dict.mapValues veilSection entries)
  | value => value

theorem keepsKind_veilLegacy : Json.KeepsKind veilLegacy := by
  intro value
  cases value <;> rfl

theorem object?_veilLegacy (value : Value) :
    (veilLegacy value).object? = value.object?.map (Dict.mapValues veilLegacySection) := by
  cases value <;> rfl

theorem decodeLegacy_veiled (entries : Dict Value) :
    decodeLegacy (entries.mapValues veilSection) =
      List.map Integration.veil <$> decodeLegacy entries := by
  have legacy : Json.optionalField .map (entries.mapValues veilSection) "legacy" =
      (Json.optionalField .map entries "legacy").map
        (Option.map (Dict.mapValues veilLegacySection)) :=
    Json.optionalField_mapValues keepsKind_veilLegacy object?_veilLegacy
  have forms (sections : Dict Value) :
      Legacy.Form.all.mapM (decodeForm (sections.mapValues veilLegacySection)) =
        List.map (List.map Integration.veil) <$> Legacy.Form.all.mapM (decodeForm sections) := by
    apply Attempt.mapM_eq_map
    intro form
    exact decodeForm_veiled (by cases form <;> rfl) sections
  rw [decodeLegacy, decodeLegacy, legacy]
  cases Json.optionalField .map entries "legacy" with
  | error failure => rfl
  | ok found =>
      cases found with
      | none => rfl
      | some sections =>
          simp only [Except.map, Attempt.liftM_ok, pure_bind, Option.map_some, forms]
          simp [List.map_flatten]

theorem decodeSections_veiled (entries : Dict Value) :
    decodeSections (entries.mapValues veilSection) =
      List.map Integration.veil <$> decodeSections entries := by
  have kinds : Kind.all.mapM (decodeKind (entries.mapValues veilSection)) =
      List.map (List.map Integration.veil) <$> Kind.all.mapM (decodeKind entries) := by
    apply Attempt.mapM_eq_map
    intro kind
    exact decodeKind_veiled (by cases kind <;> rfl) entries
  rw [decodeSections, decodeSections, kinds, decodeLegacy_veiled]
  simp [List.map_flatten]

/-- An entry with the secrets of its credential veiled. -/
def veilOf (entry : Entry) : Entry :=
  { entry with integration := entry.integration.veil }

/-- A veiled document is decoded to the veiled entries of the document, or fails alike; and the same
is logged. -/
theorem decode_veil (source : Source) (document : Value) :
    decode source (veil document) = List.map veilOf <$> decode source document := by
  cases document with
  | null | bool | number | string | array => rfl
  | object entries =>
      rw [veil, decode, decode, Attempt.map_within]
      simp only [Json.asMap, object?, Attempt.liftM_ok, pure_bind, decodeSections_veiled]
      simp [Function.comp_def, veilOf]

/-- Loading logs the same for two documents that are the same once every secret in them is veiled. -/
theorem notes_independent_of_secrets (source : Source) {left right : Value}
    (alike : veil left = veil right) : (decode source left).notes = (decode source right).notes := by
  have veiled (document : Value) :
      (decode source (veil document)).notes = (decode source document).notes := by
    rw [decode_veil, Attempt.notes_map]
  rw [← veiled left, alike, veiled right]

/-- The secret of a key below a role in an envelope, a text in the place of a key file, and the key of
a legacy record that cannot be read for another reason. -/
theorem notes_independent_of_secrets_skipped_entries :
    let role (secret : String) : Value := .object [("type", .string Aws.assumeRoleTag),
      ("values", .object
        [("configurer", .object [("id", .string "AKIA"), ("secret", .string secret)]),
         ("roleARN", .string "arn")])]
    let document (secret : String) : Value := .object
      [("bigQuery", .array [.object
        [("configurer", .object [("key", .string secret)]), ("dataset", .string "costs"),
         ("projectID", .string "billing"), ("table", .string "export")]]),
       ("legacy", .object [("azureStorageConfig", .array [.object
        [("azureCloud", .bool true), ("azureStorageAccessKey", .string secret)]])]),
       ("s3", .array [.object
        [("account", .string "1"), ("bucket", .string "bills"), ("configurer", role secret),
         ("region", .string "eu")]])]
    (veil (document "hunter2") = veil (document "swordfish") ∧
      (decode .helm (document "hunter2")).notes = (decode .helm (document "swordfish")).notes) ∧
    (decode .helm (document "hunter2")).notes.map Event.message =
      ["Skipping bigQuery[0]: BigQueryConfiguration: GCPKey: property 'key' had expected type " ++
        "'map' but found 'string'",
       "Skipping azureStorageConfig[0]: json error: invalid type: boolean `true`, expected a string",
       "Decoded 1 integration(s) from helm document."] := by
  intro role document
  have alike : veil (document "hunter2") = veil (document "swordfish") := rfl
  exact ⟨⟨alike, notes_independent_of_secrets .helm alike⟩, by decide +kernel⟩

/-- The key of a legacy billing export is not among the secrets that are veiled where it is a text. Two
documents that differ in nothing else are logged differently. -/
theorem notes_quote_key_of_legacy_record :
    let document (key : String) : Value := .object
      [("legacy", .object [("bigQueryConfig", .array [.object [("key", .string key)]])])]
    (decode .helm (document "hunter2")).notes.map Event.message =
      ["Skipping bigQueryConfig[0]: json error: invalid type: string \"hunter2\", expected a map",
       "Decoded 0 integration(s) from helm document."] ∧
    (decode .helm (document "hunter2")).notes ≠ (decode .helm (document "swordfish")).notes := by
  decide +kernel

end Document

end Integration

end CloudBilling
