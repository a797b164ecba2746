import CloudBilling.Integration.Config
import CloudBilling.Proofs.Record

/-!
# What configurations are read from

A kind of configuration has a list of texts, in the order in which they are read, and some of them
may be left out.  A configuration is read exactly out of a map in which every text of its kind fits
and the credential can be read.  Otherwise it fails for the first text that does not fit, and for the
credential only if all texts do.
-/

namespace CloudBilling.Integration

open Json (Value present?)

variable {kind : Kind} {entries : Dict Value} {value : Value}

/-! ## Texts -/

/-- A text of a configuration: its name in documents, and whether they may leave it out. -/
structure TextField where
  name : String
  mayBeLeftOut : Bool

namespace TextField

/-- A text that stands in every document. -/
def required (name : String) : TextField :=
  ⟨name, false⟩

/-- A text that documents may leave out. -/
def optional (name : String) : TextField :=
  ⟨name, true⟩

/-- A text fits if it is written as one.  If it may be left out, it may be null as well. -/
def Fits (field : TextField) (entries : Dict Value) : Prop :=
  (∃ text, entries.get? field.name = some (.string text)) ∨
    field.mayBeLeftOut = true ∧
      (entries.get? field.name = none ∨ entries.get? field.name = some .null)

/-- Why a text does not fit. -/
def fault? (field : TextField) (entries : Dict Value) : Option Cause :=
  match entries.get? field.name, field.mayBeLeftOut with
  | some (.string _), _ | none, true | some .null, true => none
  | none, false => some (.missingKey field.name)
  | some value, _ => some (.typeMismatch field.name "string" value.kind)

theorem fault?_eq_none_iff {field : TextField} :
    field.fault? entries = none ↔ field.Fits entries := by
  obtain ⟨name, mayBeLeftOut⟩ := field
  unfold fault? Fits
  cases found : entries.get? name with
  | none => cases mayBeLeftOut <;> simp
  | some value => cases value <;> cases mayBeLeftOut <;> simp

end TextField

/-- The text under a name, which is empty if none stands there. -/
def textAt (entries : Dict Value) (name : String) : String :=
  ((entries.get? name).bind Value.string?).getD ""

/-- The texts of a kind, in the order in which they are read. -/
def Kind.texts : Kind → List TextField
  | .s3 => [.required "bucket", .required "region", .required "account"]
  | .athena =>
      [.required "bucket", .required "region", .required "database", .required "table",
        .optional "workgroup", .required "account"]
  | .bigQuery => [.required "projectID", .required "dataset", .required "table"]
  | .azureStorage =>
      [.required "subscriptionID", .required "account", .required "container", .optional "path",
        .optional "cloud"]
  | .alibaba => [.required "account", .required "region"]

/-- The record with texts by their names in documents. -/
def Record.ofTexts {γ : Type} (text : String → String) (credential : Option γ) :
    (kind : Kind) → Record kind γ
  | .s3 => ⟨text "bucket", text "region", text "account", credential⟩
  | .athena =>
      ⟨text "bucket", text "region", text "database", text "table", text "workgroup",
        text "account", credential⟩
  | .bigQuery => ⟨text "projectID", text "dataset", text "table", credential⟩
  | .azureStorage =>
      ⟨text "subscriptionID", text "account", text "container", text "path", text "cloud",
        credential⟩
  | .alibaba => ⟨text "account", text "region", credential⟩

/-! ## Reading texts in order -/

section

variable {α : Type} {outcome : Outcome α}

/-- What comes of reading some texts before something else: the first fault, if there is one. -/
def afterTexts (fields : List TextField) (entries : Dict Value) (outcome : Outcome α) : Outcome α :=
  match fields.findSome? (·.fault? entries) with
  | some cause => .fail cause
  | none => outcome

theorem afterTexts_cons (field : TextField) (fields : List TextField) :
    afterTexts [field] entries (afterTexts fields entries outcome) =
      afterTexts (field :: fields) entries outcome := by
  simp only [afterTexts, List.findSome?_cons, List.findSome?_nil]
  cases field.fault? entries <;> rfl

theorem outcome_field_bind (name : String) (next : String → Decoder α) :
    (liftM (Json.field .string entries name) >>= next).outcome =
      afterTexts [.required name] entries (next (textAt entries name)).outcome := by
  simp only [Attempt.outcome_bind, Attempt.outcome_liftM, Json.field, textAt, afterTexts,
    List.findSome?_cons, List.findSome?_nil, TextField.fault?, TextField.required]
  cases entries.get? name with
  | none => rfl
  | some value => cases value <;> rfl

theorem outcome_stringOrEmpty_bind (name : String) (next : String → Decoder α) :
    (liftM (Json.stringOrEmpty entries name) >>= next).outcome =
      afterTexts [.optional name] entries (next (textAt entries name)).outcome := by
  simp only [Attempt.outcome_bind, Attempt.outcome_liftM, Json.stringOrEmpty, Json.optionalField,
    Json.field, textAt, afterTexts, List.findSome?_cons, List.findSome?_nil, TextField.fault?,
    TextField.optional]
  cases entries.get? name with
  | none => rfl
  | some value => cases value <;> rfl

/-- The texts of a record are read in the order of its kind. -/
theorem fieldsOf_eq (kind : Kind) (entries : Dict Value) :
    Record.fieldsOf kind entries =
      afterTexts kind.texts entries (.ok (Record.ofTexts (textAt entries) none kind)) := by
  rw [Record.fieldsOf]
  cases kind with
  | s3 =>
      simp only [Record.ofMap, S3.ofMap, outcome_field_bind, afterTexts_cons]
      rfl
  | athena =>
      simp only [Record.ofMap, Athena.ofMap, outcome_field_bind, outcome_stringOrEmpty_bind,
        afterTexts_cons]
      rfl
  | bigQuery =>
      simp only [Record.ofMap, BigQuery.ofMap, outcome_field_bind, afterTexts_cons]
      rfl
  | azureStorage =>
      simp only [Record.ofMap, AzureStorage.ofMap, outcome_field_bind, outcome_stringOrEmpty_bind,
        afterTexts_cons]
      rfl
  | alibaba =>
      simp only [Record.ofMap, BillingApi.ofMap, outcome_field_bind, afterTexts_cons]
      rfl

theorem fits_iff_findSome?_eq_none {fields : List TextField} :
    fields.findSome? (·.fault? entries) = none ↔ ∀ field ∈ fields, field.Fits entries := by
  simp only [List.findSome?_eq_none_iff, TextField.fault?_eq_none_iff]

theorem afterTexts_of_fits {fields : List TextField} (fit : ∀ field ∈ fields, field.Fits entries) :
    afterTexts fields entries outcome = outcome := by
  rw [afterTexts, fits_iff_findSome?_eq_none.mpr fit]

theorem afterTexts_of_fault {fields : List TextField} {cause : Cause}
    (first : fields.findSome? (·.fault? entries) = some cause) :
    afterTexts fields entries outcome = .fail cause := by
  rw [afterTexts, first]

end

/-! ## Configurations -/

/-- What comes of the credential of a configuration; an absent entry and null mean none. -/
def credentialIn (provider : Provider) (entries : Dict Value) :
    Outcome (Option (Credential provider)) :=
  match present? entries "configurer" with
  | none => .ok none
  | some value => (Credential.decode provider value).outcome

theorem outcome_readCredential (provider : Provider) (entries : Dict Value) :
    (readCredential provider entries).outcome = credentialIn provider entries := by
  rw [readCredential, Json.optionalField_any, credentialIn]
  cases present? entries "configurer" <;> rfl

namespace Config

theorem outcome_decode_of_not_map (notMap : value.object? = none) :
    (decode kind value).outcome = .error ⟨[kind.typeName], .notMap value.kind⟩ := by
  rw [decode, Json.asMap, notMap]
  rfl

/-- A map is read text by text, and then its credential. -/
theorem outcome_decode_object (kind : Kind) (entries : Dict Value) :
    (decode kind (.object entries)).outcome =
      Outcome.within kind.typeName (afterTexts kind.texts entries
        ((credentialIn kind.provider entries).map fun credential =>
          Record.ofTexts (textAt entries) credential kind)) := by
  have read : Json.asMap (.object entries) = .ok entries := rfl
  rw [decode, read, Attempt.outcome_within, Attempt.liftM_ok, pure_bind, Record.ofMap_eq,
    Attempt.outcome_bind, Attempt.outcome_liftM, fieldsOf_eq]
  cases first : kind.texts.findSome? (·.fault? entries) with
  | some cause => rw [afterTexts_of_fault first, afterTexts_of_fault first]; rfl
  | none =>
      have fit := fits_iff_findSome?_eq_none.mp first
      rw [afterTexts_of_fits fit, afterTexts_of_fits fit, ← outcome_readCredential]
      apply congrArg (Outcome.within kind.typeName)
      simp only [Except.bind, Attempt.outcome_bind, Attempt.outcome_pure]
      cases (readCredential kind.provider entries).outcome with
      | error failure => rfl
      | ok credential => cases kind <;> rfl

variable {cause : Cause}

theorem outcome_decode_of_fault (first : kind.texts.findSome? (·.fault? entries) = some cause) :
    (decode kind (.object entries)).outcome = .error ⟨[kind.typeName], cause⟩ := by
  rw [outcome_decode_object, afterTexts_of_fault first]
  rfl

theorem outcome_decode_of_fits (fit : ∀ field ∈ kind.texts, field.Fits entries) :
    (decode kind (.object entries)).outcome =
      Outcome.within kind.typeName ((credentialIn kind.provider entries).map fun credential =>
        Record.ofTexts (textAt entries) credential kind) := by
  rw [outcome_decode_object, afterTexts_of_fits fit]

theorem outcome_decode_eq_ok_iff {config : Config kind} :
    (decode kind value).outcome = .ok config ↔
      ∃ entries credential, value = .object entries ∧
        (∀ field ∈ kind.texts, field.Fits entries) ∧
        credentialIn kind.provider entries = .ok credential ∧
        config = Record.ofTexts (textAt entries) credential kind := by
  constructor
  · intro decoded
    cases map : value.object? with
    | none =>
        rw [outcome_decode_of_not_map map] at decoded
        cases decoded
    | some entries =>
        obtain rfl := Value.object?_eq_some_iff.mp map
        cases first : kind.texts.findSome? (·.fault? entries) with
        | some cause =>
            rw [outcome_decode_of_fault first] at decoded
            cases decoded
        | none =>
            have fit := fits_iff_findSome?_eq_none.mp first
            rw [outcome_decode_of_fits fit] at decoded
            cases read : credentialIn kind.provider entries with
            | error inner =>
                rw [read] at decoded
                cases decoded
            | ok credential =>
                rw [read] at decoded
                cases decoded
                exact ⟨entries, credential, rfl, fit, read, rfl⟩
  · rintro ⟨entries, credential, rfl, fit, read, rfl⟩
    rw [outcome_decode_of_fits fit, read]
    rfl

theorem outcome_decode_eq_error_iff {failure : Failure} :
    (decode kind value).outcome = .error failure ↔
      value.object? = none ∧ failure = ⟨[kind.typeName], .notMap value.kind⟩ ∨
      ∃ entries, value = .object entries ∧
        ((∃ cause, kind.texts.findSome? (·.fault? entries) = some cause ∧
            failure = ⟨[kind.typeName], cause⟩) ∨
          (∀ field ∈ kind.texts, field.Fits entries) ∧
            ∃ inner, credentialIn kind.provider entries = .error inner ∧
              failure = inner.within kind.typeName) := by
  constructor
  · intro failed
    cases map : value.object? with
    | none =>
        rw [outcome_decode_of_not_map map] at failed
        cases failed
        exact .inl ⟨rfl, rfl⟩
    | some entries =>
        obtain rfl := Value.object?_eq_some_iff.mp map
        refine .inr ⟨entries, rfl, ?_⟩
        cases first : kind.texts.findSome? (·.fault? entries) with
        | some cause =>
            rw [outcome_decode_of_fault first] at failed
            cases failed
            exact .inl ⟨cause, rfl, rfl⟩
        | none =>
            have fit := fits_iff_findSome?_eq_none.mp first
            rw [outcome_decode_of_fits fit] at failed
            cases read : credentialIn kind.provider entries with
            | error inner =>
                rw [read] at failed
                cases failed
                exact .inr ⟨fit, inner, rfl, rfl⟩
            | ok credential =>
                rw [read] at failed
                cases failed
  · rintro (⟨notMap, rfl⟩ | ⟨entries, rfl, ⟨cause, first, rfl⟩ | ⟨fit, inner, read, rfl⟩⟩)
    · exact outcome_decode_of_not_map notMap
    · exact outcome_decode_of_fault first
    · rw [outcome_decode_of_fits fit, read]
      rfl

/-- A configuration is read exactly out of a map in which every text of its kind fits and the
credential can be read, and holds just what was read.  A value that is no map fails for that; a map
fails for the first text that does not fit, or else for the credential, whose own contexts are kept
inside the name of the configuration. -/
theorem decode_accepts_exactly (kind : Kind) (value : Value) :
    (∀ config, (decode kind value).outcome = .ok config ↔
      ∃ entries credential, value = .object entries ∧
        (∀ field ∈ kind.texts, field.Fits entries) ∧
        credentialIn kind.provider entries = .ok credential ∧
        config = Record.ofTexts (textAt entries) credential kind) ∧
    ∀ failure, (decode kind value).outcome = .error failure ↔
      value.object? = none ∧ failure = ⟨[kind.typeName], .notMap value.kind⟩ ∨
      ∃ entries, value = .object entries ∧
        ((∃ cause, kind.texts.findSome? (·.fault? entries) = some cause ∧
            failure = ⟨[kind.typeName], cause⟩) ∨
          (∀ field ∈ kind.texts, field.Fits entries) ∧
            ∃ inner, credentialIn kind.provider entries = .error inner ∧
              failure = inner.within kind.typeName) :=
  ⟨fun _ => outcome_decode_eq_ok_iff, fun _ => outcome_decode_eq_error_iff⟩

end Config

end CloudBilling.Integration
