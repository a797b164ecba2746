import CloudBilling.Integration.Document
import CloudBilling.Proofs.Warnings

/-!
# What a document is decoded to

A document is decoded exactly if it is a map and each of its sections is a list or is not there; else
it fails for the first section that is neither.  Every entry of a section stands for itself: one that
decodes contributes its integration, and one that does not is skipped with one warning.
-/

namespace CloudBilling.Integration.Document

open Json (Value Fits misfit? present?)
open Legacy (Form)

variable {α β σ : Type} {entries : Dict Value} {name : String} {decode : Value → Decoder α}

/-! ## Steps that may fail -/

/-- What a step comes to: a failure without a context, or else a value with the warnings that were
logged on the way to it. -/
def ComesTo (step : Decoder α) (fault : Option Cause) (value : α) (warned : List Event) : Prop :=
  match fault with
  | some cause => step.outcome = .fail cause
  | none => step.outcome = .ok value ∧ warnings step.notes = warned

namespace ComesTo

variable {step : Decoder α} {next : α → Decoder β} {fault nextFault : Option Cause}
variable {value : α} {result : β} {warned nextWarned : List Event}

theorem pure (value : α) : ComesTo (Pure.pure value) none value [] := by
  constructor <;> rfl

/-- Of two steps the first failure counts, and the warnings of both. -/
theorem bind (former : ComesTo step fault value warned)
    (latter : ComesTo (next value) nextFault result nextWarned) :
    ComesTo (step >>= next) (fault.or nextFault) result (warned ++ nextWarned) := by
  cases fault with
  | some cause => exact congrArg Attempt.outcome (Attempt.bind_of_error next former)
  | none =>
      obtain ⟨reached, logged⟩ := former
      rw [Attempt.bind_of_ok next reached]
      cases nextFault with
      | some cause => exact latter
      | none =>
          constructor
          · exact latter.1
          · rw [warnings_append, logged, latter.2]

theorem map (former : ComesTo step fault value warned) (image : α → β) :
    ComesTo (do return image (← step)) fault (image value) warned := by
  have both : ComesTo (do return image (← step)) (fault.or none) (image value)
      (warned ++ []) :=
    former.bind (.pure (image value))
  rwa [Option.or_none, List.append_nil] at both

theorem mapM {step : σ → Decoder α} {fault : σ → Option Cause} {value : σ → α}
    {warned : σ → List Event}
    (each : ∀ item, ComesTo (step item) (fault item) (value item) (warned item))
    (items : List σ) :
    ComesTo (items.mapM step) (items.findSome? fault) (items.map value)
      (items.flatMap warned) := by
  induction items with
  | nil => exact .pure []
  | cons item rest ih =>
      -- A failure of the first item hides the rest; without one the rest decides.
      have both : ComesTo ((item :: rest).mapM step)
          ((fault item).or (rest.findSome? fault)) (value item :: rest.map value)
          (warned item ++ rest.flatMap warned) := by
        rw [List.mapM_cons]
        exact (each item).bind (ih.map (value item :: ·))
      rw [List.findSome?_cons, List.map_cons, List.flatMap_cons]
      cases first : fault item <;> rwa [first] at both

end ComesTo

/-! ## One section -/

/-- The values in a section. -/
def elements (entries : Dict Value) (name : String) : List Value :=
  ((present? entries name).bind Value.array?).getD []

/-- What some of the values decode to. -/
def decoded (decode : Value → Decoder α) (values : List Value) : List α :=
  values.filterMap fun value => (decode value).outcome.toOption

/-- Warns of an entry that is skipped. -/
def skipped (name : String) (index : Nat) (failure : Failure) : Event :=
  ⟨.warn, .document, s!"Skipping {name}[{index}]: {failure.message}"⟩

/-- One warning for each of the indexed values that does not decode. -/
def skips (name : String) (decode : Value → Decoder α) (values : List (Value × Nat)) :
    List Event :=
  values.filterMap fun (value, index) =>
    match (decode value).outcome with
    | .ok _ => none
    | .error failure => some (skipped name index failure)

theorem decoded_cons (value : Value) (rest : List Value) :
    decoded decode (value :: rest) =
      match (decode value).outcome with
      | .ok content => content :: decoded decode rest
      | .error _ => decoded decode rest := by
  rw [decoded, List.filterMap_cons]
  cases (decode value).outcome <;> rfl

theorem skips_cons (value : Value) (index : Nat) (rest : List (Value × Nat)) :
    skips name decode ((value, index) :: rest) =
      match (decode value).outcome with
      | .ok _ => skips name decode rest
      | .error failure => skipped name index failure :: skips name decode rest := by
  cases reached : (decode value).outcome <;> simp [skips, reached]

theorem sectionOf_eq (entries : Dict Value) (name : String) :
    sectionOf entries name =
      match misfit? .array entries name with
      | some cause => .fail cause
      | none => .ok (elements entries name) := by
  rw [sectionOf, Json.optionalField_eq_of_misfit?]
  cases misfit? .array entries name <;> rfl

theorem value_decodeFrom (index : Nat) (values : List Value) :
    (decodeFrom name decode index values).value = decoded decode values := by
  induction values generalizing index with
  | nil => rfl
  | cons value rest ih =>
      rw [decodeFrom, Logged.value_bind, decoded_cons]
      cases reached : (decode value).outcome with
      | ok content => simp [Attempt.settle, reached, ih (index + 1)]
      | error failure => simp [Attempt.settle, reached, ih (index + 1)]

theorem warnings_decodeFrom (unwarned : ∀ value, (decode value).Unwarned) (index : Nat)
    (values : List Value) :
    warnings (decodeFrom name decode index values).notes =
      skips name decode (values.zipIdx index) := by
  induction values generalizing index with
  | nil => rfl
  | cons value rest ih =>
      have silent : warnings (decode value).settle.notes = [] := unwarned value
      rw [decodeFrom, Logged.notes_bind, warnings_append, silent, List.nil_append,
        List.zipIdx_cons, skips_cons]
      cases reached : (decode value).outcome with
      | ok content => simp [Attempt.settle, reached, ih (index + 1)]
      | error failure =>
          rw [← ih (index + 1)]
          simp [Attempt.settle, reached, skipped]
          rfl

/-- A section that is no list fails; each entry of any other one is decoded or skipped. -/
theorem decodeSection_comesTo (unwarned : ∀ value, (decode value).Unwarned) (name : String)
    (entries : Dict Value) :
    ComesTo (decodeSection name decode entries) (misfit? .array entries name)
      (decoded decode (elements entries name))
      (skips name decode (elements entries name).zipIdx) := by
  rw [decodeSection, sectionOf_eq]
  cases misfit? .array entries name with
  | some cause => rfl
  | none =>
      constructor
      · exact congrArg Except.ok (value_decodeFrom 0 _)
      · exact warnings_decodeFrom unwarned 0 _

/-! ## Every section -/

/-- The integrations that the section of a kind holds. -/
def integrationsOfKind (entries : Dict Value) (kind : Kind) : List Integration :=
  (decoded (Config.decode kind) (elements entries kind.name)).map fun config => ⟨kind, config⟩

/-- One warning for each entry in the section of a kind that does not decode. -/
def skipsOfKind (entries : Dict Value) (kind : Kind) : List Event :=
  skips kind.name (Config.decode kind) (elements entries kind.name).zipIdx

theorem decodeKind_comesTo (entries : Dict Value) (kind : Kind) :
    ComesTo (decodeKind entries kind) (misfit? .array entries kind.name)
      (integrationsOfKind entries kind) (skipsOfKind entries kind) :=
  (decodeSection_comesTo (Config.unwarned_decode kind) kind.name entries).map
    (List.map (Integration.mk kind))

/-- The integrations of the records in the section of a type of legacy records. -/
def integrationsOfForm (sections : Dict Value) (form : Form) : List Integration :=
  (decoded (decodeRecord form) (elements sections form.name)).filterMap form.convert

/-- One warning for each entry in the section of a type of legacy records that does not decode. -/
def skipsOfForm (sections : Dict Value) (form : Form) : List Event :=
  skips form.name (decodeRecord form) (elements sections form.name).zipIdx

theorem unwarned_decodeRecord (form : Form) (value : Value) :
    (decodeRecord form value).Unwarned := by
  rw [decodeRecord]
  cases form.read value <;> rfl

theorem decodeForm_comesTo (sections : Dict Value) (form : Form) :
    ComesTo (decodeForm sections form) (misfit? .array sections form.name)
      (integrationsOfForm sections form) (skipsOfForm sections form) :=
  (decodeSection_comesTo (unwarned_decodeRecord form) form.name sections).map
    (List.filterMap form.convert)

/-- The map that holds the legacy sections; an empty one if there is none. -/
def legacySections (entries : Dict Value) : Dict Value :=
  ((present? entries "legacy").bind Value.object?).getD []

theorem decodeLegacy_comesTo (entries : Dict Value) :
    ComesTo (decodeLegacy entries)
      ((misfit? .map entries "legacy").or
        (Form.all.findSome? fun form => misfit? .array (legacySections entries) form.name))
      (Form.all.flatMap (integrationsOfForm (legacySections entries)))
      (Form.all.flatMap (skipsOfForm (legacySections entries))) := by
  rw [decodeLegacy, Json.optionalField_eq_of_misfit?]
  cases misfit? .map entries "legacy" with
  | some cause => rfl
  | none =>
      have legacy : legacySections entries =
          ((present? entries "legacy").bind Json.Shape.map.view).getD [] := rfl
      rw [legacy]
      cases (present? entries "legacy").bind Json.Shape.map.view with
      | none => exact .pure []
      | some sections =>
          rw [List.flatMap_def]
          exact (ComesTo.mapM (decodeForm_comesTo sections) Form.all).map List.flatten

/-- Why a document cannot be read: it is not a map, or else its first section that does not fit. -/
def firstMisfit? : Value → Option Cause
  | .object entries =>
      (Kind.all.findSome? fun kind => misfit? .array entries kind.name).or <|
        (misfit? .map entries "legacy").or <|
          Form.all.findSome? fun form => misfit? .array (legacySections entries) form.name
  | value => some (.notMap value.kind)

/-- The integrations that a document holds, in the order of its sections. -/
def integrations (entries : Dict Value) : List Integration :=
  Kind.all.flatMap (integrationsOfKind entries) ++
    Form.all.flatMap (integrationsOfForm (legacySections entries))

/-- One warning for each entry of a document that does not decode, in the order of its sections. -/
def skipsOfAll (entries : Dict Value) : List Event :=
  Kind.all.flatMap (skipsOfKind entries) ++
    Form.all.flatMap (skipsOfForm (legacySections entries))

theorem decodeSections_comesTo (entries : Dict Value) :
    ComesTo (decodeSections entries) (firstMisfit? (.object entries)) (integrations entries)
      (skipsOfAll entries) := by
  have current := ComesTo.mapM (decodeKind_comesTo entries) Kind.all
  have legacy := (decodeLegacy_comesTo entries).map
    ((Kind.all.map (integrationsOfKind entries)).flatten ++ ·)
  rw [integrations, List.flatMap_def]
  exact current.bind legacy

/-! ## The document -/

/-- A document is well shaped if it is a map in which every section that is there is a list; the
legacy sections stand together in a map. -/
def WellShaped (value : Value) : Prop :=
  ∃ entries, value = .object entries ∧ (∀ kind : Kind, Fits .array entries kind.name) ∧
    Fits .map entries "legacy" ∧ ∀ form : Form, Fits .array (legacySections entries) form.name

theorem firstMisfit?_eq_none_iff (value : Value) :
    firstMisfit? value = none ↔ WellShaped value := by
  cases value with
  | object entries =>
      simp only [firstMisfit?, WellShaped, Option.or_eq_none_iff, List.findSome?_eq_none_iff,
        Json.misfit?_eq_none_iff, Value.object.injEq, exists_eq_left', Kind.mem_all, Form.mem_all,
        true_imp_iff]
  | null | bool | number | string | array => simp [firstMisfit?, WellShaped]

/-- The last step of a document, once its integrations are known. -/
def conclude (source : Source) (integrations : List Integration) : Decoder (List Entry) := do
  logEvent .debug .document
    s!"Decoded {integrations.length} integration(s) from {source.name} document."
  return integrations.map (⟨source, ·⟩)

theorem decode_object (source : Source) (entries : Dict Value) :
    Document.decode source (.object entries) =
      (decodeSections entries >>= conclude source).within documentName :=
  rfl

/-- The context of a document is put around the failure of a section. -/
theorem decode_of_misfit (source : Source) {value : Value} {cause : Cause}
    (misfit : firstMisfit? value = some cause) :
    (Document.decode source value).outcome = .error ⟨[documentName], cause⟩ := by
  cases value with
  | object entries =>
      have failed := decodeSections_comesTo entries
      rw [misfit] at failed
      rw [decode_object, Attempt.bind_of_error (conclude source) failed]
      rfl
  | null | bool | number | string | array =>
      cases misfit
      rfl

theorem decode_of_wellShaped (source : Source) (shaped : WellShaped (.object entries)) :
    (Document.decode source (.object entries)).outcome =
        .ok ((integrations entries).map (Entry.mk source)) ∧
      warnings (Document.decode source (.object entries)).notes = skipsOfAll entries := by
  have read := decodeSections_comesTo entries
  rw [(firstMisfit?_eq_none_iff _).mpr shaped] at read
  obtain ⟨reached, logged⟩ := read
  rw [decode_object, Attempt.bind_of_ok (conclude source) reached]
  constructor
  · rfl
  · rw [Attempt.notes_within, warnings_append, logged]
    exact List.append_nil _

/-! ## Entries that do not decode -/

/-- Those of some values that decode. -/
def decodable (decode : Value → Decoder α) (values : List Value) : List Value :=
  values.filter fun value => (decode value).outcome.isOk

theorem decoded_decodable (decode : Value → Decoder α) (values : List Value) :
    decoded decode (decodable decode values) = decoded decode values := by
  induction values with
  | nil => rfl
  | cons value rest ih =>
      rw [decodable, List.filter_cons, decoded_cons]
      cases reached : (decode value).outcome with
      | error failure => exact ih
      | ok content =>
          have kept : decoded decode (value :: decodable decode rest) = _ :=
            decoded_cons value (decodable decode rest)
          rw [reached, ih] at kept
          exact kept

/-- Two documents differ in nothing but entries that do not decode. -/
structure SameDecodable (left right : Dict Value) : Prop where
  ofKind (kind : Kind) :
    decodable (Config.decode kind) (elements left kind.name) =
      decodable (Config.decode kind) (elements right kind.name)
  ofForm (form : Form) :
    decodable (decodeRecord form) (elements (legacySections left) form.name) =
      decodable (decodeRecord form) (elements (legacySections right) form.name)

theorem SameDecodable.integrations_eq {left right : Dict Value} (same : SameDecodable left right) :
    integrations left = integrations right := by
  -- What is decoded is decoded from the decodable values, which are the same on both sides.
  have kinds (kind : Kind) : integrationsOfKind left kind = integrationsOfKind right kind := by
    rw [integrationsOfKind, ← decoded_decodable, same.ofKind kind, decoded_decodable,
      integrationsOfKind]
  have forms (form : Form) : integrationsOfForm (legacySections left) form =
      integrationsOfForm (legacySections right) form := by
    rw [integrationsOfForm, ← decoded_decodable, same.ofForm form, decoded_decodable,
      integrationsOfForm]
  rw [integrations, integrations, funext kinds, funext forms]

theorem decode_fails_iff (source : Source) (value : Value) :
    (∃ failure, (Document.decode source value).outcome = .error failure) ↔ ¬WellShaped value := by
  rw [← firstMisfit?_eq_none_iff]
  constructor
  · rintro ⟨failure, failed⟩ fits
    obtain ⟨entries, rfl, _⟩ := (firstMisfit?_eq_none_iff value).mp fits
    rw [(decode_of_wellShaped source ((firstMisfit?_eq_none_iff _).mp fits)).1] at failed
    cases failed
  · intro misfits
    obtain ⟨cause, misfit⟩ := Option.ne_none_iff_exists'.mp misfits
    exact ⟨_, decode_of_misfit source misfit⟩

/-- A document fails exactly if it is not well shaped, for its first section that does not fit.  Else
it holds the integrations of the entries that decode, in order, and warns of each other entry; legacy
records in which everything is empty stand for nothing.  Entries that do not decode make no
difference to what the document holds. -/
theorem decode_keeps_decodable (source : Source) :
    (∀ value, (∃ failure, (Document.decode source value).outcome = .error failure) ↔
      ¬WellShaped value) ∧
    (∀ value cause, firstMisfit? value = some cause →
      (Document.decode source value).outcome = .error ⟨[documentName], cause⟩) ∧
    (∀ entries, WellShaped (.object entries) →
      (Document.decode source (.object entries)).outcome =
          .ok ((integrations entries).map (Entry.mk source)) ∧
        warnings (Document.decode source (.object entries)).notes = skipsOfAll entries) ∧
    (∀ (form : Form) (record : form.Info),
      form.convert record = none ↔ form.isBlank record = true) ∧
    ∀ left right, WellShaped (.object left) → WellShaped (.object right) →
      SameDecodable left right →
      (Document.decode source (.object left)).outcome =
        (Document.decode source (.object right)).outcome := by
  refine ⟨decode_fails_iff source, fun _ _ => decode_of_misfit source,
    fun _ => decode_of_wellShaped source, Form.convert_eq_none_iff, ?_⟩
  intro left right leftShaped rightShaped same
  rw [(decode_of_wellShaped source leftShaped).1, (decode_of_wellShaped source rightShaped).1,
    same.integrations_eq]

/-- The entries around a bucket and around an empty legacy record are skipped, and make no difference.
Legacy sections in a list fail the document. -/
theorem decode_keeps_decodable_skipped_entries :
    let bucket : Value := .object
      [("account", .string "1"), ("bucket", .string "bills"), ("region", .string "eu")]
    let patchy : Dict Value :=
      [("legacy", .object [("alibabaInfo", .array [.null, .object []])]),
       ("s3", .array [.null, bucket, .object []])]
    let sound : Dict Value :=
      [("legacy", .object [("alibabaInfo", .array [.object []])]), ("s3", .array [bucket])]
    let broken : Value := .object [("legacy", .array []), ("s3", .array [bucket])]
    (WellShaped (.object patchy) ∧ WellShaped (.object sound) ∧ SameDecodable patchy sound ∧
      (Document.decode .helm (.object patchy)).outcome =
        (Document.decode .helm (.object sound)).outcome) ∧
    (Document.decode .helm (.object patchy)).outcome =
      .ok [⟨.helm, .s3, "bills", "eu", "1", none⟩] ∧
    (warnings (Document.decode .helm (.object patchy)).notes).map Event.message =
      ["Skipping s3[0]: S3Configuration: could not cast interface as map, found 'null'",
       "Skipping s3[2]: S3Configuration: missing 'bucket' property",
       "Skipping alibabaInfo[0]: json error: invalid type: null, expected struct AlibabaInfo"] ∧
    (Document.decode .helm broken).outcome =
      .error ⟨["IntegrationDocument"], .typeMismatch "legacy" "map" "array"⟩ := by
  intro bucket patchy sound broken
  obtain ⟨_, misfits, reads, _, alike⟩ := decode_keeps_decodable .helm
  have patchyShaped : WellShaped (.object patchy) := (firstMisfit?_eq_none_iff _).mp rfl
  have soundShaped : WellShaped (.object sound) := (firstMisfit?_eq_none_iff _).mp rfl
  have same : SameDecodable patchy sound := by
    constructor
    · intro kind
      cases kind <;> rfl
    · intro form
      cases form <;> rfl
  obtain ⟨read, warned⟩ := reads patchy patchyShaped
  refine ⟨⟨patchyShaped, soundShaped, same, alike patchy sound patchyShaped soundShaped same⟩,
    read.trans ?_, (congrArg (List.map Event.message) warned).trans ?_, misfits broken _ rfl⟩
  · rfl
  · rfl

end CloudBilling.Integration.Document
