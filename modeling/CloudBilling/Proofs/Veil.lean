import CloudBilling.Proofs.Envelope

/-!
# Values with their secrets veiled

Which texts of a document are secrets is decided by the names under which they stand.  Veiling puts
one word in the place of every secret that is not empty, so documents that differ in nothing but
their secrets are the same once they are veiled.  No value changes its kind in that, and no entry its
name; therefore every field of a veiled map is read, or cannot be read, as it was before.
-/

namespace CloudBilling

/-- A text with one word in its place, unless it is empty. -/
def veilText (text : String) : String :=
  if text = "" then "" else redacted

@[simp] theorem veilText_eq_empty_iff {text : String} : veilText text = "" ↔ text = "" := by
  rw [veilText]
  split <;> simp [*, redacted]

/-! ## Maps -/

namespace Dict

variable {α β : Type} {change : String → α → β}

/-- A map with its values changed in a way that depends on their names. -/
def mapValues (change : String → α → β) (dict : Dict α) : Dict β :=
  dict.map fun entry => (entry.1, change entry.1 entry.2)

theorem get?_mapValues (change : String → α → β) (dict : Dict α) (key : String) :
    get? (mapValues change dict) key = (get? dict key).map (change key) := by
  induction dict with
  | nil => rfl
  | cons entry rest ih =>
      rw [mapValues, List.map_cons, get?_cons, get?_cons]
      by_cases here : entry.1 = key
      · rw [if_pos here, if_pos here, here, Option.map_some]
      · rw [if_neg here, if_neg here]
        exact ih

@[simp] theorem has_mapValues (change : String → α → β) (dict : Dict α) (key : String) :
    has (mapValues change dict) key = has dict key := by
  rw [has, has, get?_mapValues, Option.isSome_map]

@[simp] theorem names_mapValues (change : String → α → β) (dict : Dict α) :
    names (mapValues change dict) = names dict :=
  List.map_map

@[simp] theorem isEmpty_mapValues (change : String → α → β) (dict : Dict α) :
    List.isEmpty (mapValues change dict) = List.isEmpty dict := by
  rw [mapValues, List.isEmpty_map]

theorem ascending_mapValues {dict : Dict α} (ascending : Ascending dict)
    (change : String → α → β) : Ascending (mapValues change dict) := by
  rw [Ascending, mapValues, List.pairwise_map]
  exact ascending

/-- It does not matter whether a value is changed before or after it is put into a map. -/
theorem put_mapValues (change : String → α → β) (dict : Dict α) (key : String) (value : α) :
    put (mapValues change dict) key (change key value) = mapValues change (put dict key value) := by
  induction dict with
  | nil => rfl
  | cons entry rest ih =>
      obtain ⟨name, old⟩ := entry
      rw [mapValues] at ih
      rw [mapValues, List.map_cons, put, put]
      split
      · rfl
      · split
        · rfl
        · rw [ih]
          rfl

theorem ofEntries_mapValues (change : String → α → β) (entries : List (String × α)) :
    ofEntries (mapValues change entries) = mapValues change (ofEntries entries) := by
  have onto (dict : Dict α) :
      (mapValues change entries).foldl (fun dict entry => dict.put entry.1 entry.2)
          (mapValues change dict) =
        mapValues change (entries.foldl (fun dict entry => dict.put entry.1 entry.2) dict) := by
    induction entries generalizing dict with
    | nil => rfl
    | cons entry rest ih =>
        rw [List.foldl_cons, ← ih, ← put_mapValues]
        rfl
  exact onto []

end Dict

namespace Json

/-! ## Changes that keep the kind of a value -/

/-- The change keeps the kind of every value. -/
def KeepsKind (change : Value → Value) : Prop :=
  ∀ value, (change value).kind = value.kind

theorem KeepsKind.eq_null_iff {change : Value → Value} (keeps : KeepsKind change) (value : Value) :
    change value = .null ↔ value = .null := by
  have same := keeps value
  constructor
  · intro null
    cases value <;> simp_all [Value.kind]
  · rintro rfl
    cases changed : change .null <;> simp_all [Value.kind]

section

variable {α : Type} {shape : Shape α} {image : α → α} {change : String → Value → Value}
variable {entries : Dict Value} {key : String}

/-- A field of a changed map is read as it was before, but for what the change does to it. -/
theorem field_mapValues (keeps : KeepsKind (change key))
    (viewed : ∀ value, shape.view (change key value) = (shape.view value).map image) :
    field shape (entries.mapValues change) key = (field shape entries key).map image := by
  rw [field, field, Dict.get?_mapValues]
  cases entries.get? key with
  | none => rfl
  | some value =>
      rw [Option.map_some]
      simp only [viewed, keeps value]
      cases shape.view value <;> rfl

theorem present?_mapValues (keeps : KeepsKind (change key)) :
    present? (entries.mapValues change) key = (present? entries key).map (change key) :=
  present?_eq_map (Dict.get?_mapValues change entries key) fun value _ => keeps.eq_null_iff value

theorem optionalField_mapValues (keeps : KeepsKind (change key))
    (viewed : ∀ value, shape.view (change key value) = (shape.view value).map image) :
    optionalField shape (entries.mapValues change) key =
      (optionalField shape entries key).map (Option.map image) := by
  rw [optionalField_eq, optionalField_eq, present?_mapValues keeps, field_mapValues keeps viewed]
  cases present? entries key with
  | none => rfl
  | some value => cases field shape entries key <;> rfl

/-- A field that is not changed is read as it was before. -/
theorem field_mapValues_of_fixed (fixed : change key = id) :
    field shape (entries.mapValues change) key = field shape entries key := by
  rw [field, field, Dict.get?_mapValues, fixed, Option.map_id_fun, id]

end

/-! ## Secrets -/

namespace Value

/-- A value with one word in its place if it is a text that is not empty. -/
def veilString : Value → Value
  | .string text => .string (veilText text)
  | value => value

/-- A secret with one word in its place.  A key file is a map of secrets. -/
def veilSecret : Value → Value
  | .object entries => .object (Dict.mapValues (fun _ => veilString) entries)
  | value => value.veilString

/-- The names under which credentials have their secrets. -/
def secretNames : List String :=
  ["secret", "accessKey", "accesskey", "key"]

mutual

/-- A credential with its secrets veiled: those of the map that it is written as, of the values of
an envelope, and of the credential that is nested in either. -/
def veil : Value → Value
  | .object entries => .object (veilEntries entries)
  | value => value

/-- The entries of a credential with its secrets veiled. -/
def veilEntries : List (String × Value) → List (String × Value)
  | [] => []
  | (name, value) :: rest =>
      (name,
        if name ∈ secretNames then value.veilSecret
        else if name = "configurer" ∨ name = "values" then value.veil
        else value) :: veilEntries rest

end

/-- What stands in a credential under a name, with its secrets veiled. -/
def veilAt (name : String) (value : Value) : Value :=
  if name ∈ secretNames then value.veilSecret
  else if name = "configurer" ∨ name = "values" then value.veil
  else value

theorem veil_object (entries : Dict Value) :
    veil (.object entries) = .object (entries.mapValues veilAt) := by
  rw [veil]
  congr 1
  induction entries with
  | nil => rfl
  | cons entry rest ih =>
      obtain ⟨name, value⟩ := entry
      rw [veilEntries, ih]
      rfl

theorem keepsKind_veilSecret : KeepsKind veilSecret := by
  intro value
  cases value <;> rfl

theorem keepsKind_veil : KeepsKind veil := by
  intro value
  cases value <;> rfl

theorem string?_veilSecret (value : Value) :
    (veilSecret value).string? = value.string?.map veilText := by
  cases value <;> rfl

theorem object?_veilSecret (value : Value) :
    (veilSecret value).object? = value.object?.map (Dict.mapValues fun _ => veilString) := by
  cases value <;> rfl

theorem object?_veil (value : Value) :
    (veil value).object? = value.object?.map (Dict.mapValues veilAt) := by
  cases value with
  | object entries => rw [veil_object]; rfl
  | null | bool | number | string | array => rfl

end Value

end Json

end CloudBilling
