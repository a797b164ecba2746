import CloudBilling.Proofs.ByteOrder
import CloudBilling.Proofs.Field
import CloudBilling.Proofs.JsonOrder
import CloudBilling.Proofs.RoundTrip
import CloudBilling.Proofs.Veil

/-!
# Reading a key file

A key file is read entry by entry in the order of the names, and the first entry that is no text
ends the reading.  So a map of texts is read as it is, and of the entries of any other map the one
that is reported has the least name among those that are no texts.  The names are in the order of
their bytes, as they are in every map that was itself read from a text.
-/

namespace CloudBilling

namespace Json.Value

/-- A value is a text. -/
def IsText (value : Value) : Prop :=
  ∃ text, value = .string text

end Json.Value

namespace Gcp.Key

open Json (Value)

variable {content entries front rest : Dict Value} {name : String} {value : Value} {file : Key}

/-! ## Texts under names -/

/-- Every entry is a text, or there is a first one that is none. -/
theorem texts_or_offender (content : Dict Value) :
    (∃ texts : Dict String, content = texts.mapValues fun _ => .string) ∨
      ∃ front name value rest, content = front ++ (name, value) :: rest ∧
        (∀ entry ∈ front, entry.2.IsText) ∧ ¬ value.IsText := by
  induction content with
  | nil => exact .inl ⟨[], rfl⟩
  | cons entry rest ih =>
      obtain ⟨name, value⟩ := entry
      by_cases isText : value.IsText
      · obtain ⟨text, rfl⟩ := isText
        rcases ih with ⟨texts, rfl⟩ | ⟨front, other, value, behind, rfl, before, offends⟩
        · exact .inl ⟨(name, text) :: texts, rfl⟩
        · exact .inr ⟨(name, .string text) :: front, other, value, behind, rfl,
            List.forall_mem_cons.mpr ⟨⟨text, rfl⟩, before⟩, offends⟩
      · exact .inr ⟨[], name, value, rest, rfl, List.forall_mem_nil _, isText⟩

theorem forall_isText_mapValues (texts : Dict String) :
    ∀ entry ∈ texts.mapValues fun _ => Value.string, entry.2.IsText := by
  intro entry member
  obtain ⟨⟨name, text⟩, _, rfl⟩ := List.mem_map.mp member
  exact ⟨text, rfl⟩

/-- The first entry that is no text is reported, whatever is behind it. -/
theorem stringEntries_of_offender (before : ∀ entry ∈ front, entry.2.IsText)
    (offends : ¬ value.IsText) :
    stringEntries (front ++ (name, value) :: rest) =
      .fail (.typeMismatch s!"key.{name}" "string" value.kind) := by
  induction front with
  | nil =>
      cases value with
      | string text => exact (offends ⟨text, rfl⟩).elim
      | null | bool | number | array | object => rfl
  | cons entry front ih =>
      obtain ⟨⟨text, isText⟩, beforeBehind⟩ := List.forall_mem_cons.mp before
      obtain ⟨other, _⟩ := entry
      obtain rfl := isText
      rw [List.cons_append, stringEntries, ih beforeBehind]
      rfl

/-- Of the entries of a map that are no texts, the one whose name has the least bytes. -/
structure LeastOffender (content : Dict Value) (name : String) (value : Value) : Prop where
  member : (name, value) ∈ content
  offends : ¬ value.IsText
  least : ∀ other ∈ content, ¬ other.2.IsText →
    other = (name, value) ∨ Text.bytes name < Text.bytes other.1

/-- In an ascending map the first entry that is no text is the least one. -/
theorem leastOffender_of_ascending
    (ascending : Dict.Ascending (front ++ (name, value) :: rest))
    (before : ∀ entry ∈ front, entry.2.IsText) (offends : ¬ value.IsText) :
    LeastOffender (front ++ (name, value) :: rest) name value := by
  refine ⟨by simp, offends, ?_⟩
  intro other member offendsThere
  have behind : other ∈ (name, value) :: rest := by
    rcases List.mem_append.mp member with inFront | behind
    · exact (offendsThere (before other inFront)).elim
    · exact behind
  have ascendingBehind := (List.pairwise_append.mp ascending).2.1
  rcases List.mem_cons.mp behind with same | later
  · exact .inl same
  · exact .inr (Text.bytes_lt_of_lt ((List.pairwise_cons.mp ascendingBehind).1 other later))

/-! ## The map of a key file -/

theorem ofMap_of_found (found : entries.get? "key" = some (.object content)) :
    ofMap entries = Outcome.within keyName ((stringEntries content).map ofEntries) := by
  rw [ofMap, Json.field_map_eq_ok_iff.mpr found]
  show Outcome.within keyName (stringEntries content >>= _) = _
  cases stringEntries content <;> rfl

theorem exists_content_of_ofMap (read : ofMap entries = .ok file) :
    ∃ content, entries.get? "key" = some (.object content) := by
  cases field : Json.field .map entries "key" with
  | ok content => exact ⟨content, Json.field_map_eq_ok_iff.mp field⟩
  | error failure =>
      rw [ofMap, field] at read
      cases read

/-- Only what stands under the name of the key file counts. -/
theorem ofMap_congr {others : Dict Value} (same : entries.get? "key" = others.get? "key") :
    ofMap entries = ofMap others := by
  rw [ofMap, ofMap, Json.field, Json.field, same]

theorem ofMap_of_toValue (found : entries.get? "key" = some file.toValue) :
    ofMap entries = .ok file :=
  (ofMap_congr found).trans (ofMap_toEnvelope file)

/-- What is read out of a map is the file that it is the map of, or the least offender is
reported. -/
theorem ofMap_cases (ordered : (Value.object entries).Ordered)
    (found : entries.get? "key" = some (.object content)) :
    (∃ file : Key, Value.object content = file.toValue ∧ ofMap entries = .ok file) ∨
      ∃ name value, LeastOffender content name value ∧
        ofMap entries =
          .error ⟨[keyName], .typeMismatch s!"key.{name}" "string" value.kind⟩ := by
  have ascending : content.Ascending := ordered.ascending_of_get? found
  rcases texts_or_offender content with
    ⟨texts, rfl⟩ | ⟨front, name, value, rest, rfl, before, offends⟩
  · rw [Dict.Ascending, Dict.mapValues, List.pairwise_map] at ascending
    exact .inl ⟨⟨texts, ascending⟩, rfl, ofMap_of_toValue found⟩
  · refine .inr ⟨name, value, leastOffender_of_ascending ascending before offends, ?_⟩
    rw [ofMap_of_found found, stringEntries_of_offender before offends]
    rfl

/-- A key file is read exactly out of a map of texts, as the file with the same names and the same
texts, and its envelope has that map again.  Of a map with entries that are no texts the one with
the least name is reported. -/
theorem ofMap_reads_texts (ordered : (Value.object entries).Ordered) :
    ((∃ file, ofMap entries = .ok file) ↔
      ∃ content, entries.get? "key" = some (.object content) ∧
        ∀ entry ∈ content, entry.2.IsText) ∧
    (∀ (file : Key) (content : Dict Value), ofMap entries = .ok file →
      entries.get? "key" = some (.object content) →
      content.names = file.entries.names ∧
      (∀ name, content.get? name = (file.entries.get? name).map .string) ∧
      file.toEnvelope.values.get? "key" = some (.object content)) ∧
    ∀ content, entries.get? "key" = some (.object content) →
      (∃ entry ∈ content, ¬ entry.2.IsText) →
      ∃ name value, LeastOffender content name value ∧
        ofMap entries =
          .error ⟨[keyName], .typeMismatch s!"key.{name}" "string" value.kind⟩ := by
  have reads {file : Key} {content : Dict Value} (read : ofMap entries = .ok file)
      (found : entries.get? "key" = some (.object content)) :
      content = file.entries.mapValues fun _ => .string := by
    rcases ofMap_cases ordered found with ⟨other, same, reached⟩ | ⟨_, _, _, failed⟩
    · obtain rfl : other = file := Except.ok.inj (reached.symm.trans read)
      exact Value.object.inj same
    · cases failed.symm.trans read
  refine ⟨⟨?_, ?_⟩, ?_, ?_⟩
  · rintro ⟨file, read⟩
    obtain ⟨content, found⟩ := exists_content_of_ofMap read
    exact ⟨content, found, reads read found ▸ forall_isText_mapValues file.entries⟩
  · rintro ⟨content, found, areTexts⟩
    rcases ofMap_cases ordered found with ⟨file, _, reached⟩ | ⟨name, value, offender, _⟩
    · exact ⟨file, reached⟩
    · exact (offender.offends (areTexts _ offender.member)).elim
  · intro file content read found
    obtain rfl := reads read found
    exact ⟨Dict.names_mapValues _ _, Dict.get?_mapValues _ _, rfl⟩
  · rintro content found ⟨entry, member, offends⟩
    rcases ofMap_cases ordered found with ⟨file, same, _⟩ | reported
    · obtain rfl : content = file.entries.mapValues fun _ => .string := Value.object.inj same
      exact (offends (forall_isText_mapValues file.entries entry member)).elim
    · exact reported

/-- A map with two entries that are no texts, the one with the greater name first in its text. -/
theorem ofMap_reads_texts_two_offenders :
    let entries : Dict Value :=
      [("key", .object [("a", .string "x"), ("b", .array []), ("c", .null)])]
    (Value.object entries).Ordered ∧
      ofMap entries = .error ⟨[keyName], .typeMismatch "key.b" "string" "array"⟩ := by
  intro entries
  have read : Json.read? "\x7b\"key\":\x7b\"c\":null,\"b\":[],\"a\":\"x\"\x7d\x7d" =
      some (.object entries) := by decide +kernel
  have ordered := Json.ordered_of_read? read
  have offends : ¬ (Value.array []).IsText := by
    rintro ⟨text, same⟩
    cases same
  obtain ⟨name, value, offender, failed⟩ :=
    (ofMap_reads_texts ordered).2.2 _ rfl ⟨("b", .array []), by simp, offends⟩
  rcases offender.least ("b", .array []) (by simp) offends with same | less
  · cases same
    exact ⟨ordered, failed⟩
  · have earlier : (name, value) = ("a", .string "x") := by
      have less := Text.bytes_lt_bytes_iff.mp less
      have member := offender.member
      simp only [List.mem_cons, Prod.mk.injEq, List.not_mem_nil, or_false] at member
      rcases member with ⟨rfl, rfl⟩ | ⟨rfl, rfl⟩ | ⟨rfl, rfl⟩
      · rfl
      · exact absurd less (by decide)
      · exact absurd less (by decide)
    cases earlier
    exact (offender.offends ⟨"x", rfl⟩).elim

end Gcp.Key

end CloudBilling
