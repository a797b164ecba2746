import CloudBilling.Json.Reader

/-!
# The order of maps that were read

A reader puts every entry that it comes to into the entries before it, and that keeps them in
ascending order.  So all maps inside a value that was read from a text are ordered, however the
entries stand in the text.
-/

namespace CloudBilling.Json

/-! ## Ordered values -/

namespace Value

variable {entries content : Dict Value} {key : String} {value : Value}

theorem orderedEntries_iff : OrderedEntries entries ↔ ∀ entry ∈ entries, entry.2.Ordered := by
  induction entries with
  | nil => simp [OrderedEntries]
  | cons entry rest ih => rw [OrderedEntries, List.forall_mem_cons, ih]

theorem ordered_object_iff :
    (object entries).Ordered ↔
      Dict.Ascending entries ∧ ∀ entry ∈ entries, entry.2.Ordered := by
  rw [Ordered, orderedEntries_iff]

theorem ordered_object_nil : (object []).Ordered :=
  ordered_object_iff.mpr ⟨List.Pairwise.nil, List.forall_mem_nil _⟩

/-- A map inside an ordered one lists its entries in ascending order too. -/
theorem Ordered.ascending_of_get? (ordered : (object entries).Ordered)
    (found : entries.get? key = some (.object content)) : content.Ascending := by
  have inside := (ordered_object_iff.mp ordered).2 _ (Dict.mem_of_get? found)
  exact (ordered_object_iff.mp inside).1

theorem Ordered.put (ordered : (object entries).Ordered) (key : String)
    (valueOrdered : value.Ordered) : (object (entries.put key value)).Ordered := by
  obtain ⟨ascending, entriesOrdered⟩ := ordered_object_iff.mp ordered
  refine ordered_object_iff.mpr ⟨Dict.ascending_put ascending key value, ?_⟩
  intro entry member
  rcases Dict.mem_of_mem_put member with rfl | before
  · exact valueOrdered
  · exact entriesOrdered entry before

end Value

/-! ## Reading -/

variable {fuel levels : Nat} {text rest : List Char} {value : Value}

/-- As far as some fuel reaches, values are read with their maps in order, and the entries of a map
are put into ordered ones. -/
structure ReadsOrdered (fuel : Nat) : Prop where
  value : ∀ {levels text value rest}, readValue fuel levels text = some (value, rest) →
    value.Ordered
  elements : ∀ {levels text elements rest}, readElements fuel levels text = some (elements, rest) →
    Value.OrderedElements elements
  entries : ∀ {levels entries text all rest}, (Value.object entries).Ordered →
    readEntries fuel levels entries text = some (all, rest) → (Value.object all).Ordered

theorem ordered_readWord {word : String} (ordered : value.Ordered) {found : Value}
    (read : readWord word value text = some (found, rest)) : found.Ordered := by
  rw [readWord] at read
  split at read
  · cases read
    exact ordered
  · cases read

theorem ordered_readNumber {found : Value} (read : readNumber text = some (found, rest)) :
    found.Ordered := by
  simp only [readNumber, Option.bind_eq_bind, Option.bind_eq_some_iff] at read
  obtain ⟨⟨numeral, behind⟩, _, number, _, same⟩ := read
  cases same
  simp [Value.Ordered]

theorem ordered_readValue (inside : ReadsOrdered fuel)
    (read : readValue (fuel + 1) levels text = some (value, rest)) : value.Ordered := by
  rw [readValue] at read
  split at read
  · obtain ⟨⟨string, behind⟩, _, same⟩ := Option.map_eq_some_iff.mp read
    cases same
    simp [Value.Ordered]
  · split at read
    · cases read
    · split at read
      · cases read
        simp [Value.Ordered, Value.OrderedElements]
      · obtain ⟨⟨elements, behind⟩, readElements, same⟩ := Option.map_eq_some_iff.mp read
        cases same
        rw [Value.Ordered]
        exact inside.elements readElements
  · split at read
    · cases read
    · split at read
      · cases read
        exact Value.ordered_object_nil
      · obtain ⟨⟨entries, behind⟩, readEntries, same⟩ := Option.map_eq_some_iff.mp read
        cases same
        exact inside.entries Value.ordered_object_nil readEntries
  · exact ordered_readWord (by simp [Value.Ordered]) read
  · exact ordered_readWord (by simp [Value.Ordered]) read
  · exact ordered_readWord (by simp [Value.Ordered]) read
  · exact ordered_readNumber read

theorem ordered_readElements (inside : ReadsOrdered fuel) {elements : List Value}
    (read : readElements (fuel + 1) levels text = some (elements, rest)) :
    Value.OrderedElements elements := by
  simp only [readElements, Option.bind_eq_bind, Option.bind_eq_some_iff] at read
  obtain ⟨⟨value, behind⟩, readValue, further⟩ := read
  have first := inside.value readValue
  split at further
  · obtain ⟨⟨others, behind⟩, readOthers, same⟩ := Option.bind_eq_some_iff.mp further
    cases same
    exact ⟨first, inside.elements readOthers⟩
  · cases further
    exact ⟨first, trivial⟩
  · cases further

theorem ordered_readEntries (inside : ReadsOrdered fuel) {entries all : Dict Value}
    (ordered : (Value.object entries).Ordered)
    (read : readEntries (fuel + 1) levels entries text = some (all, rest)) :
    (Value.object all).Ordered := by
  rw [readEntries] at read
  split at read
  · simp only [Option.bind_eq_bind, Option.bind_eq_some_iff] at read
    obtain ⟨⟨key, behindKey⟩, _, read⟩ := read
    split at read
    · obtain ⟨⟨value, behind⟩, readValue, read⟩ := Option.bind_eq_some_iff.mp read
      have more : (Value.object (entries.put key value)).Ordered :=
        ordered.put key (inside.value readValue)
      split at read
      · exact inside.entries more read
      · cases read
        exact more
      · cases read
    · cases read
  · cases read

theorem readsOrdered (fuel : Nat) : ReadsOrdered fuel := by
  induction fuel with
  | zero =>
      constructor
      · intro levels text value rest read
        rw [readValue] at read
        cases read
      · intro levels text elements rest read
        rw [readElements] at read
        cases read
      · intro levels entries text all rest _ read
        rw [readEntries] at read
        cases read
  | succ fuel ih =>
      exact ⟨ordered_readValue ih, ordered_readElements ih, ordered_readEntries ih⟩

/-- Every map in a value that was read lists its entries in ascending order. -/
theorem ordered_of_read? {text : String} (read : read? text = some value) : value.Ordered := by
  simp only [read?, Option.bind_eq_bind, Option.bind_eq_some_iff] at read
  obtain ⟨⟨found, rest⟩, first, same⟩ := read
  split at same
  · cases same
    exact (readsOrdered _).value first
  · cases same

end CloudBilling.Json
