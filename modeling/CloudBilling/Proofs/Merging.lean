import CloudBilling.Integration.Merge
import CloudBilling.Proofs.ByteOrder

/-!
# What merging keeps

Merging goes through the entries once and holds on to one entry for each key.  After every step
the entry that is held for a key is the first of those seen so far that came from the highest
source, and a key without an entry has not been seen.  So the merged list has one entry for each key
that occurs, in the order of the keys' bytes.
-/

namespace CloudBilling.Entry

/-! ## The entry that counts -/

/-- No entry for the same resource came from a higher source. -/
def Unsurpassed (entries : List Entry) (entry : Entry) : Prop :=
  ∀ other ∈ entries, other.key = entry.key → other.source ≤ entry.source

instance (entries : List Entry) (entry : Entry) : Decidable (Unsurpassed entries entry) :=
  inferInstanceAs (Decidable (∀ other ∈ entries, _ → _))

/-- The entry is the first for its resource from the highest source: what stands before it came from
lower sources, and what stands behind it from no higher one. -/
def Foremost (entries : List Entry) (entry : Entry) : Prop :=
  ∃ before after, entries = before ++ entry :: after ∧
    (∀ other ∈ before, other.key = entry.key → other.source < entry.source) ∧
    ∀ other ∈ after, other.key = entry.key → other.source ≤ entry.source

variable {seen entries : List Entry} {entry candidate current : Entry}

theorem Foremost.mem (foremost : Foremost entries entry) : entry ∈ entries := by
  obtain ⟨before, after, rfl, _⟩ := foremost
  exact List.mem_append_right before List.mem_cons_self

theorem Foremost.unsurpassed (foremost : Foremost entries entry) : Unsurpassed entries entry := by
  obtain ⟨before, after, rfl, below, notAbove⟩ := foremost
  intro other member sameKey
  rcases List.mem_append.mp member with earlier | later
  · exact Nat.le_of_lt (below other earlier sameKey)
  · rcases List.mem_cons.mp later with rfl | behind
    · exact Nat.le_refl _
    · exact notAbove other behind sameKey

/-- The foremost entry for a key is the first that is not surpassed. -/
theorem Foremost.find?_eq (foremost : Foremost entries entry) :
    (entries.find? fun other => other.key = entry.key ∧ Unsurpassed entries other) =
      some entry := by
  have unsurpassed := foremost.unsurpassed
  have member := foremost.mem
  obtain ⟨before, after, split, below, _⟩ := foremost
  refine List.find?_eq_some_iff_append.mpr ⟨by simpa using unsurpassed, before, after, split, ?_⟩
  intro other earlier
  simp only [Bool.not_eq_true', decide_eq_false_iff_not, not_and]
  intro sameKey otherUnsurpassed
  exact Nat.not_le_of_lt (below other earlier sameKey)
    (otherUnsurpassed entry member sameKey.symm)

theorem foremost_snoc_self
    (below : ∀ other ∈ seen, other.key = candidate.key → other.source < candidate.source) :
    Foremost (seen ++ [candidate]) candidate := by
  refine ⟨seen, [], rfl, below, ?_⟩
  intro other member
  cases member

theorem Foremost.append {later : List Entry} (foremost : Foremost seen entry)
    (notAbove : ∀ other ∈ later, other.key = entry.key → other.source ≤ entry.source) :
    Foremost (seen ++ later) entry := by
  obtain ⟨before, after, rfl, below, behind⟩ := foremost
  refine ⟨before, after ++ later, by simp, below, ?_⟩
  intro other member
  rcases List.mem_append.mp member with earlier | last
  · exact behind other earlier
  · exact notAbove other last

theorem Foremost.snoc (foremost : Foremost seen entry)
    (notAbove : candidate.key = entry.key → candidate.source ≤ entry.source) :
    Foremost (seen ++ [candidate]) entry :=
  foremost.append (by simpa using notAbove)

/-! ## One step -/

variable {kept : Dict Entry}

theorem value_prevail (key : String) (current candidate : Entry) :
    (prevail key current candidate).value =
      if current.source < candidate.source then candidate else current := by
  unfold prevail
  split
  · rfl
  · split <;> rfl

theorem value_absorb_of_absent (absent : kept.get? candidate.key = none) :
    (absorb kept candidate).value = kept.put candidate.key candidate := by
  simp [absorb, absent]

theorem value_absorb_of_present (present : kept.get? candidate.key = some current) :
    (absorb kept candidate).value = kept.put candidate.key
      (if current.source < candidate.source then candidate else current) := by
  simp [absorb, present, value_prevail]

/-- What is held after some entries were seen. -/
structure Keeps (seen : List Entry) (kept : Dict Entry) : Prop where
  ascending : kept.Ascending
  absent : ∀ key, kept.get? key = none → ∀ entry ∈ seen, entry.key ≠ key
  present : ∀ key entry, kept.get? key = some entry → entry.key = key ∧ Foremost seen entry

theorem keeps_nil : Keeps [] [] := by
  refine ⟨List.Pairwise.nil, ?_, ?_⟩
  · intro key _ entry member
    cases member
  · intro key entry found
    cases found

/-- Putting the foremost entry under the key of the last one keeps the rest foremost. -/
theorem Keeps.put {winner : Entry} (keeps : Keeps seen kept) (sameKey : winner.key = candidate.key)
    (foremost : Foremost (seen ++ [candidate]) winner) :
    Keeps (seen ++ [candidate]) (kept.put candidate.key winner) := by
  refine ⟨Dict.ascending_put keeps.ascending _ _, ?_, ?_⟩
  · intro key absent entry member
    by_cases here : key = candidate.key
    · subst here
      simp at absent
    · rw [Dict.get?_put_of_ne _ _ here] at absent
      rcases List.mem_append.mp member with earlier | last
      · exact keeps.absent key absent entry earlier
      · rw [List.mem_singleton.mp last]
        exact Ne.symm here
  · intro key entry found
    by_cases here : key = candidate.key
    · subst here
      rw [Dict.get?_put_self] at found
      cases found
      exact ⟨sameKey, foremost⟩
    · rw [Dict.get?_put_of_ne _ _ here] at found
      obtain ⟨entryKey, entryForemost⟩ := keeps.present key entry found
      refine ⟨entryKey, entryForemost.snoc ?_⟩
      intro same
      exact absurd (entryKey.symm.trans same.symm) here

/-- One more entry is seen. -/
theorem Keeps.absorb (keeps : Keeps seen kept) (candidate : Entry) :
    Keeps (seen ++ [candidate]) (absorb kept candidate).value := by
  cases held : kept.get? candidate.key with
  | none =>
      rw [value_absorb_of_absent held]
      refine keeps.put rfl (foremost_snoc_self ?_)
      intro other member sameKey
      exact absurd sameKey (keeps.absent _ held other member)
  | some current =>
      obtain ⟨sameKey, foremost⟩ := keeps.present _ current held
      rw [value_absorb_of_present held]
      split
      · next higher =>
          refine keeps.put rfl (foremost_snoc_self ?_)
          intro other member otherKey
          exact Nat.lt_of_le_of_lt
            (foremost.unsurpassed other member (otherKey.trans sameKey.symm)) higher
      · next notHigher =>
          exact keeps.put sameKey (foremost.snoc fun _ => Nat.le_of_not_lt notHigher)

/-! ## The whole run -/

theorem Keeps.absorbAll (keeps : Keeps seen kept) (rest : List Entry) :
    Keeps (seen ++ rest) (absorbAll kept rest).value := by
  induction rest generalizing seen kept with
  | nil => simpa [Entry.absorbAll] using keeps
  | cons candidate rest ih =>
      have next := ih (keeps.absorb candidate)
      rw [List.append_assoc] at next
      exact next

theorem keeps_absorbAll (entries : List Entry) : Keeps entries (absorbAll [] entries).value :=
  keeps_nil.absorbAll entries

theorem value_merge (entries : List Entry) :
    (merge entries).value = (absorbAll [] entries).value.map (·.2) := rfl

theorem Keeps.key_of_mem (keeps : Keeps seen kept) {key : String} (member : (key, entry) ∈ kept) :
    entry.key = key :=
  (keeps.present key entry (Dict.get?_of_mem keeps.ascending member)).1

/-- The entries that are held, seen as a list, are found under the same keys. -/
theorem find?_map_snd (kept : Dict Entry) (keyed : ∀ held ∈ kept, held.2.key = held.1)
    (key : String) : ((kept.map (·.2)).find? fun entry => entry.key = key) = kept.get? key := by
  induction kept with
  | nil => rfl
  | cons held rest ih =>
      obtain ⟨name, entry⟩ := held
      have named : entry.key = name := keyed (name, entry) List.mem_cons_self
      have tail := ih fun other member => keyed other (List.mem_cons_of_mem _ member)
      rw [List.map_cons, List.find?_cons, Dict.get?_cons, tail, named]
      by_cases same : name = key <;> simp [same]

theorem pairwise_merge (entries : List Entry) :
    (merge entries).value.Pairwise fun former latter => former.key < latter.key := by
  have keeps := keeps_absorbAll entries
  rw [value_merge, List.pairwise_map]
  refine keeps.ascending.imp_of_mem ?_
  intro former latter formerHeld latterHeld less
  rw [keeps.key_of_mem formerHeld, keeps.key_of_mem latterHeld]
  exact less

theorem find?_merge (entries : List Entry) (key : String) :
    ((merge entries).value.find? fun entry => entry.key = key) =
      entries.find? fun entry => entry.key = key ∧ Unsurpassed entries entry := by
  have keeps := keeps_absorbAll entries
  rw [value_merge, find?_map_snd _ (fun held member => keeps.key_of_mem member)]
  cases held : (absorbAll [] entries).value.get? key with
  | none =>
      refine (List.find?_eq_none.mpr ?_).symm
      intro entry member
      simp [keeps.absent key held entry member]
  | some entry =>
      obtain ⟨rfl, foremost⟩ := keeps.present key entry held
      exact foremost.find?_eq.symm

theorem get?_of_mem_merge (member : entry ∈ (merge entries).value) :
    (absorbAll [] entries).value.get? entry.key = some entry := by
  have keeps := keeps_absorbAll entries
  obtain ⟨⟨name, entry⟩, held, rfl⟩ := List.mem_map.mp member
  rw [keeps.key_of_mem held]
  exact Dict.get?_of_mem keeps.ascending held

/-- No two entries that are kept have one key. -/
theorem eq_of_mem_merge (member : entry ∈ (merge entries).value)
    (otherMember : candidate ∈ (merge entries).value) (sameKey : candidate.key = entry.key) :
    candidate = entry := by
  have found := get?_of_mem_merge otherMember
  rw [sameKey, get?_of_mem_merge member] at found
  exact (Option.some.inj found).symm

/-- The foremost entry for the resource of any entry is kept. -/
theorem exists_mem_merge (member : entry ∈ entries) :
    ∃ kept ∈ (merge entries).value, kept.key = entry.key ∧ Foremost entries kept := by
  have keeps := keeps_absorbAll entries
  cases held : (absorbAll [] entries).value.get? entry.key with
  | none => exact absurd rfl (keeps.absent _ held entry member)
  | some winner =>
      exact ⟨winner, List.mem_map_of_mem (Dict.mem_of_get? held), keeps.present _ winner held⟩

theorem mem_keys_merge_iff (entries : List Entry) (key : String) :
    key ∈ (merge entries).value.map Entry.key ↔ key ∈ entries.map Entry.key := by
  constructor
  · intro member
    obtain ⟨entry, kept, rfl⟩ := List.mem_map.mp member
    have found := get?_of_mem_merge kept
    exact List.mem_map_of_mem ((keeps_absorbAll entries).present _ entry found).2.mem
  · intro member
    obtain ⟨entry, seen, rfl⟩ := List.mem_map.mp member
    obtain ⟨kept, keptMember, sameKey, _⟩ := exists_mem_merge seen
    exact sameKey ▸ List.mem_map_of_mem keptMember

/-- Merging keeps one entry for each key that occurs, in the order of the keys' bytes: the first of
the entries with that key whose source is the highest of them. -/
theorem merge_keeps_foremost (entries : List Entry) :
    ((merge entries).value.Pairwise fun former latter =>
      Text.bytes former.key < Text.bytes latter.key) ∧
    (∀ key, ((merge entries).value.map Entry.key).count key =
      if key ∈ entries.map Entry.key then 1 else 0) ∧
    ∀ key, ((merge entries).value.find? fun entry => entry.key = key) =
      entries.find? fun entry => entry.key = key ∧ Unsurpassed entries entry := by
  refine ⟨?_, ?_, find?_merge entries⟩
  · exact (pairwise_merge entries).imp Text.bytes_lt_of_lt
  · intro key
    have nodup : ((merge entries).value.map Entry.key).Nodup := by
      refine List.pairwise_map.mpr ((pairwise_merge entries).imp ?_)
      intro former latter less same
      exact String.lt_irrefl _ (same ▸ less)
    simp only [nodup.count, mem_keys_merge_iff]

/-! ## Entries behind others -/

theorem find?_merge_of_foremost (foremost : Foremost entries entry) :
    ((merge entries).value.find? fun other => other.key = entry.key) = some entry :=
  (find?_merge entries entry.key).trans foremost.find?_eq

variable {former latter : List Entry} {source : Source} {key : String}

end CloudBilling.Entry
