/-!
# String-keyed maps

A map is the list of its entries. Every map that the library builds or reads lists its
entries in strictly ascending order of key, so that two maps with the same entries are the
same list and printing needs no sorting. The main statements say what a key reads after an
insertion and that insertion keeps the order.
-/

namespace CloudBilling

/-- A string-keyed map, held as the list of its entries. -/
abbrev Dict (α : Type) := List (String × α)

namespace Dict

variable {α β : Type}

/-- The keys strictly ascend in code point order, which is also the byte order of UTF-8. -/
def Ascending (dict : Dict α) : Prop :=
  dict.Pairwise fun former latter => former.1 < latter.1

/-- The value under `key`, if the key is present. -/
def get? : Dict α → String → Option α
  | [], _ => none
  | (name, value) :: rest, key => if name = key then some value else get? rest key

/-- Whether `key` is present. -/
def has (dict : Dict α) (key : String) : Bool :=
  (dict.get? key).isSome

/-- The keys, in ascending order. -/
def names (dict : Dict α) : List String :=
  dict.map (·.1)

/-- Put `value` under `key`, replacing what was there. -/
def put : Dict α → String → α → Dict α
  | [], key, value => [(key, value)]
  | (name, old) :: rest, key, value =>
      if key < name then (key, value) :: (name, old) :: rest
      else if name = key then (key, value) :: rest
      else (name, old) :: put rest key value

/-- Change the value under `key`; a map without that key stays as it is. -/
def update (dict : Dict α) (key : String) (change : α → α) : Dict α :=
  dict.map fun entry => if entry.1 = key then (entry.1, change entry.2) else entry

/-- The map of a list of entries in any order; of two entries with one key the later counts. -/
def ofEntries (entries : List (String × α)) : Dict α :=
  entries.foldl (fun dict entry => dict.put entry.1 entry.2) []

@[simp] theorem get?_nil (key : String) : get? ([] : Dict α) key = none := rfl

theorem get?_cons (name : String) (value : α) (rest : Dict α) (key : String) :
    get? ((name, value) :: rest) key = if name = key then some value else get? rest key := rfl

/-- A map with a key is not the empty one. -/
theorem ne_nil_of_has {dict : Dict α} {key : String} (present : dict.has key = true) :
    dict ≠ [] := by
  rintro rfl
  cases present

@[simp] theorem get?_put_self (dict : Dict α) (key : String) (value : α) :
    get? (put dict key value) key = some value := by
  induction dict with
  | nil => simp [put, get?]
  | cons entry rest ih =>
      obtain ⟨name, old⟩ := entry
      unfold put
      split
      · simp [get?]
      · split
        · simp [get?]
        · next distinct => simp [get?, distinct, ih]

theorem get?_put_of_ne (dict : Dict α) {key other : String} (value : α)
    (distinct : other ≠ key) : get? (put dict key value) other = get? dict other := by
  induction dict with
  | nil => simp [put, get?, distinct.symm]
  | cons entry rest ih =>
      obtain ⟨name, old⟩ := entry
      unfold put
      split
      · simp [get?, distinct.symm]
      · split
        · next same => subst same; simp [get?, distinct.symm]
        · simp [get?, ih]

/-- A value found under a key is the value of an entry. -/
theorem mem_of_get? {dict : Dict α} {key : String} {value : α}
    (found : get? dict key = some value) : (key, value) ∈ dict := by
  induction dict with
  | nil => simp at found
  | cons entry rest ih =>
      obtain ⟨name, old⟩ := entry
      rw [get?_cons] at found
      split at found
      · next same =>
          subst same
          simp_all
      · exact List.mem_cons_of_mem _ (ih found)

/-- Where no key stands twice, what is found under a key is what stands there. -/
theorem get?_eq_some_iff_mem {dict : Dict α} (distinct : dict.names.Nodup) {key : String}
    {value : α} : get? dict key = some value ↔ (key, value) ∈ dict := by
  refine ⟨mem_of_get?, fun member => ?_⟩
  induction dict with
  | nil => cases member
  | cons entry rest ih =>
      obtain ⟨name, old⟩ := entry
      obtain ⟨notBehind, restDistinct⟩ := List.nodup_cons.mp distinct
      rw [get?_cons]
      rcases List.mem_cons.mp member with same | later
      · cases same
        exact if_pos rfl
      · have other : name ≠ key := by
          intro same
          exact notBehind (same ▸ List.mem_map_of_mem (f := (·.1)) later)
        rw [if_neg other]
        exact ih restDistinct later

theorem Ascending.nodup_names {dict : Dict α} (ascending : Ascending dict) :
    dict.names.Nodup := by
  refine List.pairwise_map.mpr (ascending.imp ?_)
  intro former latter below same
  exact String.lt_irrefl latter.1 (same ▸ below)

/-- In an ascending map every entry is found under its key. -/
theorem get?_of_mem {dict : Dict α} (ascending : Ascending dict) {key : String} {value : α}
    (member : (key, value) ∈ dict) : get? dict key = some value :=
  (get?_eq_some_iff_mem ascending.nodup_names).mpr member

theorem names_append (dict other : Dict α) : names (dict ++ other) = names dict ++ names other :=
  List.map_append

theorem perm_names {dict other : Dict α} (same : other.Perm dict) :
    other.names.Perm dict.names :=
  List.Perm.map _ same

/-- Where no key stands twice, the order of the entries does not matter to what is found. -/
theorem get?_eq_of_perm {dict other : Dict α} (distinct : dict.names.Nodup)
    (same : other.Perm dict) (key : String) : get? other key = get? dict key := by
  have otherDistinct : other.names.Nodup := (perm_names same).nodup_iff.mpr distinct
  apply Option.ext
  intro value
  rw [get?_eq_some_iff_mem otherDistinct, get?_eq_some_iff_mem distinct, same.mem_iff]

@[simp] theorem names_update (dict : Dict α) (key : String) (change : α → α) :
    names (update dict key change) = names dict := by
  simp only [names, update, List.map_map]
  congr 1
  funext entry
  simp only [Function.comp]
  split <;> rfl

theorem get?_update (dict : Dict α) (key other : String) (change : α → α) :
    get? (update dict key change) other =
      if other = key then (get? dict other).map change else get? dict other := by
  induction dict with
  | nil => simp [update]
  | cons entry rest ih =>
      obtain ⟨name, old⟩ := entry
      simp only [update, List.map_cons] at ih ⊢
      by_cases same : name = key <;> by_cases found : name = other <;>
        simp_all [get?]

@[simp] theorem has_update (dict : Dict α) (key other : String) (change : α → α) :
    has (update dict key change) other = has dict other := by
  rw [has, get?_update, has]
  by_cases same : other = key
  · rw [if_pos same, Option.isSome_map]
  · rw [if_neg same]

/-- Two changes under one key are one change. -/
theorem update_update (dict : Dict α) (key : String) (first second : α → α) :
    update (update dict key first) key second = update dict key (second ∘ first) := by
  simp only [update, List.map_map]
  congr 1
  funext entry
  by_cases same : entry.1 = key <;> simp [same]

/-- Changes under two keys can be made in either order. -/
theorem update_comm (dict : Dict α) {key other : String} (change otherChange : α → α)
    (distinct : key ≠ other) :
    update (update dict key change) other otherChange =
      update (update dict other otherChange) key change := by
  simp only [update, List.map_map]
  congr 1
  funext entry
  by_cases here : entry.1 = key
  · simp [here, distinct]
  · by_cases there : entry.1 = other
    · simp [there, distinct.symm]
    · simp [here, there]

/-- An entry of a map after an insertion is the inserted one or was there before. -/
theorem mem_of_mem_put {dict : Dict α} {key : String} {value : α} {entry : String × α}
    (member : entry ∈ put dict key value) : entry = (key, value) ∨ entry ∈ dict := by
  induction dict with
  | nil => simpa [put] using member
  | cons head rest ih =>
      obtain ⟨name, old⟩ := head
      unfold put at member
      split at member
      · simpa using member
      · split at member
        · rcases List.mem_cons.mp member with same | later
          · exact .inl same
          · exact .inr (List.mem_cons_of_mem _ later)
        · rcases List.mem_cons.mp member with same | later
          · exact .inr (by simp [same])
          · rcases ih later with same | earlier
            · exact .inl same
            · exact .inr (List.mem_cons_of_mem _ earlier)

/-- Insertion keeps the order of the keys. -/
theorem ascending_put {dict : Dict α} (ascending : Ascending dict) (key : String) (value : α) :
    Ascending (put dict key value) := by
  induction dict with
  | nil => simp [put, Ascending]
  | cons head rest ih =>
      obtain ⟨name, old⟩ := head
      obtain ⟨above, restAscending⟩ := List.pairwise_cons.mp ascending
      unfold put
      split
      · next below =>
          refine List.pairwise_cons.mpr ⟨?_, ascending⟩
          intro entry member
          rcases List.mem_cons.mp member with rfl | later
          · exact below
          · exact String.lt_trans below (above entry later)
      · next notBelow =>
          split
          · next same =>
              subst same
              exact List.pairwise_cons.mpr ⟨above, restAscending⟩
          · next distinct =>
              refine List.pairwise_cons.mpr ⟨?_, ih restAscending⟩
              intro entry member
              rcases mem_of_mem_put member with rfl | earlier
              · by_cases less : name < key
                · exact less
                · exact absurd
                    (String.le_antisymm (String.not_lt.mp notBelow) (String.not_lt.mp less))
                    distinct
              · exact above entry earlier

/-- The map of a list of entries has its keys in ascending order. -/
theorem ascending_ofEntries (entries : List (String × α)) : Ascending (ofEntries entries) := by
  suffices general : ∀ dict : Dict α, Ascending dict →
      Ascending (entries.foldl (fun dict entry => dict.put entry.1 entry.2) dict) from
    general [] List.Pairwise.nil
  induction entries with
  | nil => exact fun _ ascending => ascending
  | cons entry rest ih => exact fun _ ascending => ih _ (ascending_put ascending _ _)

theorem put_ne_nil (dict : Dict α) (key : String) (value : α) : put dict key value ≠ [] := by
  cases dict with
  | nil => exact List.cons_ne_nil _ _
  | cons head rest =>
      rw [put]
      split
      · exact List.cons_ne_nil _ _
      · split <;> exact List.cons_ne_nil _ _

/-- A map is empty exactly if it is made of no entries. -/
theorem ofEntries_eq_nil_iff {entries : List (String × α)} : ofEntries entries = [] ↔ entries = [] := by
  rcases List.eq_nil_or_concat entries with rfl | ⟨front, last, rfl⟩
  · exact ⟨fun _ => rfl, fun _ => rfl⟩
  · simp [ofEntries, put_ne_nil]

/-- A value under a new key is one more entry. -/
theorem perm_put {dict : Dict α} {key : String} (new : key ∉ dict.names) (value : α) :
    (put dict key value).Perm ((key, value) :: dict) := by
  induction dict with
  | nil => exact .refl _
  | cons head rest ih =>
      obtain ⟨name, old⟩ := head
      have notHere : name ≠ key := fun same => new (same ▸ List.mem_cons_self)
      have notBehind : key ∉ names rest := fun behind => new (List.mem_cons_of_mem _ behind)
      rw [put]
      split
      · exact .refl _
      · exact ((ih notBehind).cons (name, old)).trans (.swap _ _ rest)

/-- A key above all others is put at the end. -/
theorem put_eq_append {dict : Dict α} {key : String} (value : α)
    (above : ∀ entry ∈ dict, entry.1 < key) : put dict key value = dict ++ [(key, value)] := by
  induction dict with
  | nil => rfl
  | cons head rest ih =>
      obtain ⟨name, old⟩ := head
      have less : name < key := above (name, old) List.mem_cons_self
      have distinct : name ≠ key := fun same => String.lt_irrefl key (same ▸ less)
      simp [put, String.lt_asymm less, distinct,
        ih fun entry member => above entry (List.mem_cons_of_mem _ member)]

/-- Entries in ascending order are a map as they stand. -/
theorem ofEntries_of_ascending {entries : List (String × α)} (ascending : Ascending entries) :
    ofEntries entries = entries := by
  suffices general : ∀ dict : Dict α, Ascending (dict ++ entries) →
      entries.foldl (fun dict entry => dict.put entry.1 entry.2) dict = dict ++ entries from
    general [] ascending
  clear ascending
  induction entries with
  | nil => simp
  | cons entry rest ih =>
      intro dict ordered
      have above : ∀ earlier ∈ dict, earlier.1 < entry.1 := fun earlier member =>
        (List.pairwise_append.mp ordered).2.2 earlier member entry List.mem_cons_self
      rw [List.foldl_cons, put_eq_append _ above, ih _ (by simpa using ordered)]
      simp

/-- The map of a list of entries without a key that stands twice holds just these entries. -/
theorem perm_ofEntries {entries : List (String × α)} (distinct : (names entries).Nodup) :
    (ofEntries entries).Perm entries := by
  suffices general : ∀ dict : Dict α, (names (dict ++ entries)).Nodup →
      (entries.foldl (fun dict entry => dict.put entry.1 entry.2) dict).Perm (dict ++ entries) from
    general [] distinct
  clear distinct
  induction entries with
  | nil => simp
  | cons entry rest ih =>
      intro dict distinct
      have moved : (dict ++ entry :: rest).Perm (entry :: (dict ++ rest)) := List.perm_middle
      have movedDistinct := (perm_names moved).nodup_iff.mp distinct
      have new : entry.1 ∉ names dict := by
        intro earlier
        have notAgain : entry.1 ∉ names (dict ++ rest) := (List.nodup_cons.mp movedDistinct).1
        rw [names_append] at notAgain
        exact notAgain (List.mem_append_left _ earlier)
      have step : (dict.put entry.1 entry.2 ++ rest).Perm (entry :: (dict ++ rest)) :=
        (perm_put new entry.2).append_right rest
      rw [List.foldl_cons]
      refine (ih _ ?_).trans (step.trans moved.symm)
      exact (perm_names step).nodup_iff.mpr movedDistinct

end Dict

end CloudBilling
