import CloudBilling.Proofs.Merging
import Mathlib.Data.List.Sort

/-!
# Merging in parts and in any order

The merged list holds the foremost entry for each key and nothing else, in the order of the keys, so
two lists with the same foremost entries are merged to the same list.  Merging keeps what is
foremost; therefore parts may be merged before the whole is.  Where the key and the source tell the
entries apart, being foremost does not depend on the order in which they come.
-/

namespace CloudBilling.Entry

variable {entries others former latter : List Entry} {entry : Entry}

/-! ## The merged list and its members -/

theorem mem_merge_iff : entry ∈ (merge entries).value ↔ Foremost entries entry := by
  constructor
  · intro member
    exact ((keeps_absorbAll entries).present _ entry (get?_of_mem_merge member)).2
  · intro foremost
    exact List.mem_of_find?_eq_some (find?_merge_of_foremost foremost)

/-- The order of the keys leaves one list with given members. -/
theorem merge_eq_of_foremost_iff
    (same : ∀ entry, Foremost entries entry ↔ Foremost others entry) :
    (merge entries).value = (merge others).value := by
  have _irrefl : Std.Irrefl fun former latter : Entry => former.key < latter.key :=
    ⟨fun entry => String.lt_irrefl entry.key⟩
  have _antisymm : Std.Antisymm fun former latter : Entry => former.key < latter.key :=
    ⟨fun _ _ less greater => absurd greater (String.lt_asymm less)⟩
  refine (pairwise_merge entries).eq_of_mem_iff (pairwise_merge others) ?_
  intro entry
  rw [mem_merge_iff, mem_merge_iff, same]

/-! ## Parts -/

/-- No entry of a list has the key of an entry and a source above its own. -/
theorem unsurpassed_merge_iff :
    Unsurpassed (merge entries).value entry ↔ Unsurpassed entries entry := by
  constructor
  · intro unsurpassed other member sameKey
    obtain ⟨kept, keptMember, keptKey, foremost⟩ := exists_mem_merge member
    have above : other.source ≤ kept.source := foremost.unsurpassed other member keptKey.symm
    exact Nat.le_trans above (unsurpassed kept keptMember (keptKey.trans sameKey))
  · intro unsurpassed other member
    exact unsurpassed other (mem_merge_iff.mp member).mem

/-- Every entry of a list with the key of an entry has a source below its own. -/
theorem below_merge_iff :
    (∀ other ∈ (merge entries).value, other.key = entry.key → other.source < entry.source) ↔
      ∀ other ∈ entries, other.key = entry.key → other.source < entry.source := by
  constructor
  · intro below other member sameKey
    obtain ⟨kept, keptMember, keptKey, foremost⟩ := exists_mem_merge member
    have above : other.source ≤ kept.source := foremost.unsurpassed other member keptKey.symm
    exact Nat.lt_of_le_of_lt above (below kept keptMember (keptKey.trans sameKey))
  · intro below other member
    exact below other (mem_merge_iff.mp member).mem

/-- What is foremost in a merged list was foremost before. -/
theorem foremost_merge_iff : Foremost (merge entries).value entry ↔ Foremost entries entry := by
  constructor
  · exact fun foremost => mem_merge_iff.mp foremost.mem
  · intro foremost
    obtain ⟨before, after, split⟩ := List.append_of_mem (mem_merge_iff.mpr foremost)
    have ascending := pairwise_merge entries
    rw [split] at ascending
    refine ⟨before, after, split, ?_, ?_⟩
    · intro other earlier sameKey
      have less : other.key < entry.key :=
        (List.pairwise_append.mp ascending).2.2 other earlier entry List.mem_cons_self
      exact absurd less (sameKey ▸ String.lt_irrefl _)
    · intro other later sameKey
      have less : entry.key < other.key :=
        (List.pairwise_cons.mp (List.pairwise_append.mp ascending).2.1).1 other later
      exact absurd less (sameKey ▸ String.lt_irrefl _)

/-- The foremost entry of two lists is that of the first, if the second has none from a higher
source, or that of the second, if the first has only entries from lower sources. -/
theorem foremost_append_iff :
    Foremost (former ++ latter) entry ↔
      Foremost former entry ∧ Unsurpassed latter entry ∨
        Foremost latter entry ∧
          ∀ other ∈ former, other.key = entry.key → other.source < entry.source := by
  constructor
  · rintro ⟨before, after, split, below, notAbove⟩
    rcases List.append_eq_append_iff.mp split with ⟨rest, rfl, inLatter⟩ | ⟨rest, inFormer, behind⟩
    · refine .inr ⟨⟨rest, after, inLatter, ?_, notAbove⟩, ?_⟩
      · exact fun other member => below other (List.mem_append_right former member)
      · exact fun other member => below other (List.mem_append_left rest member)
    · cases rest with
      | nil =>
          refine .inr ⟨⟨[], after, behind.symm, by simp, notAbove⟩, ?_⟩
          rw [List.append_nil] at inFormer
          exact inFormer ▸ below
      | cons head rest =>
          obtain ⟨rfl, rfl⟩ := List.cons.inj behind
          refine .inl ⟨⟨before, rest, inFormer, below, ?_⟩, ?_⟩
          · exact fun other member => notAbove other (List.mem_append_left latter member)
          · exact fun other member => notAbove other (List.mem_append_right rest member)
  · rintro (⟨foremost, unsurpassed⟩ | ⟨⟨before, after, rfl, below, notAbove⟩, belowFormer⟩)
    · exact foremost.append unsurpassed
    · refine ⟨former ++ before, after, by simp, ?_, notAbove⟩
      intro other member
      rcases List.mem_append.mp member with earlier | later
      · exact belowFormer other earlier
      · exact below other later

theorem merge_append_merge (former latter : List Entry) :
    (merge ((merge former).value ++ (merge latter).value)).value =
      (merge (former ++ latter)).value := by
  apply merge_eq_of_foremost_iff
  intro entry
  rw [foremost_append_iff, foremost_append_iff, foremost_merge_iff, foremost_merge_iff,
    unsurpassed_merge_iff, below_merge_iff]

theorem merge_merge (entries : List Entry) :
    (merge (merge entries).value).value = (merge entries).value :=
  merge_eq_of_foremost_iff fun _ => foremost_merge_iff

/-- Any number of lists may be merged one by one before the whole is. -/
theorem merge_flatten_merge (documents : List (List Entry)) :
    (merge (documents.map fun entries => (merge entries).value).flatten).value =
      (merge documents.flatten).value := by
  induction documents with
  | nil => rfl
  | cons entries documents ih =>
      rw [List.map_cons, List.flatten_cons, List.flatten_cons, ← merge_append_merge, merge_merge,
        ih, merge_append_merge]

/-! ## Order -/

/-- The key and the source tell the entries apart. -/
def Unambiguous (entries : List Entry) : Prop :=
  ∀ entry ∈ entries, ∀ other ∈ entries,
    entry.key = other.key → entry.source = other.source → entry = other

instance (entries : List Entry) : Decidable (Unambiguous entries) :=
  inferInstanceAs (Decidable (∀ entry ∈ entries, ∀ other ∈ entries, _ → _ → _))

/-- Where nothing else comes from the same source for the same key, what is not surpassed is
foremost. -/
theorem foremost_iff_of_unambiguous (unambiguous : Unambiguous entries) :
    Foremost entries entry ↔ entry ∈ entries ∧ Unsurpassed entries entry := by
  constructor
  · exact fun foremost => ⟨foremost.mem, foremost.unsurpassed⟩
  · rintro ⟨member, unsurpassed⟩
    obtain ⟨before, after, rfl, notBefore⟩ := List.eq_append_cons_of_mem member
    refine ⟨before, after, rfl, ?_, ?_⟩
    · intro other earlier sameKey
      have otherMember := List.mem_append_left (entry :: after) earlier
      rcases Nat.lt_or_eq_of_le (unsurpassed other otherMember sameKey) with below | level
      · exact below
      · have sameSource := Source.rank_injective level
        have same := unambiguous other otherMember entry member sameKey sameSource
        exact absurd (same ▸ earlier) notBefore
    · intro other later
      exact unsurpassed other (List.mem_append_right before (List.mem_cons_of_mem entry later))

theorem Unambiguous.merge_eq_of_perm (unambiguous : Unambiguous entries)
    (reordered : entries.Perm others) : (merge others).value = (merge entries).value := by
  have stillUnambiguous : Unambiguous others := by
    intro entry member other otherMember
    exact unambiguous entry (reordered.mem_iff.mpr member) other (reordered.mem_iff.mpr otherMember)
  apply merge_eq_of_foremost_iff
  intro entry
  rw [foremost_iff_of_unambiguous stillUnambiguous, foremost_iff_of_unambiguous unambiguous]
  simp only [Unsurpassed, reordered.mem_iff]

/-- Two lists may be merged before they are merged with each other, and so may any number of lists,
and a merged list again.  Entries that their key and their source tell apart are merged to the same
list in whatever order they come. -/
theorem merge_in_parts_and_reordered :
    (∀ former latter : List Entry,
      (merge ((merge former).value ++ (merge latter).value)).value =
        (merge (former ++ latter)).value) ∧
    (∀ documents : List (List Entry),
      (merge (documents.map fun entries => (merge entries).value).flatten).value =
        (merge documents.flatten).value) ∧
    (∀ entries : List Entry, (merge (merge entries).value).value = (merge entries).value) ∧
    ∀ entries reordered : List Entry, Unambiguous entries → entries.Perm reordered →
      (merge reordered).value = (merge entries).value :=
  ⟨merge_append_merge, merge_flatten_merge, merge_merge,
    fun _ _ unambiguous reordered => unambiguous.merge_eq_of_perm reordered⟩

/-- A bucket from two sources, read twice from one of them, and another bucket, in two orders. -/
theorem merge_in_parts_and_reordered_buckets :
    let bucket (source : Source) (name : String) : Entry :=
      ⟨source, .s3, name, "eu-west-1", "123", none⟩
    let entries := [bucket .configFile "b", bucket .helm "b", bucket .helm "a", bucket .helm "b"]
    Unambiguous entries ∧ entries.Perm entries.reverse ∧
      (merge entries).value = [bucket .helm "a", bucket .helm "b"] ∧
      (merge entries.reverse).value = (merge entries).value := by
  intro bucket entries
  have unambiguous : Unambiguous entries := by decide
  have reordered : entries.Perm entries.reverse := (List.reverse_perm entries).symm
  exact ⟨unambiguous, reordered, by decide,
    merge_in_parts_and_reordered.2.2.2 entries entries.reverse unambiguous reordered⟩

end CloudBilling.Entry
