import CloudBilling.Proofs.MergeOrder
import Mathlib.Data.List.Induction

/-!
# What merging logs

Merging logs at most one event about an entry, and only if it has seen the same resource before.
Which event that is depends on the entry that is held for the resource by then, which is the
foremost of those that were seen.  So two entries that disagree are never merged in silence if both
are from the source that wins: one of them is not the entry that is kept, and it comes behind that
entry.
-/

namespace CloudBilling.Entry

/-! ## The events -/

/-- The event about an entry that takes the place of another one for its resource. -/
def overriding (current candidate : Entry) : Event where
  level := .debug
  origin := .document
  message :=
    s!"Integration {candidate.key} from {candidate.source.name} overrides {current.source.name}."

/-- The event about an entry that disagrees with the one that is kept for its resource. -/
def conflicting (candidate : Entry) : Event where
  level := .warn
  origin := .document
  message :=
    s!"Conflicting integrations for key {candidate.key} from {candidate.source.name}; keeping the first."

/-- What is logged about an entry when some others were seen before it. -/
def eventsBehind (seen : List Entry) (entry : Entry) : List Event :=
  (absorb (absorbAll [] seen).value entry).notes

/-- The resource was seen before, and only from lower sources. -/
def Overrides (seen : List Entry) (entry : Entry) : Prop :=
  (∃ other ∈ seen, other.key = entry.key) ∧
    ∀ other ∈ seen, other.key = entry.key → other.source < entry.source

/-- The first entry that was seen for the resource from the highest source is from the source of this
entry, and differs from it. -/
def Disputes (seen : List Entry) (entry : Entry) : Prop :=
  ∃ kept, Foremost seen kept ∧ kept.key = entry.key ∧ entry.source = kept.source ∧
    entry.integration ≠ kept.integration

variable {seen entries : List Entry} {entry other kept : Entry}

theorem conflicting_congr (sameKey : entry.key = other.key)
    (sameSource : entry.source = other.source) : conflicting entry = conflicting other := by
  rw [conflicting, conflicting, sameKey, sameSource]

/-! ## One step -/

theorem notes_prevail (current candidate : Entry) :
    (prevail candidate.key current candidate).notes =
      if current.source < candidate.source then [overriding current candidate]
      else if candidate.source = current.source ∧ candidate.integration ≠ current.integration then
        [conflicting candidate]
      else [] := by
  unfold prevail
  split
  · rfl
  · split <;> rfl

/-- Nothing is logged about the first entry for a resource. -/
theorem eventsBehind_of_new (new : ∀ other ∈ seen, other.key ≠ entry.key) :
    eventsBehind seen entry = [] := by
  have absent : (absorbAll [] seen).value.get? entry.key = none := by
    cases held : (absorbAll [] seen).value.get? entry.key with
    | none => rfl
    | some current =>
        have present := (keeps_absorbAll seen).present _ current held
        exact absurd present.1 (new current present.2.mem)
  simp [eventsBehind, absorb, absent]

/-- What is logged about a later entry depends on the foremost one before it. -/
theorem eventsBehind_of_foremost (foremost : Foremost seen kept) (sameKey : kept.key = entry.key) :
    eventsBehind seen entry =
      if kept.source < entry.source then [overriding kept entry]
      else if entry.source = kept.source ∧ entry.integration ≠ kept.integration then
        [conflicting entry]
      else [] := by
  have held : (absorbAll [] seen).value.get? entry.key = some kept := by
    rw [← sameKey]
    exact get?_of_mem_merge (mem_merge_iff.mpr foremost)
  simp [eventsBehind, absorb, held, notes_prevail]

/-- The resource was not seen before, or one of the entries that were seen for it is foremost. -/
theorem new_or_foremost (seen : List Entry) (entry : Entry) :
    (∀ other ∈ seen, other.key ≠ entry.key) ∨ ∃ kept, Foremost seen kept ∧ kept.key = entry.key := by
  by_cases occurs : ∃ other ∈ seen, other.key = entry.key
  · obtain ⟨other, member, sameKey⟩ := occurs
    obtain ⟨kept, _, keptKey, foremost⟩ := exists_mem_merge member
    exact .inr ⟨kept, foremost, keptKey.trans sameKey⟩
  · exact .inl fun other member sameKey => occurs ⟨other, member, sameKey⟩

theorem Foremost.overrides_iff (foremost : Foremost seen kept) (sameKey : kept.key = entry.key) :
    Overrides seen entry ↔ kept.source < entry.source := by
  constructor
  · intro overrides
    exact overrides.2 kept foremost.mem sameKey
  · intro below
    refine ⟨⟨kept, foremost.mem, sameKey⟩, ?_⟩
    intro other member otherKey
    have notAbove : other.source ≤ kept.source :=
      foremost.unsurpassed other member (otherKey.trans sameKey.symm)
    exact Nat.lt_of_le_of_lt notAbove below

theorem Foremost.disputes_iff (foremost : Foremost seen kept) (sameKey : kept.key = entry.key) :
    Disputes seen entry ↔ entry.source = kept.source ∧ entry.integration ≠ kept.integration := by
  constructor
  · rintro ⟨first, firstForemost, firstKey, disagree⟩
    have same : first = kept :=
      eq_of_mem_merge (mem_merge_iff.mpr foremost) (mem_merge_iff.mpr firstForemost)
        (firstKey.trans sameKey.symm)
    rwa [same] at disagree
  · intro disagree
    exact ⟨kept, foremost, sameKey, disagree⟩

/-- An entry from a source above all others of its resource is logged as their replacement. -/
theorem Overrides.eventsBehind_eq (overrides : Overrides seen entry) :
    ∃ kept, Foremost seen kept ∧ kept.key = entry.key ∧
      eventsBehind seen entry = [overriding kept entry] := by
  rcases new_or_foremost seen entry with new | ⟨kept, foremost, sameKey⟩
  · obtain ⟨⟨other, member, otherKey⟩, _⟩ := overrides
    exact absurd otherKey (new other member)
  · refine ⟨kept, foremost, sameKey, ?_⟩
    rw [eventsBehind_of_foremost foremost sameKey,
      if_pos ((foremost.overrides_iff sameKey).mp overrides)]

/-- An entry that disagrees with the one that is kept is logged as a conflict. -/
theorem Disputes.eventsBehind_eq (disputes : Disputes seen entry) :
    eventsBehind seen entry = [conflicting entry] := by
  obtain ⟨kept, foremost, sameKey, sameSource, differs⟩ := disputes
  have notAbove : ¬ kept.source < entry.source := by
    rw [sameSource]
    exact Nat.lt_irrefl _
  rw [eventsBehind_of_foremost foremost sameKey, if_neg notAbove, if_pos ⟨sameSource, differs⟩]

theorem eventsBehind_eq_nil (keeps : ¬ Overrides seen entry) (agrees : ¬ Disputes seen entry) :
    eventsBehind seen entry = [] := by
  rcases new_or_foremost seen entry with new | ⟨kept, foremost, sameKey⟩
  · exact eventsBehind_of_new new
  · rw [foremost.overrides_iff sameKey] at keeps
    rw [foremost.disputes_iff sameKey] at agrees
    rw [eventsBehind_of_foremost foremost sameKey, if_neg keeps, if_neg agrees]

/-! ## The whole run -/

theorem absorbAll_append (kept : Dict Entry) (former latter : List Entry) :
    absorbAll kept (former ++ latter) =
      absorbAll kept former >>= fun held => absorbAll held latter := by
  induction former generalizing kept with
  | nil => exact (pure_bind kept fun held => absorbAll held latter).symm
  | cons candidate rest ih =>
      simp only [List.cons_append, absorbAll, ih, bind_assoc]

theorem notes_merge (entries : List Entry) : (merge entries).notes = (absorbAll [] entries).notes :=
  Logged.notes_map _ _

/-- One more entry adds its events to the log. -/
theorem notes_merge_snoc (seen : List Entry) (entry : Entry) :
    (merge (seen ++ [entry])).notes = (merge seen).notes ++ eventsBehind seen entry := by
  rw [notes_merge, notes_merge, absorbAll_append, Logged.notes_bind, eventsBehind]
  simp [absorbAll]

/-- The log of a merge is made of the events about each entry, in the order of the entries. -/
theorem notes_merge_eq_flatMap (entries : List Entry) :
    (merge entries).notes = entries.zipIdx.flatMap fun numbered =>
      eventsBehind (entries.take numbered.2) numbered.1 := by
  induction entries using List.reverseRecOn with
  | nil => rfl
  | append_singleton seen entry ih =>
      have earlier : ∀ numbered ∈ seen.zipIdx,
          eventsBehind ((seen ++ [entry]).take numbered.2) numbered.1 =
            eventsBehind (seen.take numbered.2) numbered.1 := by
        intro numbered member
        have inside : numbered.2 ≤ seen.length := Nat.le_of_lt (List.snd_lt_of_mem_zipIdx member)
        rw [List.take_append_of_le_length inside]
      rw [notes_merge_snoc, ih, List.zipIdx_append, List.flatMap_append, List.flatMap_congr earlier]
      simp

/-- The events about an entry are in the log. -/
theorem mem_notes_merge {event : Event} (logged : event ∈ eventsBehind seen entry)
    (later : List Entry) : event ∈ (merge (seen ++ entry :: later)).notes := by
  have member : (entry, seen.length) ∈ (seen ++ entry :: later).zipIdx := by
    simp [List.mem_zipIdx_iff_getElem?]
  rw [notes_merge_eq_flatMap]
  apply List.mem_flatMap.mpr
  exact ⟨(entry, seen.length), member, by simpa using logged⟩

/-- An entry that differs from the foremost one, from the same source, comes behind it and disagrees
with it there. -/
theorem Foremost.exists_disputes (foremost : Foremost entries kept) (member : entry ∈ entries)
    (sameKey : entry.key = kept.key) (sameSource : entry.source = kept.source)
    (differs : entry.integration ≠ kept.integration) :
    ∃ seen later, entries = seen ++ entry :: later ∧ Disputes seen entry := by
  obtain ⟨before, after, rfl, below, notAbove⟩ := foremost
  have behind : entry ∈ after := by
    rcases List.mem_append.mp member with earlier | later
    · have lower := below entry earlier sameKey
      rw [sameSource] at lower
      exact absurd lower (Nat.lt_irrefl _)
    · rcases List.mem_cons.mp later with same | last
      · exact absurd (congrArg Entry.integration same) differs
      · exact last
  obtain ⟨between, later, rfl⟩ := List.append_of_mem behind
  refine ⟨before ++ kept :: between, later, by simp, kept, ?_, sameKey.symm, sameSource, differs⟩
  refine ⟨before, between, rfl, below, ?_⟩
  intro other earlier
  exact notAbove other (List.mem_append_left _ earlier)

/-- Of two entries that disagree, both from the source that wins, one is logged as a conflict. -/
theorem conflicting_mem_notes_merge (member : entry ∈ entries) (otherMember : other ∈ entries)
    (sameKey : other.key = entry.key) (sameSource : other.source = entry.source)
    (wins : Unsurpassed entries entry) (differ : other.integration ≠ entry.integration) :
    conflicting entry ∈ (merge entries).notes := by
  obtain ⟨kept, _, keptKey, foremost⟩ := exists_mem_merge member
  have level : kept.source = entry.source := by
    apply Source.rank_injective
    apply Nat.le_antisymm
    · exact wins kept foremost.mem keptKey
    · exact foremost.unsurpassed entry member keptKey.symm
  -- The entry that is kept cannot agree with both.
  obtain ⟨loser, loserMember, loserKey, loserSource, disagrees⟩ :
      ∃ loser ∈ entries, loser.key = entry.key ∧ loser.source = entry.source ∧
        loser.integration ≠ kept.integration := by
    by_cases agrees : entry.integration = kept.integration
    · exact ⟨other, otherMember, sameKey, sameSource, agrees ▸ differ⟩
    · exact ⟨entry, member, rfl, rfl, agrees⟩
  obtain ⟨seen, later, rfl, disputes⟩ := foremost.exists_disputes loserMember
    (loserKey.trans keptKey.symm) (loserSource.trans level.symm) disagrees
  rw [← conflicting_congr loserKey loserSource]
  apply mem_notes_merge
  rw [disputes.eventsBehind_eq]
  exact List.mem_singleton_self _

/-- The log of a merge tells, entry by entry, what takes the place of an entry that was kept, and what
disagrees with one that is; about all other entries it is silent.  A disagreement within the source
that wins is always told. -/
theorem merge_logs_each_entry :
    (∀ entries : List Entry, (merge entries).notes = entries.zipIdx.flatMap fun numbered =>
      eventsBehind (entries.take numbered.2) numbered.1) ∧
    (∀ (seen : List Entry) (entry : Entry),
      (Overrides seen entry → ∃ kept, Foremost seen kept ∧ kept.key = entry.key ∧
        eventsBehind seen entry = [overriding kept entry]) ∧
      (Disputes seen entry → eventsBehind seen entry = [conflicting entry]) ∧
      (¬ Overrides seen entry → ¬ Disputes seen entry → eventsBehind seen entry = [])) ∧
    ∀ entries : List Entry, ∀ entry ∈ entries, ∀ other ∈ entries,
      other.key = entry.key → other.source = entry.source → Unsurpassed entries entry →
        other.integration ≠ entry.integration → conflicting entry ∈ (merge entries).notes := by
  refine ⟨notes_merge_eq_flatMap, ?_, ?_⟩
  · intro seen entry
    exact ⟨Overrides.eventsBehind_eq, Disputes.eventsBehind_eq, eventsBehind_eq_nil⟩
  · intro entries entry member other otherMember
    exact conflicting_mem_notes_merge member otherMember

/-- A bucket from a lower source, from a higher one, and from that one again with another region. -/
theorem merge_logs_each_entry_buckets :
    let bucket (source : Source) (region : String) : Entry :=
      ⟨source, .s3, "b", region, "123", none⟩
    let former := bucket .configFile "eu-west-1"
    let kept := bucket .helm "eu-west-1"
    let rival := bucket .helm "us-east-1"
    (¬ Overrides [] former ∧ ¬ Disputes [] former ∧ eventsBehind [] former = []) ∧
    (Overrides [former] kept ∧ ∃ current, Foremost [former] current ∧ current.key = kept.key ∧
      eventsBehind [former] kept = [overriding current kept]) ∧
    (Disputes [former, kept] rival ∧
      eventsBehind [former, kept] rival = [conflicting rival]) ∧
    Unsurpassed [former, kept, rival] rival ∧ kept.integration ≠ rival.integration ∧
      conflicting rival ∈ (merge [former, kept, rival]).notes := by
  intro bucket former kept rival
  obtain ⟨_, steps, told⟩ := merge_logs_each_entry
  have new : ¬ Overrides [] former := by simp [Overrides]
  have alone : ¬ Disputes [] former := by
    rintro ⟨current, foremost, _⟩
    exact absurd foremost.mem List.not_mem_nil
  have overrides : Overrides [former] kept := by
    unfold Overrides
    decide
  have foremost : Foremost [former, kept] kept :=
    ⟨[former], [], rfl, by decide, by simp⟩
  have disputes : Disputes [former, kept] rival := ⟨kept, foremost, by decide, by decide, by decide⟩
  have wins : Unsurpassed [former, kept, rival] rival := by decide
  have differ : kept.integration ≠ rival.integration := by decide
  exact ⟨⟨new, alone, (steps [] former).2.2 new alone⟩,
    ⟨overrides, (steps [former] kept).1 overrides⟩,
    ⟨disputes, (steps [former, kept] rival).2.1 disputes⟩,
    wins, differ, told [former, kept, rival] rival (by simp) kept (by simp) rfl rfl wins differ⟩

end CloudBilling.Entry
