import CloudBilling.Proofs.Aws.Degrading

/-!
# Errors in decoding and in opening

What goes wrong with a credential is told once.  Decoding fails without logging an error, or it
succeeds and logs one at most: the one about an envelope on the way that cannot be used.  Such an
envelope counts as null.  Opening logs the failures of decoding as well, so with an envelope from which
no credential comes there is always one error, unless its tag is empty.
-/

namespace CloudBilling.Credential

open Json (Value)
open Attempt
open Envelope (Degrades)

variable {provider : Provider} {depth : UInt64} {value reached : Value} {steps : Nat}

/-! ## Every provider -/

/-- In decoding what stands at a depth, so many steps lead from a value to another one, all of them
within the limit.  Only AWS credentials nest. -/
def ReadsAt (provider : Provider) (depth : UInt64) (value : Value) (steps : Nat)
    (reached : Value) : Prop :=
  depth.toNat + steps ≤ maxDepth ∧
    match provider with
    | .aws => Aws.Credential.Reaches steps value reached
    | .azure | .gcp | .alibaba => steps = 0 ∧ reached = value

/-- An envelope that decoding reads, so many steps below a value, is unusable. -/
def DegradesAt (provider : Provider) (depth : UInt64) (value : Value) (steps : Nat)
    (reached : Value) : Prop :=
  ReadsAt provider depth value steps reached ∧
    Degrades provider (decodeTagged provider (depth + .ofNat steps)) reached

theorem decodeTagged_of_foreign {tag : String} (foreign : tag ∉ provider.tags)
    (values : Dict Value) :
    decodeTagged provider depth tag values = .fail (.ofCause (.unrecognizedTag tag)) := by
  cases provider with
  | aws =>
      simp only [Provider.tags, List.mem_cons, List.not_mem_nil, or_false, not_or] at foreign
      exact Aws.Credential.ofTagged_of_foreign foreign.1 foreign.2.1 foreign.2.2
  | azure =>
      rw [Provider.tags, List.mem_singleton] at foreign
      exact if_neg foreign
  | gcp =>
      simp only [Provider.tags, List.mem_cons, List.not_mem_nil, or_false, not_or] at foreign
      exact (if_neg foreign.1).trans (if_neg foreign.2)
  | alibaba =>
      rw [Provider.tags, List.mem_singleton] at foreign
      exact if_neg foreign

theorem reportsOnce_decodeTagged (provider : Provider) (depth : UInt64) (tag : String)
    (values : Dict Value) : (decodeTagged provider depth tag values).ReportsOnce := by
  by_cases single : provider = .aws
  · subst single
    exact Aws.Credential.reportsOnce_ofTagged
      (Aws.Credential.reportsOnce_decodeWithin _) tag values
  · exact reportsOnce_of_quiet (by rw [notes_decodeTagged single, errors_nil])

theorem reportsOnce_decodeAt (provider : Provider) (depth : UInt64) (value : Value) :
    (decodeAt provider depth value).ReportsOnce := by
  by_cases aws : provider = .aws
  · subst aws
    exact Aws.Credential.reportsOnce_decodeWithin _ value
  · by_cases silent : (decodeAt provider depth value).notes = []
    · exact reportsOnce_of_quiet (by rw [silent, errors_nil])
    · obtain ⟨within, entries, rfl, tagged⟩ := exists_tagged_of_notes aws silent
      rw [decodeAt_of_isReadByTag provider within tagged]
      exact Envelope.reportsOnce_readTagged (reportsOnce_decodeTagged provider depth) entries

/-- The values of an envelope, so many steps below a depth, are decoded with the levels that are
left there. -/
theorem decodeTagged_aws_add {below : Nat} (left : levelsAt depth = below + steps + 1) :
    depth.toNat + steps ≤ maxDepth ∧
      decodeTagged .aws (depth + .ofNat steps) =
        Aws.Credential.ofTagged (Aws.Credential.decodeWithin below) := by
  have within : depth.toNat + steps ≤ maxDepth := by
    rw [levelsAt] at left
    omega
  have there := toNat_add_ofNat (Nat.le_succ_of_le within)
  have levels : levelsAt (depth + .ofNat steps + 1) = below := by
    rw [levelsAt_succ (by rwa [there]), there]
    rw [levelsAt] at left
    omega
  refine ⟨within, ?_⟩
  rw [← levels]
  rfl

/-! ## Decoding -/

/-- An error that is logged in decoding is about an unusable envelope on the way. -/
theorem exists_degradesAt_of_errors
    (reported : errors (decodeAt provider depth value).notes ≠ []) :
    ∃ steps reached, DegradesAt provider depth value steps reached := by
  by_cases aws : provider = .aws
  · subst aws
    obtain ⟨steps, below, reached, left, reaches, degrades⟩ :=
      Aws.Credential.exists_degrades_of_errors reported
    obtain ⟨within, inside⟩ := decodeTagged_aws_add left
    refine ⟨steps, reached, ⟨within, reaches⟩, ?_⟩
    rwa [inside]
  · have noted : (decodeAt provider depth value).notes ≠ [] := by
      intro silent
      rw [silent] at reported
      exact reported errors_nil
    obtain ⟨within, entries, rfl, tagged⟩ := exists_tagged_of_notes aws noted
    refine ⟨0, .object entries, ⟨within, ?_⟩, ?_⟩
    · cases provider with
      | aws => exact absurd rfl aws
      | azure | gcp | alibaba => exact ⟨rfl, rfl⟩
    · rw [decodeAt_of_isReadByTag provider within tagged] at reported
      cases read : Envelope.ofMap provider entries with
      | error failure =>
          rw [read] at reported
          exact absurd rfl reported
      | ok envelope =>
          rw [read, liftM_ok, pure_bind] at reported
          rcases Envelope.errors_or_unusable reported with inside | unusable
          · rw [notes_decodeTagged aws] at inside
            exact absurd errors_nil inside
          · have here : depth + .ofNat 0 = depth := UInt64.add_zero depth
            rw [here]
            exact ⟨entries, envelope, rfl, tagged, read, unusable⟩

/-- An unusable envelope is logged, and leaves no credential. -/
theorem reports_of_degrades (within : depth.toNat ≤ maxDepth)
    (degrades : Degrades provider (decodeTagged provider depth) value) :
    (decodeAt provider depth value).Reports none := by
  obtain ⟨entries, envelope, rfl, tagged, read, unusable⟩ := degrades
  rw [decodeAt_of_isReadByTag provider within tagged, read]
  exact unusable.reports (reportsOnce_decodeTagged provider depth)
    fun tag values foreign => decodeTagged_of_foreign foreign values

theorem decodeAt_null (provider : Provider) (within : depth.toNat ≤ maxDepth) :
    decodeAt provider depth .null = pure none := by
  cases provider with
  | aws => simp [decodeAt, Aws.Credential.decodeAt, levelsAt_of_le within,
      Aws.Credential.decodeWithin_null]
  | azure => simp [decodeAt, Azure.Credential.decodeAt, levelsAt_of_le within]
  | gcp => simp [decodeAt, Gcp.Credential.decodeAt, levelsAt_of_le within]
  | alibaba => simp [decodeAt, Alibaba.Credential.decodeAt, levelsAt_of_le within]

/-- An unusable envelope on the way is logged, and leaves no credential at its level; the levels above
it come to what they come to with null in its place. -/
theorem DegradesAt.reports (degrades : DegradesAt provider depth value steps reached) :
    (decodeAt provider (depth + .ofNat steps) reached).Reports none ∧
      ∃ found, (decodeAt provider depth value).Reports found ∧
        (decodeAt provider depth (Aws.Credential.nullAt steps value)).Yields found := by
  obtain ⟨⟨within, reads⟩, unusable⟩ := degrades
  have there := toNat_add_ofNat (Nat.le_succ_of_le within)
  have lost := reports_of_degrades (by rwa [there]) unusable
  refine ⟨lost, ?_⟩
  by_cases aws : provider = .aws
  · subst aws
    rw [decodeAt, Aws.Credential.decodeAt, levelsAt_of_le (by rwa [there]), there] at lost
    have left : levelsAt depth = maxDepth - (depth.toNat + steps) + steps + 1 := by
      rw [levelsAt]
      omega
    simp only [decodeAt, Aws.Credential.decodeAt, left]
    exact reads.reports lost
  · obtain ⟨rfl, rfl⟩ : steps = 0 ∧ reached = value := by
      cases provider with
      | aws => exact absurd rfl aws
      | azure | gcp | alibaba => exact reads
    have here : depth + .ofNat 0 = depth := UInt64.add_zero depth
    rw [here] at lost
    refine ⟨none, lost, ?_⟩
    rw [Aws.Credential.nullAt, decodeAt_null provider within]
    exact yields_pure none

/-- Problems are told once, returned or logged.

Decoding at a depth logs no error if it fails, and one at most otherwise.  It logs one exactly if an
envelope that it reads on the way is unusable.  Then there is no credential at the level of that
envelope, and decoding comes to what it comes to, without an error, with null in its place.

Opening logs one error at most.  It logs one if no credential comes out of an envelope with a tag, and
nothing at all about an envelope with an empty one. -/
theorem told_once (provider : Provider) :
    (∀ depth value,
      (∀ failure, (decodeAt provider depth value).outcome = .error failure →
        errors (decodeAt provider depth value).notes = []) ∧
      (errors (decodeAt provider depth value).notes).length ≤ 1 ∧
      ((errors (decodeAt provider depth value).notes).length = 1 ↔
        ∃ steps reached, DegradesAt provider depth value steps reached) ∧
      ∀ steps reached, DegradesAt provider depth value steps reached →
        (decodeAt provider (depth + .ofNat steps) reached).outcome = .ok none ∧
          ∃ found, (decodeAt provider depth value).outcome = .ok found ∧
            (decodeAt provider depth (Aws.Credential.nullAt steps value)).Yields found) ∧
    ∀ envelope,
      (errors (ofEnvelope provider envelope).notes).length ≤ 1 ∧
      (envelope.tag ≠ "" → (ofEnvelope provider envelope).value = none →
        (errors (ofEnvelope provider envelope).notes).length = 1) ∧
      (envelope.tag = "" → ofEnvelope provider envelope = pure none) := by
  have inside := reportsOnce_decodeTagged provider 0
  constructor
  · intro depth value
    obtain ⟨quiet, atMostOne⟩ := reportsOnce_decodeAt provider depth value
    refine ⟨quiet, atMostOne, ⟨?_, ?_⟩, ?_⟩
    · intro once
      apply exists_degradesAt_of_errors
      intro none
      simp [none] at once
    · rintro ⟨steps, reached, degrades⟩
      obtain ⟨_, found, reports, _⟩ := degrades.reports
      exact reports.2
    · intro steps reached degrades
      obtain ⟨lost, found, reports, nulled⟩ := degrades.reports
      exact ⟨lost.1, found, reports.1, nulled⟩
  · intro envelope
    refine ⟨Envelope.length_errors_open?_le_one inside envelope,
      Envelope.length_errors_open?_of_none inside, ?_⟩
    intro empty
    rw [ofEnvelope, Envelope.open?, Envelope.resolve_of_empty_tag empty]
    rfl

/-- A role over an envelope of a role over an access key without its secret: the envelope is unusable,
and counts as null below the outer role.  Next to it, the access key by itself, which fails, and two
envelopes from which no credential comes. -/
theorem told_once_key_without_secret :
    let key : Value := .object [("id", .string "AKIA")]
    let role (roleArn : String) (base : Value) : Value :=
      .object [("configurer", base), ("roleARN", .string roleArn)]
    let inner : Value :=
      .object [("type", .string Aws.assumeRoleTag), ("values", role "inner" key)]
    let failure : Failure := ⟨[Aws.accessKeyTag], .missingKey "secret"⟩
    let foreign : Envelope := ⟨"Foreign", []⟩
    (DegradesAt .aws 0 (role "outer" inner) 1 inner ∧
      (errors (decodeAt .aws 0 (role "outer" inner)).notes).length = 1 ∧
      (decodeAt .aws (0 + .ofNat 1) inner).outcome = .ok none ∧
      ∃ found, (decodeAt .aws 0 (role "outer" inner)).outcome = .ok found ∧
        (decodeAt .aws 0 (role "outer" .null)).Yields found) ∧
    ((decodeAt .aws 0 key).outcome = .error failure ∧
      errors (decodeAt .aws 0 key).notes = []) ∧
    (foreign.tag ≠ "" ∧ (ofEnvelope .aws foreign).value = none ∧
      (errors (ofEnvelope .aws foreign).notes).length = 1) ∧
    Envelope.empty.tag = "" ∧ ofEnvelope .aws Envelope.empty = pure none := by
  intro key role inner failure foreign
  have unusable : Envelope.Unusable .aws (decodeTagged .aws (0 + .ofNat 1))
      ⟨Aws.assumeRoleTag, [("configurer", key), ("roleARN", .string "inner")]⟩ :=
    ⟨by decide, .inr ⟨_, rfl, rfl⟩⟩
  have degrades : DegradesAt .aws 0 (role "outer" inner) 1 inner :=
    ⟨⟨by decide, .enter (.flat rfl rfl) (.here inner)⟩, _, _, rfl, rfl, rfl, unusable⟩
  have failed : (decodeAt .aws 0 key).outcome = .error failure := rfl
  obtain ⟨decoding, opening⟩ := told_once .aws
  obtain ⟨_, _, once, reads⟩ := decoding 0 (role "outer" inner)
  exact ⟨⟨degrades, once.mpr ⟨1, inner, degrades⟩, reads 1 inner degrades⟩,
    ⟨failed, (decoding 0 key).1 failure failed⟩,
    ⟨by decide, rfl, (opening foreign).2.1 (by decide) rfl⟩,
    rfl, (opening Envelope.empty).2.2 rfl⟩

end CloudBilling.Credential
