import CloudBilling.Proofs.Aws.Descent
import CloudBilling.Proofs.RoundTrip

/-!
# The limit on nesting in untrusted documents

Decoding an AWS credential fails for the limit on nesting exactly when the levels that may be
entered are used up on a way down that decoding itself takes, and that way is a chain of nested
entries which can be read off the document.  Nothing off that way can cause the failure, hide it or
come before it.  A credential that was decoded is within the limit, so it can be encoded and decoded
again.  And where the limit does not fail a value, the depth at which the value is read makes no
difference.

The depth at which an envelope's values are read is a machine word, and the depth of what is nested
in them is computed before it is checked.  So the limit holds from every depth but the greatest
word, after which depths begin again at the top.
-/

namespace CloudBilling.Aws.Credential

open Json (Value)

/-- From a value one gets to another in so many steps of decoding. -/
inductive Reaches : Nat → Value → Value → Prop
  | here (value : Value) : Reaches 0 value value
  | enter {steps : Nat} {value nested final : Value} :
      Enters value nested → Reaches steps nested final → Reaches (steps + 1) value final

variable {value nested final : Value} {levels : Nat}

theorem reaches_succ_iff :
    Reaches (levels + 1) value final ↔
      ∃ nested, Enters value nested ∧ Reaches levels nested final := by
  constructor
  · intro reaches
    cases reaches with
    | enter enters rest => exact ⟨_, enters, rest⟩
  · rintro ⟨nested, enters, rest⟩
    exact .enter enters rest

theorem Reaches.eq_null (reaches : Reaches levels .null final) : final = .null := by
  cases reaches with
  | here => rfl
  | enter enters rest => exact (not_enters_null enters).elim

/-- Decoding is asked for more levels than may be entered. -/
def TooDeep (levels : Nat) (value : Value) : Prop :=
  levels = 0 ∨ ∃ final, Reaches levels value final ∧ final ≠ .null

/-- A level that goes on is too deep exactly when what it goes on with is. -/
theorem tooDeep_succ_iff (enters : Enters value nested) (present : nested ≠ .null) :
    TooDeep (levels + 1) value ↔ TooDeep levels nested := by
  constructor
  · rintro (impossible | ⟨final, reaches, notNull⟩)
    · exact (Nat.succ_ne_zero _ impossible).elim
    · obtain ⟨other, entersOther, rest⟩ := reaches_succ_iff.mp reaches
      rw [entersOther.deterministic enters] at rest
      exact .inr ⟨final, rest, notNull⟩
  · rintro (rfl | ⟨final, rest, notNull⟩)
    · exact .inr ⟨nested, .enter enters (.here nested), present⟩
    · exact .inr ⟨final, .enter enters rest, notNull⟩

/-- A level that ends is not too deep. -/
theorem not_tooDeep_succ (last : ∀ nested, Enters value nested → nested = .null) :
    ¬ TooDeep (levels + 1) value := by
  rintro (impossible | ⟨final, reaches, notNull⟩)
  · exact Nat.succ_ne_zero _ impossible
  · obtain ⟨nested, enters, rest⟩ := reaches_succ_iff.mp reaches
    rw [last nested enters] at rest
    exact notNull rest.eq_null

/-- What is too deep fails for the limit, inside one context for each role on the way. -/
theorem decodeWithin_of_tooDeep (deep : TooDeep levels value) :
    (decodeWithin levels value).outcome = .error (limitFailure levels) := by
  induction levels generalizing value with
  | zero =>
      rw [decodeWithin_zero]
      rfl
  | succ levels ih =>
      cases descent value with
      | settled attempt ends reads last => exact (not_tooDeep_succ last deep).elim
      | role form roleArn nested enters present reads =>
          have below := ih ((tooDeep_succ_iff enters present).mp deep)
          rw [reads]
          refine form.outcome_carry_of_tooDeep ?_ rfl
          rw [roleOver_of_error below, within_limitFailure]

/-- Everything else decodes, or fails for another cause. -/
theorem withinLimit_decodeWithin (shallow : ¬ TooDeep levels value) :
    (decodeWithin levels value).outcome.WithinLimit := by
  induction levels generalizing value with
  | zero => exact (shallow (.inl rfl)).elim
  | succ levels ih =>
      cases descent value with
      | settled attempt ends reads last =>
          rw [reads]
          exact ends.withinLimit
      | role form roleArn nested enters present reads =>
          have below := ih (mt (tooDeep_succ_iff enters present).mpr shallow)
          rw [reads]
          refine form.withinLimit_carry ?_
          intro failure failed
          obtain ⟨inside, failedInside, rfl⟩ := outcome_roleOver_eq_error_iff.mp failed
          exact below inside failedInside

/-- A credential that is decoded has fewer credentials inside it than levels might be entered. -/
theorem height_lt_of_decodeWithin {credential : Credential}
    (decoded : (decodeWithin levels value).outcome = .ok (some credential)) :
    credential.height < levels := by
  induction levels generalizing value credential with
  | zero =>
      rw [decodeWithin_zero] at decoded
      cases decoded
  | succ levels ih =>
      cases descent value with
      | settled attempt ends reads last =>
          rw [reads] at decoded
          rw [ends.height_eq_zero credential decoded]
          exact Nat.succ_pos levels
      | role form roleArn nested enters present reads =>
          rw [reads, form.outcome_carry_eq_some_iff] at decoded
          obtain ⟨below, decodedBelow, rfl⟩ := outcome_roleOver_eq_ok_iff.mp decoded
          cases below with
          | none => exact Nat.succ_pos levels
          | some base => exact Nat.succ_lt_succ (ih decodedBelow)

theorem not_tooDeep_of_decodeWithin {found : Option Credential}
    (decoded : (decodeWithin levels value).outcome = .ok found) : ¬ TooDeep levels value := by
  intro deep
  rw [decodeWithin_of_tooDeep deep] at decoded
  cases decoded

/-- What is not too deep is decoded in the same way if more levels may be entered. -/
theorem decodeWithin_of_le {more : Nat} (shallow : ¬ TooDeep levels value)
    (fewer : levels ≤ more) : decodeWithin more value = decodeWithin levels value := by
  induction levels generalizing value more with
  | zero => exact (shallow (.inl rfl)).elim
  | succ levels ih =>
      obtain ⟨further, rfl⟩ : ∃ further, more = further + 1 :=
        Nat.exists_eq_add_one.mpr (Nat.lt_of_lt_of_le (Nat.succ_pos levels) fewer)
      cases descent value with
      | settled attempt ends reads last => rw [reads, reads]
      | role form roleArn nested enters present reads =>
          have below := ih (mt (tooDeep_succ_iff enters present).mpr shallow)
            (Nat.le_of_succ_le_succ fewer)
          rw [reads, reads, below]

theorem tooDeep_levelsAt_iff {depth : UInt64} :
    TooDeep (levelsAt depth) value ↔
      maxDepth < depth.toNat ∨
        ∃ final, Reaches (maxDepth + 1 - depth.toNat) value final ∧ final ≠ .null := by
  rw [TooDeep, levelsAt, Nat.sub_eq_zero_iff_le, Nat.succ_le_iff]

/-- What was decoded out of any value at any depth is within the limit, and can be encoded and
decoded there again.  Decoding fails for the limit exactly if the depth is beyond it, or as many
steps as are left lead from the value to an entry that is not null; the failure names every role on
the way. -/
theorem nestingTooDeep_iff_reaches (value : Value) (depth : UInt64) :
    (∀ credential, (decodeAt depth value).outcome = .ok (some credential) →
      depth.toNat + credential.height ≤ maxDepth ∧
        (decodeAt depth credential.toEnvelope.toValue).outcome = .ok (some credential)) ∧
    ((∃ failure, (decodeAt depth value).outcome = .error failure ∧
        failure.cause.isNestingTooDeep = true) ↔
      maxDepth < depth.toNat ∨
        ∃ final, Reaches (maxDepth + 1 - depth.toNat) value final ∧ final ≠ .null) ∧
    ∀ failure, (decodeAt depth value).outcome = .error failure →
      failure.cause.isNestingTooDeep = true →
        failure = ⟨List.replicate (maxDepth + 1 - depth.toNat) assumeRoleName ++
          [Provider.typeName .aws], .nestingTooDeep maxDepth⟩ := by
  rw [← tooDeep_levelsAt_iff]
  refine ⟨?_, ?_, ?_⟩
  · intro credential decoded
    have below : credential.height < maxDepth + 1 - depth.toNat :=
      height_lt_of_decodeWithin decoded
    have fits : depth.toNat + credential.height ≤ maxDepth := by omega
    exact ⟨fits, @CloudBilling.Credential.decodeAt_toEnvelope_of_le depth .aws credential fits⟩
  · constructor
    · rintro ⟨failure, failed, limit⟩
      refine Classical.byContradiction fun shallow => ?_
      rw [withinLimit_decodeWithin shallow failure failed] at limit
      cases limit
    · exact fun deep => ⟨_, decodeWithin_of_tooDeep deep, rfl⟩
  · intro failure failed limit
    by_cases deep : TooDeep (levelsAt depth) value
    · have reached := decodeWithin_of_tooDeep deep
      rw [decodeAt, reached] at failed
      cases failed
      rfl
    · rw [withinLimit_decodeWithin deep failure failed] at limit
      cases limit

/-- A role in an envelope over the service account: at the last depth but one it is decoded, and at
the last depth the service account below it is too deep. -/
theorem nestingTooDeep_iff_reaches_tagged_role :
    let value : Value := .object [("type", .string assumeRoleTag),
      ("values", .object [("configurer", .object []), ("roleARN", .string "arn")])]
    let role : Credential := .assumeRole (some .serviceAccount) "arn"
    let failure : Failure := ⟨[assumeRoleName, Provider.typeName .aws], .nestingTooDeep maxDepth⟩
    ((decodeAt 7 value).outcome = .ok (some role) ∧ (7 : UInt64).toNat + role.height ≤ maxDepth) ∧
      (decodeAt 8 value).outcome = .error failure ∧
        failure = ⟨List.replicate (maxDepth + 1 - (8 : UInt64).toNat) assumeRoleName ++
          [Provider.typeName .aws], .nestingTooDeep maxDepth⟩ := by
  intro value role failure
  have decoded : (decodeAt 7 value).outcome = .ok (some role) := rfl
  have failed : (decodeAt 8 value).outcome = .error failure := rfl
  exact ⟨⟨decoded, ((nestingTooDeep_iff_reaches value 7).1 role decoded).1⟩, failed,
    (nestingTooDeep_iff_reaches value 8).2.2 failure failed rfl⟩

/-! ## Values read at different depths -/

theorem levelsAt_le_of_le {depth deeper : UInt64} (deepens : depth ≤ deeper) :
    levelsAt deeper ≤ levelsAt depth :=
  Nat.sub_le_sub_left (UInt64.le_iff_toNat_le.mp deepens) (maxDepth + 1)

/-- The depth of a value counts for the limit only.  At a greater depth the value fails for the
limit, or it comes to the same credential, the same absence or the same failure, and the same events
are logged. -/
theorem decodeAt_deeper {depth deeper : UInt64} (deepens : depth ≤ deeper) (value : Value) :
    (∃ failure, (decodeAt deeper value).outcome = .error failure ∧
      failure.cause.isNestingTooDeep = true) ∨
    decodeAt deeper value = decodeAt depth value := by
  by_cases deep : TooDeep (levelsAt deeper) value
  · exact .inl ⟨_, decodeWithin_of_tooDeep deep, rfl⟩
  · exact .inr (decodeWithin_of_le deep (levelsAt_le_of_le deepens)).symm

/-- A role over an envelope with a tag that no credential has: at the last depth but one it is
decoded as at the top, with the error about the tag, and at the last depth it is too deep. -/
theorem decodeAt_deeper_misspelled_tag :
    let value : Value := .object [("configurer", .object [("type", .string "AWSAcessKey")]),
      ("roleARN", .string "arn")]
    (0 : UInt64) ≤ 7 ∧ (decodeAt 7 value).outcome = .ok (some (.assumeRole none "arn")) ∧
      decodeAt 7 value = decodeAt 0 value ∧
      (decodeAt 8 value).outcome =
        .error ⟨[assumeRoleName, Provider.typeName .aws], .nestingTooDeep maxDepth⟩ := by
  intro value
  have deepens : (0 : UInt64) ≤ 7 := by decide
  have decoded : (decodeAt 7 value).outcome = .ok (some (.assumeRole none "arn")) := rfl
  have same : decodeAt 7 value = decodeAt 0 value := by
    refine (decodeAt_deeper deepens value).resolve_left ?_
    rintro ⟨failure, failed, _⟩
    rw [decoded] at failed
    cases failed
  exact ⟨deepens, decoded, same, rfl⟩

/-! ## Roles at depths from the limit on -/

variable {depth : UInt64} {values : Dict Value} {roleArn : String}

theorem decodeTagged_of_nested (arn : values.get? "roleARN" = some (.string roleArn))
    (found : values.get? "configurer" = some nested) (present : nested ≠ .null) :
    decodeTagged depth assumeRoleTag values = roleOver roleArn (decodeAt (depth + 1) nested) :=
  roleOfMap_of_nested arn (Json.present?_eq_some_iff.mpr ⟨found, present⟩)

theorem failsForLimit_iff :
    (∃ failure, (decodeWithin levels value).outcome = .error failure ∧
      failure.cause.isNestingTooDeep = true) ↔ TooDeep levels value := by
  constructor
  · rintro ⟨failure, failed, limit⟩
    refine Classical.byContradiction fun shallow => ?_
    rw [withinLimit_decodeWithin shallow failure failed] at limit
    cases limit
  · exact fun deep => ⟨_, decodeWithin_of_tooDeep deep, rfl⟩

theorem roleOver_failsForLimit_iff {base : Decoder (Option Credential)} :
    (∃ failure, (roleOver roleArn base).outcome = .error failure ∧
      failure.cause.isNestingTooDeep = true) ↔
      ∃ failure, base.outcome = .error failure ∧ failure.cause.isNestingTooDeep = true := by
  constructor
  · rintro ⟨_, failed, limit⟩
    obtain ⟨below, failedBelow, rfl⟩ := outcome_roleOver_eq_error_iff.mp failed
    exact ⟨below, failedBelow, limit⟩
  · rintro ⟨below, failedBelow, limit⟩
    exact ⟨_, outcome_roleOver_eq_error_iff.mpr ⟨below, failedBelow, rfl⟩, limit⟩

/-- Below the greatest word, the depth after one from the limit on is beyond the limit. -/
theorem levelsAt_add_one (limit : maxDepth ≤ depth.toNat) (next : depth.toNat + 1 < UInt64.size) :
    levelsAt (depth + 1) = 0 := by
  have exact : (depth + 1).toNat = depth.toNat + 1 := by
    rw [UInt64.toNat_add]
    exact Nat.mod_eq_of_lt next
  exact levelsAt_of_lt (exact ▸ Nat.lt_succ_of_le limit)

/-- No depth comes after the greatest word but the outermost one. -/
theorem add_one_of_greatest (greatest : depth.toNat + 1 = UInt64.size) : depth + 1 = 0 := by
  apply UInt64.toNat_inj.mp
  rw [UInt64.toNat_add]
  exact (congrArg (· % UInt64.size) greatest).trans (Nat.mod_self _)

/-- A role with a nested credential, at a depth from the limit on, fails for the limit at every
depth but the greatest word.  There the nested credential is read as one at the outermost depth, and
the role fails for the limit only if what is nested is too deep by itself. -/
theorem role_from_limit_tooDeep_iff (limit : maxDepth ≤ depth.toNat)
    (arn : values.get? "roleARN" = some (.string roleArn))
    (found : values.get? "configurer" = some nested) (present : nested ≠ .null) :
    (depth.toNat + 1 < UInt64.size →
      decodeTagged depth assumeRoleTag values =
        .fail ⟨[assumeRoleName, Provider.typeName .aws], .nestingTooDeep maxDepth⟩) ∧
    (depth.toNat + 1 = UInt64.size →
      decodeTagged depth assumeRoleTag values = roleOver roleArn (decodeAt 0 nested)) ∧
    ((∃ failure, (decodeTagged depth assumeRoleTag values).outcome = .error failure ∧
        failure.cause.isNestingTooDeep = true) ↔
      depth.toNat + 1 < UInt64.size ∨
        ∃ final, Reaches (maxDepth + 1) nested final ∧ final ≠ .null) := by
  have role : decodeTagged depth assumeRoleTag values =
      roleOver roleArn (decodeAt (depth + 1) nested) :=
    decodeTagged_of_nested arn found present
  have below (next : depth.toNat + 1 < UInt64.size) :
      decodeTagged depth assumeRoleTag values =
        .fail ⟨[assumeRoleName, Provider.typeName .aws], .nestingTooDeep maxDepth⟩ := by
    rw [role, decodeAt, levelsAt_add_one limit next, decodeWithin_zero]
    rfl
  have last (greatest : depth.toNat + 1 = UInt64.size) :
      decodeTagged depth assumeRoleTag values = roleOver roleArn (decodeAt 0 nested) := by
    rw [role, add_one_of_greatest greatest]
  refine ⟨below, last, ?_⟩
  rcases Nat.lt_or_eq_of_le (Nat.succ_le_of_lt depth.toNat_lt_size) with next | greatest
  · rw [below next]
    exact ⟨fun _ => .inl next, fun _ => ⟨_, rfl, rfl⟩⟩
  · have ended : ¬ depth.toNat + 1 < UInt64.size := greatest ▸ Nat.lt_irrefl _
    have outermost : levelsAt 0 = maxDepth + 1 := rfl
    rw [last greatest, roleOver_failsForLimit_iff, decodeAt, failsForLimit_iff, outermost, TooDeep]
    simp [ended]

/-- A role over an access key at the last depth within the limit: the access key is too deep. -/
theorem role_from_limit_tooDeep_over_key :
    let nested : Value := .object [("id", .string "AKIA"), ("secret", .string "secret")]
    let values : Dict Value := [("configurer", nested), ("roleARN", .string "arn")]
    maxDepth ≤ (8 : UInt64).toNat ∧ values.get? "roleARN" = some (.string "arn") ∧
      values.get? "configurer" = some nested ∧ nested ≠ .null ∧
      decodeTagged 8 assumeRoleTag values =
        .fail ⟨[assumeRoleName, Provider.typeName .aws], .nestingTooDeep maxDepth⟩ := by
  intro nested values
  have limit : maxDepth ≤ (8 : UInt64).toNat := by decide
  have arn : values.get? "roleARN" = some (.string "arn") := rfl
  have found : values.get? "configurer" = some nested := rfl
  have present : nested ≠ .null := by simp [nested]
  exact ⟨limit, arn, found, present,
    (role_from_limit_tooDeep_iff limit arn found present).1 (by decide)⟩

/-- At the greatest word the same role is decoded, with the access key below it. -/
theorem role_at_greatest_depth_decodes :
    let nested : Value := .object [("id", .string "AKIA"), ("secret", .string "secret")]
    let values : Dict Value := [("configurer", nested), ("roleARN", .string "arn")]
    let depth : UInt64 := 0xFFFFFFFFFFFFFFFF
    maxDepth ≤ depth.toNat ∧ values.get? "roleARN" = some (.string "arn") ∧
      values.get? "configurer" = some nested ∧ nested ≠ .null ∧
      (decodeTagged depth assumeRoleTag values).outcome =
        .ok (.assumeRole (some (.accessKey ⟨"AKIA", "secret"⟩)) "arn") :=
  ⟨by decide, rfl, rfl, by simp, rfl⟩

end CloudBilling.Aws.Credential
