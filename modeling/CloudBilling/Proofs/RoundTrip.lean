import CloudBilling.Credential
import CloudBilling.Proofs.Aws.Reading

/-!
# Encoding and decoding credentials

The value of a credential's envelope decodes to that credential as long as the credentials nested in
it stay within the limit, and fails for that limit as soon as one of them does not.  The limit
counts from the depth at which the value stands, so the boundary is exact at every depth.
-/

namespace CloudBilling

open Json (Value)

variable {depth : UInt64} {entries : Dict Value}

/-- The number of credentials nested inside a credential.  Only AWS credentials nest. -/
def Credential.height : (provider : Provider) → Credential provider → Nat
  | .aws => Aws.Credential.height
  | .azure | .gcp | .alibaba => fun _ => 0

theorem levelsAt_of_le (within : depth.toNat ≤ maxDepth) :
    levelsAt depth = maxDepth - depth.toNat + 1 :=
  Nat.succ_sub within

/-- A depth cannot overflow before the limit is passed. -/
theorem toNat_add_ofNat {steps : Nat} (within : depth.toNat + steps ≤ maxDepth + 1) :
    (depth + .ofNat steps).toNat = depth.toNat + steps := by
  have small : depth.toNat + steps < 2 ^ 64 := Nat.lt_of_le_of_lt within (by decide)
  have fewSteps : steps < 2 ^ 64 := Nat.lt_of_le_of_lt (Nat.le_add_left _ _) small
  rw [UInt64.toNat_add, UInt64.toNat_ofNat', Nat.mod_eq_of_lt fewSteps, Nat.mod_eq_of_lt small]

/-- What may be entered below a depth within the limit. -/
theorem levelsAt_succ (within : depth.toNat ≤ maxDepth) :
    levelsAt (depth + 1) = maxDepth - depth.toNat := by
  have next : (depth + 1).toNat = depth.toNat + 1 :=
    toNat_add_ofNat (Nat.succ_le_succ within)
  rw [levelsAt, next, Nat.add_sub_add_right]

theorem levelsAt_of_lt (below : maxDepth < depth.toNat) : levelsAt depth = 0 :=
  Nat.sub_eq_zero_of_le below

/-! ## AWS -/

namespace Aws.Credential

variable {credential : Credential}

/-- What the values of a credential's envelope come to decides what its value comes to. -/
theorem decodeWithin_of_ofTagged
    (decoded : ∀ levels,
      ofTagged (decodeWithin levels) credential.toEnvelope.tag credential.toEnvelope.values =
        if credential.height ≤ levels then pure credential
        else .fail (limitFailure (levels + 1))) (levels : Nat) :
    decodeWithin levels credential.toEnvelope.toValue =
      if credential.height < levels then pure (some credential)
      else .fail (limitFailure levels) := by
  cases levels with
  | zero => simp [decodeWithin_zero]
  | succ levels =>
      rw [decodeWithin_toValue, Envelope.resolve_of_tag credential.tag_toEnvelope_ne_empty,
        decoded]
      by_cases fits : credential.height ≤ levels
      · rw [if_pos fits, if_pos (Nat.lt_succ_of_le fits)]
        rfl
      · rw [if_neg fits, if_neg (by omega)]
        rfl

/-- The values of a credential's envelope decode to the credential if it fits below, and else fail
for the limit; nothing is logged. -/
theorem ofTagged_toEnvelope : (credential : Credential) → (levels : Nat) →
    ofTagged (decodeWithin levels) credential.toEnvelope.tag credential.toEnvelope.values =
      if credential.height ≤ levels then pure credential
      else .fail (limitFailure (levels + 1))
  | .accessKey key, levels => by
      have fits : (accessKey key).height ≤ levels := Nat.zero_le levels
      rw [if_pos fits]
      rfl
  | .serviceAccount, levels => by
      have fits : serviceAccount.height ≤ levels := Nat.zero_le levels
      rw [if_pos fits]
      rfl
  | .assumeRole none roleArn, levels => by
      have fits : (assumeRole none roleArn).height ≤ levels := Nat.zero_le levels
      rw [if_pos fits]
      rfl
  | .assumeRole (some base) roleArn, levels => by
      have below := decodeWithin_of_ofTagged (ofTagged_toEnvelope base) levels
      have present : Json.present? (assumeRole (some base) roleArn).toEnvelope.values
          "configurer" = some base.toEnvelope.toValue :=
        Json.present?_eq_some_iff.mpr ⟨rfl, base.toEnvelope.toValue_ne_null⟩
      have read : ofTagged (decodeWithin levels) (assumeRole (some base) roleArn).toEnvelope.tag
          (assumeRole (some base) roleArn).toEnvelope.values =
            roleOver roleArn (decodeWithin levels base.toEnvelope.toValue) :=
        roleOfMap_of_nested rfl present
      rw [read, below, height]
      by_cases fits : base.height < levels
      · rw [if_pos fits, if_pos (Nat.succ_le_of_lt fits)]
        rfl
      · rw [if_neg fits, if_neg (by omega)]
        rfl

theorem decodeWithin_toEnvelope (credential : Credential) (levels : Nat) :
    decodeWithin levels credential.toEnvelope.toValue =
      if credential.height < levels then pure (some credential)
      else .fail (limitFailure levels) :=
  decodeWithin_of_ofTagged credential.ofTagged_toEnvelope levels

end Aws.Credential

/-! ## The other providers -/

namespace Azure.Credential

theorem decodeAt_of_isReadByTag (within : depth.toNat ≤ maxDepth)
    (tagged : Envelope.isReadByTag .azure entries = true) :
    decodeAt depth (.object entries) = (do
      let envelope ← Envelope.ofMap .azure entries
      envelope.resolve .azure ofTagged) := by
  obtain ⟨type, untaken⟩ := Envelope.isReadByTag_iff.mp tagged
  simp only [Provider.shapeKeys, List.forall_mem_cons] at untaken
  unfold decodeAt
  rw [levelsAt_of_le within]
  simp [Json.asMap, Value.object?, type, untaken]

theorem ofTagged_toEnvelope (credential : Credential) :
    ofTagged credential.toEnvelope.tag credential.toEnvelope.values = pure credential := rfl

end Azure.Credential

namespace Alibaba.Credential

theorem decodeAt_of_isReadByTag (within : depth.toNat ≤ maxDepth)
    (tagged : Envelope.isReadByTag .alibaba entries = true) :
    decodeAt depth (.object entries) = (do
      let envelope ← Envelope.ofMap .alibaba entries
      envelope.resolve .alibaba ofTagged) := by
  obtain ⟨type, untaken⟩ := Envelope.isReadByTag_iff.mp tagged
  simp only [Provider.shapeKeys, List.forall_mem_cons] at untaken
  unfold decodeAt
  rw [levelsAt_of_le within]
  simp [Json.asMap, Value.object?, type, untaken]

theorem ofTagged_toEnvelope (credential : Credential) :
    ofTagged credential.toEnvelope.tag credential.toEnvelope.values = pure credential := rfl

end Alibaba.Credential

namespace Gcp

/-- A map of strings is read as the map it was made of. -/
theorem Key.stringEntries_map (entries : List (String × String)) :
    Key.stringEntries (entries.map fun entry => (entry.1, .string entry.2)) = .ok entries := by
  induction entries with
  | nil => rfl
  | cons entry rest ih =>
      rw [List.map_cons, Key.stringEntries, ih]
      rfl

/-- A key file is read out of the values of its envelope. -/
theorem Key.ofMap_toEnvelope (file : Key) : Key.ofMap file.toEnvelope.values = .ok file := by
  have content : Json.field .map file.toEnvelope.values "key" =
      .ok (file.entries.map fun entry => (entry.1, .string entry.2)) := rfl
  rw [Key.ofMap, content]
  simp [Key.stringEntries_map, Key.ofEntries, Dict.ofEntries_of_ascending file.ascending,
    bind, Except.bind, pure, Except.pure]

namespace Credential

theorem decodeAt_of_isReadByTag (within : depth.toNat ≤ maxDepth)
    (tagged : Envelope.isReadByTag .gcp entries = true) :
    decodeAt depth (.object entries) = (do
      let envelope ← Envelope.ofMap .gcp entries
      envelope.resolve .gcp ofTagged) := by
  obtain ⟨type, untaken⟩ := Envelope.isReadByTag_iff.mp tagged
  simp only [Provider.shapeKeys, List.forall_mem_cons] at untaken
  unfold decodeAt
  rw [levelsAt_of_le within]
  simp [Json.asMap, Value.object?, Dict.ne_nil_of_has type, type, untaken]

theorem ofTagged_toEnvelope (credential : Credential) :
    ofTagged credential.toEnvelope.tag credential.toEnvelope.values = pure credential := by
  cases credential with
  | workloadIdentity => rfl
  | key file =>
      have tagged : ofTagged (key file).toEnvelope.tag (key file).toEnvelope.values =
          (do return .key (← Key.ofMap file.toEnvelope.values)) := rfl
      rw [tagged, Key.ofMap_toEnvelope]
      rfl

end Credential

end Gcp

/-! ## Every provider -/

namespace Credential

variable {provider : Provider} {credential : Credential provider}

/-- At a depth beyond the limit nothing is decoded. -/
theorem decodeAt_of_lt (provider : Provider) (below : maxDepth < depth.toNat) (value : Value) :
    decodeAt provider depth value = .fail provider.tooDeep := by
  have none := levelsAt_of_lt below
  cases provider with
  | aws => simp [decodeAt, Aws.Credential.decodeAt, none, Aws.Credential.decodeWithin]
  | azure => simp [decodeAt, Azure.Credential.decodeAt, none]
  | gcp => simp [decodeAt, Gcp.Credential.decodeAt, none]
  | alibaba => simp [decodeAt, Alibaba.Credential.decodeAt, none]

theorem tag_toEnvelope_ne_empty (credential : Credential provider) :
    (toEnvelope provider credential).tag ≠ "" := by
  cases provider with
  | aws => exact Aws.Credential.tag_toEnvelope_ne_empty credential
  | azure => exact (by decide : Azure.accessKeyTag ≠ "")
  | alibaba => exact (by decide : Alibaba.accessKeyTag ≠ "")
  | gcp =>
      cases credential with
      | key file => exact (by decide : Gcp.accessKeyTag ≠ "")
      | workloadIdentity => exact (by decide : Gcp.workloadIdentityTag ≠ "")

/-- Within the limit, a map that is read by its tag is decoded as an envelope. -/
theorem decodeAt_of_isReadByTag (provider : Provider) (within : depth.toNat ≤ maxDepth)
    (tagged : Envelope.isReadByTag provider entries = true) :
    decodeAt provider depth (.object entries) = (do
      let envelope ← Envelope.ofMap provider entries
      envelope.resolve provider (decodeTagged provider depth)) := by
  cases provider with
  | aws =>
      obtain ⟨type, noArn, noId⟩ := Aws.Credential.isReadByTag_aws_iff.mp tagged
      have inside : decodeTagged .aws depth =
          Aws.Credential.ofTagged (Aws.Credential.decodeWithin (maxDepth - depth.toNat)) := by
        rw [← levelsAt_succ within]
        rfl
      rw [inside, ← Aws.Credential.decodeWithin_of_type noArn noId type, ← levelsAt_of_le within]
      rfl
  | azure => exact Azure.Credential.decodeAt_of_isReadByTag within tagged
  | gcp => exact Gcp.Credential.decodeAt_of_isReadByTag within tagged
  | alibaba => exact Alibaba.Credential.decodeAt_of_isReadByTag within tagged

/-- Within the limit, the value of an envelope is decoded as that envelope. -/
theorem decodeAt_toValue (envelope : Envelope) (within : depth.toNat ≤ maxDepth) :
    decodeAt provider depth envelope.toValue =
      envelope.resolve provider (decodeTagged provider depth) := by
  rw [Envelope.toValue_eq_object,
    decodeAt_of_isReadByTag provider within (Envelope.isReadByTag_entries provider envelope),
    Envelope.ofMap_entries]
  rfl

/-- The values of a credential's envelope decode to the credential, if what is nested in it stays
within the limit; nothing is logged. -/
theorem decodeTagged_toEnvelope (fits : depth.toNat + height provider credential ≤ maxDepth) :
    decodeTagged provider depth (toEnvelope provider credential).tag
      (toEnvelope provider credential).values = pure credential := by
  cases provider with
  | aws =>
      have decoded := Aws.Credential.ofTagged_toEnvelope credential (levelsAt (depth + 1))
      have below : Aws.Credential.height credential ≤ levelsAt (depth + 1) := by
        rw [levelsAt_succ (Nat.le_of_add_right_le fits)]
        exact Nat.le_sub_of_add_le' fits
      rw [if_pos below] at decoded
      exact decoded
  | azure => exact Azure.Credential.ofTagged_toEnvelope credential
  | gcp => exact Gcp.Credential.ofTagged_toEnvelope credential
  | alibaba => exact Alibaba.Credential.ofTagged_toEnvelope credential

theorem decodeTagged_toEnvelope_of_le
    (fits : depth.toNat + height provider credential ≤ maxDepth) :
    (decodeTagged provider depth (toEnvelope provider credential).tag
      (toEnvelope provider credential).values).outcome = .ok credential :=
  congrArg Attempt.outcome (decodeTagged_toEnvelope fits)

/-- They fail for the limit if it does not. -/
theorem decodeTagged_toEnvelope_of_lt (within : depth.toNat ≤ maxDepth)
    (deep : maxDepth < depth.toNat + height provider credential) :
    ∃ failure,
      (decodeTagged provider depth (toEnvelope provider credential).tag
        (toEnvelope provider credential).values).outcome = .error failure ∧
          failure.cause = .nestingTooDeep maxDepth := by
  cases provider with
  | aws =>
      have failed := Aws.Credential.ofTagged_toEnvelope credential (levelsAt (depth + 1))
      have beyond : ¬ Aws.Credential.height credential ≤ levelsAt (depth + 1) := by
        rw [levelsAt_succ within]
        exact Nat.not_le_of_lt (Nat.sub_lt_left_of_lt_add within deep)
      rw [if_neg beyond] at failed
      exact ⟨_, congrArg Attempt.outcome failed, rfl⟩
  | azure | gcp | alibaba => exact absurd within (Nat.not_le_of_lt deep)

/-- The value of a credential's envelope decodes to the credential at every depth at which what is
nested in it stays within the limit. -/
theorem decodeAt_toEnvelope (fits : depth.toNat + height provider credential ≤ maxDepth) :
    decodeAt provider depth (toEnvelope provider credential).toValue = pure (some credential) := by
  rw [decodeAt_toValue _ (Nat.le_of_add_right_le fits),
    Envelope.resolve_of_tag (tag_toEnvelope_ne_empty credential), decodeTagged_toEnvelope fits]
  rfl

theorem decodeAt_toEnvelope_of_le
    (fits : depth.toNat + height provider credential ≤ maxDepth) :
    (decodeAt provider depth (toEnvelope provider credential).toValue).outcome =
      .ok (some credential) :=
  congrArg Attempt.outcome (decodeAt_toEnvelope fits)

theorem ofEnvelope_toEnvelope (shallow : height provider credential ≤ maxDepth) :
    ofEnvelope provider (toEnvelope provider credential) = pure (some credential) := by
  have fits : (0 : UInt64).toNat + height provider credential ≤ maxDepth := by
    rwa [UInt64.toNat_zero, Nat.zero_add]
  have resolved : (toEnvelope provider credential).resolve provider (decodeTagged provider 0) =
      pure (some credential) := by
    rw [Envelope.resolve_of_tag (tag_toEnvelope_ne_empty credential),
      decodeTagged_toEnvelope fits]
    rfl
  rw [ofEnvelope, Envelope.open?, resolved]
  rfl

/-- It fails for the limit at every other depth. -/
theorem decodeAt_toEnvelope_of_lt
    (deep : maxDepth < depth.toNat + height provider credential) :
    ∃ failure,
      (decodeAt provider depth (toEnvelope provider credential).toValue).outcome =
          .error failure ∧ failure.cause = .nestingTooDeep maxDepth := by
  by_cases within : depth.toNat ≤ maxDepth
  · obtain ⟨failure, failed, cause⟩ := decodeTagged_toEnvelope_of_lt within deep
    rw [decodeAt_toValue _ within]
    refine ⟨failure, Envelope.outcome_resolve_eq_error_iff.mpr
      ⟨tag_toEnvelope_ne_empty credential, failed, ?_⟩, cause⟩
    rw [cause]
    rfl
  · rw [decodeAt_of_lt provider (Nat.lt_of_not_le within)]
    exact ⟨_, rfl, rfl⟩

/-- A credential is decoded again from the value of its envelope exactly where it and what is nested
in it stay within the limit, and everywhere else decoding fails for that limit.  From the envelope
itself it is decoded again exactly if it could be decoded at the top, and else nothing is. -/
theorem round_trip_iff_within_limit (provider : Provider) (credential : Credential provider)
    (depth : UInt64) :
    ((decodeAt provider depth (toEnvelope provider credential).toValue).outcome =
        .ok (some credential) ↔ depth.toNat + height provider credential ≤ maxDepth) ∧
    (maxDepth < depth.toNat + height provider credential →
      ∃ failure,
        (decodeAt provider depth (toEnvelope provider credential).toValue).outcome =
            .error failure ∧ failure.cause = .nestingTooDeep maxDepth) ∧
    (ofEnvelope provider (toEnvelope provider credential)).value =
      if height provider credential ≤ maxDepth then some credential else none := by
  refine ⟨⟨?_, decodeAt_toEnvelope_of_le⟩, decodeAt_toEnvelope_of_lt, ?_⟩
  · intro decoded
    refine Nat.le_of_not_lt fun deep => ?_
    obtain ⟨failure, failed, _⟩ := decodeAt_toEnvelope_of_lt deep
    rw [decoded] at failed
    cases failed
  · have top : (0 : UInt64).toNat + height provider credential =
        height provider credential := Nat.zero_add _
    split
    · next fits =>
        rw [← top] at fits
        exact Envelope.value_open?_eq_some_iff.mpr
          ⟨tag_toEnvelope_ne_empty credential, decodeTagged_toEnvelope_of_le fits⟩
    · next deep =>
        rw [← top] at deep
        obtain ⟨failure, failed, _⟩ :=
          decodeTagged_toEnvelope_of_lt (Nat.zero_le _) (Nat.lt_of_not_le deep)
        rw [Option.eq_none_iff_forall_ne_some]
        intro other opened
        rw [(Envelope.value_open?_eq_some_iff.mp opened).2] at failed
        cases failed

/-- Nine roles around the service account are one too many for the top. -/
theorem round_trip_iff_within_limit_nine_roles :
    let chain : Aws.Credential :=
      Nat.repeat (fun base => .assumeRole (some base) "arn") 9 .serviceAccount
    maxDepth < (0 : UInt64).toNat + height .aws chain ∧
      ∃ failure,
        (decodeAt .aws 0 (toEnvelope .aws chain).toValue).outcome = .error failure ∧
          failure.cause = .nestingTooDeep maxDepth := by
  intro chain
  have deep : maxDepth < (0 : UInt64).toNat + height .aws chain := by decide
  exact ⟨deep, (round_trip_iff_within_limit .aws chain 0).2.1 deep⟩

end Credential

end CloudBilling
