import CloudBilling.Integration.Config
import CloudBilling.Proofs.RoundTrip

/-!
# Equality and encoding

Two credentials are equal exactly if they are put into the same envelope, and two configurations
exactly if they are transferred as the same one.  Encoding has no limit on nesting, so neither has
this: an envelope gives its credential back to a reader that may enter as many levels as there are.
-/

namespace CloudBilling

/-! ## Comparisons that agree with an encoding -/

/-- A comparison with something that may be absent is equality, and tells apart just what an encoding
tells apart. -/
structure Agrees {α β : Type} (equals : α → Option α → Bool) (encode : α → β) : Prop where
  same : ∀ left right, equals left (some right) = true ↔ left = right
  encoded : ∀ left right, equals left (some right) = true ↔ encode left = encode right
  symm : ∀ left right, equals left (some right) = equals right (some left)
  refl : ∀ left, equals left (some left) = true
  trans : ∀ left middle right, equals left (some middle) = true →
    equals middle (some right) = true → equals left (some right) = true
  absent : ∀ left, equals left none = false

/-- A comparison that decides equality agrees with every encoding that loses nothing. -/
theorem Agrees.of_injective {α β : Type} {equals : α → Option α → Bool} {encode : α → β}
    (decides : ∀ left other, equals left other = true ↔ other = some left)
    (injective : Function.Injective encode) : Agrees equals encode where
  same left right := by
    rw [decides, Option.some_inj, eq_comm]
  encoded left right := by
    rw [decides, Option.some_inj, injective.eq_iff, eq_comm]
  symm left right := by
    rw [Bool.eq_iff_iff, decides, decides, Option.some_inj, Option.some_inj, eq_comm]
  refl left := (decides left _).mpr rfl
  trans left middle right former latter := by
    obtain rfl := Option.some.inj ((decides left _).mp former)
    exact latter
  absent left := by
    rw [Bool.eq_false_iff, ne_eq, decides]
    exact nofun

/-- An encoding that can be read back loses nothing. -/
theorem Envelope.injective_of_read {γ : Type} {encode : γ → Envelope}
    (read : String → Dict Json.Value → Decoder γ)
    (back : ∀ credential, read (encode credential).tag (encode credential).values = pure credential) :
    Function.Injective encode := by
  intro left right same
  have former := back left
  rw [same, back right] at former
  cases former
  rfl

/-! ## Credentials -/

namespace Aws.Credential

theorem toEnvelope_injective : Function.Injective toEnvelope := by
  intro left right same
  -- The limit does not count here: both are read with the levels that the deeper one needs.
  have former := left.ofTagged_toEnvelope (max left.height right.height)
  have latter := right.ofTagged_toEnvelope (max left.height right.height)
  rw [if_pos (Nat.le_max_left _ _)] at former
  rw [if_pos (Nat.le_max_right _ _), ← same, former] at latter
  cases latter
  rfl

/-- Roles are compared by themselves as they are compared among all credentials. -/
theorem rolesEqual_eq (base : Option Credential) (roleArn : String)
    (otherBase : Option Credential) (otherArn : String) :
    rolesEqual base roleArn otherBase otherArn =
      (assumeRole base roleArn).equals (some (assumeRole otherBase otherArn)) := by
  cases base with
  | none => cases otherBase <;> simp [rolesEqual, equals, eq_comm]
  | some base => cases otherBase <;> simp [rolesEqual, equals, eq_comm]

theorem variantEquals_eq (left right : Credential) :
    left.variantEquals right =
      if left.variantName = right.variantName then some (left.equals (some right)) else none := by
  cases left with
  | accessKey key => cases right <;> simp [variantEquals, variantName, equals, eq_comm]
  | serviceAccount => cases right <;> simp [variantEquals, variantName, equals]
  | assumeRole base roleArn =>
      cases right <;> simp [variantEquals, variantName, rolesEqual_eq]

end Aws.Credential

namespace Credential

theorem toEnvelope_injective (provider : Provider) : Function.Injective (toEnvelope provider) := by
  cases provider with
  | aws => exact Aws.Credential.toEnvelope_injective
  | azure => exact Envelope.injective_of_read _ Azure.Credential.ofTagged_toEnvelope
  | gcp => exact Envelope.injective_of_read _ Gcp.Credential.ofTagged_toEnvelope
  | alibaba => exact Envelope.injective_of_read _ Alibaba.Credential.ofTagged_toEnvelope

theorem equals_iff {provider : Provider} {credential : Credential provider}
    {other : Option (Credential provider)} :
    equals provider credential other = true ↔ other = some credential := by
  simp [equals]

/-- A variant compares its credentials as all credentials of the provider are compared. -/
theorem variantEquals_eq (provider : Provider) (left right : Credential provider) :
    variantEquals provider left right =
      if variantName provider left = variantName provider right then
        some (equals provider left (some right))
      else none := by
  cases provider with
  | aws => exact Aws.Credential.variantEquals_eq left right
  | azure =>
      cases left
      cases right
      simp [variantEquals, Azure.Credential.variantEquals, variantName,
        Azure.Credential.variantName, equals, eq_comm]
  | gcp =>
      cases left <;> cases right <;>
        simp [variantEquals, Gcp.Credential.variantEquals, variantName,
          Gcp.Credential.variantName, equals, eq_comm]
  | alibaba =>
      cases left
      cases right
      simp [variantEquals, Alibaba.Credential.variantEquals, variantName,
        Alibaba.Credential.variantName, equals, eq_comm]

end Credential

/-! ## Configurations -/

namespace Integration.Config

theorem toTransfer_injective (kind : Kind) : Function.Injective (toTransfer kind) := by
  intro left right same
  have envelopes := congrArg (Record.credential kind) same
  simp only [toTransfer, Record.credential_withCredential] at envelopes
  have credentials : Record.credential kind left = Record.credential kind right :=
    Option.map_injective (Credential.toEnvelope_injective kind.provider) envelopes
  calc
    left = Record.withCredential (Record.credential kind left) kind (toTransfer kind left) := by
      simp [toTransfer]
    _ = Record.withCredential (Record.credential kind right) kind (toTransfer kind right) := by
      rw [credentials, same]
    _ = right := by
      simp [toTransfer]

theorem equals_iff {kind : Kind} {config : Config kind} {other : Option (Config kind)} :
    equals kind config other = true ↔ other = some config := by
  simp [equals]

end Integration.Config

/-- Credentials of a provider are equal exactly if their envelopes are, however deep they nest; a
variant's own comparison says the same of two credentials of that variant.  Configurations of a kind
are equal exactly if they are transferred alike. -/
theorem Credential.equals_agrees_with_encoding :
    (∀ provider, Agrees (equals provider) (toEnvelope provider)) ∧
    (∀ provider left right, variantEquals provider left right =
      if variantName provider left = variantName provider right then
        some (equals provider left (some right))
      else none) ∧
    ∀ kind, Agrees (Integration.Config.equals kind) (Integration.Config.toTransfer kind) := by
  refine ⟨fun provider => ?_, variantEquals_eq, fun kind => ?_⟩
  · exact .of_injective (fun _ _ => equals_iff) (toEnvelope_injective provider)
  · exact .of_injective (fun _ _ => Integration.Config.equals_iff)
      (Integration.Config.toTransfer_injective kind)

end CloudBilling
