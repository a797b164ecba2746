import CloudBilling.Integration.Config
import CloudBilling.Proofs.Aws.Reading
import CloudBilling.Proofs.Errors
import CloudBilling.Proofs.Record

/-!
# What reading a configuration warns of

Nothing.  Reading a credential logs its progress, and an error where an envelope cannot be turned
into a credential, but it never warns.  So every warning about a document is about an entry that was
skipped.
-/

namespace CloudBilling

open Json (Value)

/-- The events that warn. -/
def warnings (events : List Event) : List Event :=
  events.filter fun event => event.level = .warn

@[simp] theorem warnings_nil : warnings [] = [] := rfl

@[simp] theorem warnings_append (former latter : List Event) :
    warnings (former ++ latter) = warnings former ++ warnings latter :=
  List.filter_append ..

namespace Attempt

variable {α β : Type}

/-- No event of an attempt is a warning. -/
def Unwarned (attempt : Decoder α) : Prop :=
  warnings attempt.notes = []

theorem unwarned_pure (value : α) : Unwarned (pure value) := rfl

theorem unwarned_fail (failure : Failure) : Unwarned (fail failure : Decoder α) := rfl

theorem unwarned_liftM (outcome : Outcome α) : Unwarned (liftM outcome : Decoder α) := rfl

theorem Unwarned.bind {former : Decoder α} {next : α → Decoder β} (unwarned : former.Unwarned)
    (nextUnwarned : ∀ value, (next value).Unwarned) : (former >>= next).Unwarned := by
  cases reached : former.outcome with
  | error failure =>
      rw [bind_of_error next reached]
      exact unwarned
  | ok value =>
      rw [bind_of_ok next reached, Unwarned, warnings_append, unwarned, nextUnwarned value]
      rfl

/-- Making something of an outcome that was reached without an event. -/
theorem unwarned_map (outcome : Outcome α) (image : α → β) :
    Unwarned (do return image (← outcome)) :=
  Unwarned.bind (unwarned_liftM outcome) fun value => unwarned_pure (image value)

theorem Unwarned.ite {condition : Prop} [Decidable condition] {former latter : Decoder α}
    (unwarned : former.Unwarned) (otherUnwarned : latter.Unwarned) :
    Unwarned (if condition then former else latter) := by
  by_cases holds : condition
  · rwa [if_pos holds]
  · rwa [if_neg holds]

theorem Unwarned.within {attempt : Decoder α} (unwarned : attempt.Unwarned) (context : String) :
    (attempt.within context).Unwarned :=
  unwarned

end Attempt

open Attempt

/-! ## Credentials -/

namespace Envelope

variable {γ : Type} {provider : Provider} {decodeTagged : String → Dict Value → Decoder γ}

/-- An envelope that cannot be turned into a credential is an error, not a warning. -/
theorem unwarned_resolve (envelope : Envelope)
    (unwarned : ∀ tag values, (decodeTagged tag values).Unwarned) :
    (envelope.resolve provider decodeTagged).Unwarned := by
  have inside := unwarned envelope.tag envelope.values
  by_cases empty : envelope.tag = ""
  · rw [resolve_of_empty_tag empty]
    exact unwarned_pure none
  · rw [resolve_of_tag empty]
    cases reached : (decodeTagged envelope.tag envelope.values).outcome with
    | ok credential =>
        rw [tolerate_of_ok reached]
        exact inside
    | error failure =>
        cases tooDeep : failure.cause.isNestingTooDeep with
        | true =>
            rw [tolerate_of_tooDeep reached tooDeep]
            exact inside
        | false =>
            rw [tolerate_of_other reached tooDeep, Unwarned, warnings_append, inside]
            rfl

theorem unwarned_readTagged (entries : Dict Value)
    (unwarned : ∀ tag values, (decodeTagged tag values).Unwarned) :
    Unwarned (do (← ofMap provider entries).resolve provider decodeTagged) := by
  apply Unwarned.bind (unwarned_liftM _)
  intro envelope
  exact envelope.unwarned_resolve unwarned

end Envelope

namespace Aws.Credential

variable {inner : Value → Decoder (Option Credential)}

theorem unwarned_keyOfMap (entries : Dict Value) : (keyOfMap entries).Unwarned :=
  unwarned_map _ _

theorem unwarned_roleOfMap (unwarned : ∀ value, (inner value).Unwarned) (entries : Dict Value) :
    (roleOfMap inner entries).Unwarned := by
  apply Unwarned.within
  apply Unwarned.bind (unwarned_liftM _)
  intro roleArn
  apply Unwarned.bind (unwarned_liftM _)
  intro nested
  cases nested with
  | none => exact unwarned_pure _
  | some value =>
      apply Unwarned.bind (unwarned value)
      intro base
      exact unwarned_pure _

theorem unwarned_ofTagged (unwarned : ∀ value, (inner value).Unwarned) (tag : String)
    (values : Dict Value) : (ofTagged inner tag values).Unwarned := by
  apply Unwarned.ite (unwarned_keyOfMap values)
  apply Unwarned.ite (unwarned_pure _)
  exact Unwarned.ite (unwarned_roleOfMap unwarned values) (unwarned_fail _)

theorem unwarned_decodeWithin (levels : Nat) (value : Value) :
    (decodeWithin levels value).Unwarned := by
  induction levels generalizing value with
  | zero =>
      rw [decodeWithin_zero]
      exact unwarned_fail _
  | succ levels ih =>
      cases value with
      | null => exact unwarned_pure none
      | bool | number | string | array =>
          rw [decodeWithin_of_not_map rfl (by simp)]
          exact unwarned_fail _
      | object entries =>
          apply Unwarned.bind (unwarned_liftM _)
          intro entries
          -- An empty map is told of, but only at the level of details.
          refine Unwarned.ite rfl ?_
          refine Unwarned.ite ?_ ?_
          · apply Unwarned.bind (unwarned_roleOfMap ih entries)
            intro role
            exact unwarned_pure _
          · apply Unwarned.ite (unwarned_map _ _)
            exact Unwarned.ite (Envelope.unwarned_readTagged entries (unwarned_ofTagged ih))
              (unwarned_fail _)

end Aws.Credential

theorem Azure.Credential.unwarned_ofTagged (tag : String) (values : Dict Value) :
    (ofTagged tag values).Unwarned :=
  Unwarned.ite (unwarned_map _ _) (unwarned_fail _)

theorem Gcp.Credential.unwarned_ofTagged (tag : String) (values : Dict Value) :
    (ofTagged tag values).Unwarned := by
  apply Unwarned.ite (unwarned_map _ _)
  exact Unwarned.ite (unwarned_pure _) (unwarned_fail _)

theorem Alibaba.Credential.unwarned_ofTagged (tag : String) (values : Dict Value) :
    (ofTagged tag values).Unwarned :=
  Unwarned.ite (unwarned_map _ _) (unwarned_fail _)

theorem Azure.Credential.unwarned_decodeAt (depth : UInt64) (value : Value) :
    (decodeAt depth value).Unwarned := by
  rw [decodeAt.eq_def]
  split
  · exact unwarned_fail _
  · exact unwarned_pure none
  · apply Unwarned.bind (unwarned_liftM _)
    intro entries
    apply Unwarned.ite (unwarned_map _ _)
    exact Unwarned.ite (Envelope.unwarned_readTagged entries unwarned_ofTagged) (unwarned_fail _)

theorem Gcp.Credential.unwarned_decodeAt (depth : UInt64) (value : Value) :
    (decodeAt depth value).Unwarned := by
  rw [decodeAt.eq_def]
  split
  · exact unwarned_fail _
  · exact unwarned_pure none
  · apply Unwarned.bind (unwarned_liftM _)
    intro entries
    apply Unwarned.ite (unwarned_pure _)
    apply Unwarned.ite (unwarned_map _ _)
    exact Unwarned.ite (Envelope.unwarned_readTagged entries unwarned_ofTagged) (unwarned_fail _)

theorem Alibaba.Credential.unwarned_decodeAt (depth : UInt64) (value : Value) :
    (decodeAt depth value).Unwarned := by
  rw [decodeAt.eq_def]
  split
  · exact unwarned_fail _
  · exact unwarned_pure none
  · apply Unwarned.bind (unwarned_liftM _)
    intro entries
    apply Unwarned.ite (unwarned_map _ _)
    exact Unwarned.ite (Envelope.unwarned_readTagged entries unwarned_ofTagged) (unwarned_fail _)

theorem Credential.unwarned_decode (provider : Provider) (value : Value) :
    (decode provider value).Unwarned := by
  cases provider with
  | aws => exact Aws.Credential.unwarned_decodeWithin _ value
  | azure => exact Azure.Credential.unwarned_decodeAt 0 value
  | gcp => exact Gcp.Credential.unwarned_decodeAt 0 value
  | alibaba => exact Alibaba.Credential.unwarned_decodeAt 0 value

/-! ## Configurations -/

namespace Integration

theorem unwarned_readCredential (provider : Provider) (entries : Dict Value) :
    (readCredential provider entries).Unwarned := by
  apply Unwarned.bind (unwarned_liftM _)
  intro nested
  cases nested with
  | none => exact unwarned_pure none
  | some value => exact Credential.unwarned_decode provider value

/-- Reading a record warns of nothing unless reading its credential does. -/
theorem Record.unwarned_ofMap {γ : Type} {read : Dict Value → Decoder (Option γ)}
    (unwarned : ∀ entries, (read entries).Unwarned) (kind : Kind) (entries : Dict Value) :
    (ofMap read kind entries).Unwarned := by
  rw [ofMap_eq]
  apply Unwarned.bind (unwarned_liftM _)
  intro fields
  apply Unwarned.bind (unwarned entries)
  intro credential
  exact unwarned_pure _

theorem Config.unwarned_decode (kind : Kind) (value : Value) : (decode kind value).Unwarned := by
  apply Unwarned.within
  apply Unwarned.bind (unwarned_liftM _)
  exact Record.unwarned_ofMap (unwarned_readCredential kind.provider) kind

end Integration

end CloudBilling
