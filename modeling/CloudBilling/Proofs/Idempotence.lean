import CloudBilling.Integration.Config
import CloudBilling.Proofs.Aws.Redacted

/-!
# Redacting again

What was redacted once is not changed by being redacted again, and nothing is logged about it.  This
holds of envelopes with any tag and any values, and so of every configuration in transit.
-/

namespace CloudBilling

/-! ## Envelopes -/

/-- A rule that redacts the envelopes with one tag redacts them once and for all, if redacting does
and keeps the tag. -/
theorem Envelope.sanitize_sanitize_of_tag (tag : String) (redact : Envelope → Envelope)
    {sanitize : Envelope → Envelope}
    (rule : ∀ envelope,
      sanitize envelope = if envelope.tag = tag then redact envelope else envelope)
    (keepsTag : ∀ envelope, (redact envelope).tag = envelope.tag)
    (again : ∀ envelope, redact (redact envelope) = redact envelope) (envelope : Envelope) :
    sanitize (sanitize envelope) = sanitize envelope := by
  by_cases owned : envelope.tag = tag
  · have once : sanitize envelope = redact envelope := by rw [rule, if_pos owned]
    have stillOwned : (redact envelope).tag = tag := (keepsTag envelope).trans owned
    rw [once, rule, if_pos stillOwned, again]
  · have unchanged : sanitize envelope = envelope := by rw [rule, if_neg owned]
    rw [unchanged, unchanged]

theorem Azure.sanitize_sanitize (envelope : Envelope) :
    sanitize (sanitize envelope) = sanitize envelope := by
  refine Envelope.sanitize_sanitize_of_tag accessKeyTag
    (fun envelope => (envelope.redactEntry "accessKey").redactEntry "accesskey")
    (fun _ => rfl) (fun _ => rfl) ?_ envelope
  intro envelope
  -- The key's entry has two spellings, which are redacted independently of each other.
  have spellings : "accesskey" ≠ "accessKey" := by decide
  rw [Envelope.redactEntry_comm (envelope.redactEntry "accessKey") spellings,
    Envelope.redactEntry_redactEntry, Envelope.redactEntry_redactEntry]

theorem Gcp.sanitize_sanitize (envelope : Envelope) :
    sanitize (sanitize envelope) = sanitize envelope :=
  Envelope.sanitize_sanitize_of_tag accessKeyTag (Envelope.redactEntry "key")
    (fun _ => rfl) (fun _ => rfl) (Envelope.redactEntry_redactEntry "key") envelope

theorem Alibaba.sanitize_sanitize (envelope : Envelope) :
    sanitize (sanitize envelope) = sanitize envelope :=
  Envelope.sanitize_sanitize_of_tag accessKeyTag (Envelope.redactEntry "secret")
    (fun _ => rfl) (fun _ => rfl) (Envelope.redactEntry_redactEntry "secret") envelope

/-- An envelope that was redacted is not changed by being redacted again. -/
theorem Envelope.sanitize_value_sanitize (provider : Provider) (envelope : Envelope) :
    sanitize provider (sanitize provider envelope).value =
      pure (sanitize provider envelope).value := by
  cases provider with
  | aws => exact (Aws.redacted_sanitize envelope).sanitize_eq
  | azure => exact congrArg pure (Azure.sanitize_sanitize envelope)
  | gcp => exact congrArg pure (Gcp.sanitize_sanitize envelope)
  | alibaba => exact congrArg pure (Alibaba.sanitize_sanitize envelope)

/-! ## Configurations in transit -/

namespace Integration.Transfer

variable {kind : Kind} {transfer : Transfer kind}

theorem sanitize_of_absent (absent : Record.credential kind transfer = none) :
    sanitize kind transfer = pure transfer := by
  simp [sanitize, absent]

theorem sanitize_of_present {envelope : Envelope}
    (present : Record.credential kind transfer = some envelope) :
    sanitize kind transfer =
      (fun clean => Record.withCredential (some clean) kind transfer) <$>
        Envelope.sanitize kind.provider envelope := by
  simp [sanitize, present]

/-- A configuration in transit that was redacted is not changed by being redacted again. -/
theorem sanitize_value_sanitize (kind : Kind) (transfer : Transfer kind) :
    sanitize kind (sanitize kind transfer).value = pure (sanitize kind transfer).value := by
  cases present : Record.credential kind transfer with
  | none =>
      rw [sanitize_of_absent present]
      exact sanitize_of_absent present
  | some envelope =>
      rw [sanitize_of_present present, Logged.value_map,
        sanitize_of_present (Record.credential_withCredential _ kind transfer),
        Envelope.sanitize_value_sanitize, map_pure, Record.withCredential_withCredential]

end Integration.Transfer

/-- Redacting twice leaves what redacting once leaves, for the envelopes of every provider, whatever
their tags and values, and for the configurations in transit of every kind. -/
theorem sanitize_idempotent :
    (∀ (provider : Provider) (envelope : Envelope),
      Envelope.sanitize provider (Envelope.sanitize provider envelope).value =
        pure (Envelope.sanitize provider envelope).value) ∧
    ∀ (kind : Integration.Kind) (transfer : Integration.Transfer kind),
      Integration.Transfer.sanitize kind (Integration.Transfer.sanitize kind transfer).value =
        pure (Integration.Transfer.sanitize kind transfer).value :=
  ⟨Envelope.sanitize_value_sanitize, Integration.Transfer.sanitize_value_sanitize⟩

end CloudBilling
