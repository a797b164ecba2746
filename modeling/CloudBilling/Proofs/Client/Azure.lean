import CloudBilling.Client.Azure
import CloudBilling.Proofs.Base64
import CloudBilling.Proofs.Validation

/-!
# The bytes of a storage account's key

The key of a storage account is a text in base 64 that may have white space around it.  Its bytes are
decoded exactly if it is such a text.  Validation asks for a text that is not empty, but white space
alone is no key: such a text is valid, and decodes to no bytes at all.
-/

namespace CloudBilling

/-! ## White space around a key -/

namespace Text

/-- What is left of a text without the white space at its ends: there is nothing but white space around
it, and none at its own ends. -/
structure Trimmed (text inner : List Char) : Prop where
  exists_around : ∃ front back, text = front ++ inner ++ back ∧
    (∀ c ∈ front, isBlank c = true) ∧ ∀ c ∈ back, isBlank c = true
  head_not_blank : ∀ c ∈ inner.head?, isBlank c = false
  last_not_blank : ∀ c ∈ inner.getLast?, isBlank c = false

theorem blank_of_mem_takeWhile {chars : List Char} :
    ∀ c ∈ chars.takeWhile isBlank, isBlank c = true :=
  List.all_eq_true.mp List.all_takeWhile

theorem head_dropWhile_not_blank (chars : List Char) :
    ∀ c ∈ (chars.dropWhile isBlank).head?, isBlank c = false := by
  intro c first
  have kept := List.head?_dropWhile_not isBlank chars
  rw [Option.mem_def.mp first] at kept
  exact kept

theorem dropWhile_of_head_not_blank {chars : List Char}
    (kept : ∀ c ∈ chars.head?, isBlank c = false) : chars.dropWhile isBlank = chars := by
  cases chars with
  | nil => rfl
  | cons c rest => rw [List.dropWhile_cons, kept c rfl, if_neg Bool.false_ne_true]

theorem trimmed_trim (text : List Char) : Trimmed text (trim text) := by
  let rest := text.dropWhile isBlank
  let back := (rest.reverse.takeWhile isBlank).reverse
  have parts : rest = trim text ++ back := by
    rw [trim, ← List.reverse_append, List.takeWhile_append_dropWhile, List.reverse_reverse]
  refine ⟨⟨text.takeWhile isBlank, back, ?_, blank_of_mem_takeWhile, ?_⟩, ?_, ?_⟩
  · rw [List.append_assoc, ← parts, List.takeWhile_append_dropWhile]
  · intro c member
    exact blank_of_mem_takeWhile c (List.mem_reverse.mp member)
  · intro c first
    apply head_dropWhile_not_blank text c
    change c ∈ rest.head?
    rw [parts, List.head?_append, Option.mem_def.mp first]
    rfl
  · rw [trim, List.getLast?_reverse]
    exact head_dropWhile_not_blank _

theorem Trimmed.trim_eq {text inner : List Char} (trimmed : Trimmed text inner) :
    trim text = inner := by
  obtain ⟨front, back, rfl, frontBlank, backBlank⟩ := trimmed.exists_around
  rw [trim, List.append_assoc, List.dropWhile_append_of_pos frontBlank]
  cases inner with
  | nil =>
      have gone : back.dropWhile isBlank = [] := by
        rw [← List.append_nil back, List.dropWhile_append_of_pos backBlank, List.dropWhile_nil]
      rw [List.nil_append, gone]
      rfl
  | cons c rest =>
      have first : (c :: rest ++ back).dropWhile isBlank = c :: rest ++ back :=
        dropWhile_of_head_not_blank trimmed.head_not_blank
      have last : (c :: rest).reverse.dropWhile isBlank = (c :: rest).reverse := by
        apply dropWhile_of_head_not_blank
        rw [List.head?_reverse]
        exact trimmed.last_not_blank
      have backReversed : ∀ d ∈ back.reverse, isBlank d = true := fun d member =>
        backBlank d (List.mem_reverse.mp member)
      rw [first, List.reverse_append, List.dropWhile_append_of_pos backReversed, last,
        List.reverse_reverse]

theorem trim_eq_iff {text inner : List Char} : trim text = inner ↔ Trimmed text inner :=
  ⟨fun same => same ▸ trimmed_trim text, Trimmed.trim_eq⟩

theorem trimmed_nil_iff {text : List Char} : Trimmed text [] ↔ ∀ c ∈ text, isBlank c = true := by
  constructor
  · rintro ⟨⟨front, back, rfl, frontBlank, backBlank⟩, _, _⟩ c member
    rw [List.append_nil] at member
    exact (List.mem_append.mp member).elim (frontBlank c) (backBlank c)
  · intro blank
    exact ⟨⟨text, [], by simp, blank, by simp⟩, by simp, by simp⟩

/-- Nothing is left of a text exactly if it holds nothing but white space. -/
theorem trim_eq_nil_iff {text : String} : trim text.toList = [] ↔ isAllBlank text = true := by
  rw [trim_eq_iff, trimmed_nil_iff, isAllBlank, List.all_eq_true]

end Text

/-! ## Decoding -/

namespace Client.Azure

open CloudBilling.Azure
open Text (Trimmed)
open Text.Base64 (Encodes)

variable {key : AccessKey} {surroundings : Surroundings}

/-- What is reported about a key that is no text in base 64. -/
def undecodable : Failure :=
  ⟨[accessKeyTag], .delegated "failed to decode storage account key" (some "invalid base64 text")⟩

theorem outcome_ofAccessKey (going : surroundings.cancelled = false) :
    (ofAccessKey key surroundings).outcome = key.validate >>= fun _ =>
      match Text.Base64.decode (Text.trim key.accessKey.toList) with
      | some bytes => .ok ⟨key.account, bytes⟩
      | none => .error undecodable := by
  have uncancelled : surroundings.check = .ok () := Surroundings.check_eq_ok_iff.mpr going
  rw [ofAccessKey, uncancelled]
  cases key.validate with
  | error failure => rfl
  | ok =>
      cases decoded : Text.Base64.decode (Text.trim key.accessKey.toList) <;> rfl

/-- The bytes of a key are known exactly if it is made of them and of white space at its ends. -/
theorem decode_trim_eq_some_iff {text : List Char} {bytes : List UInt8} :
    Text.Base64.decode (Text.trim text) = some bytes ↔
      ∃ inner, Trimmed text inner ∧ Encodes inner bytes := by
  rw [Text.Base64.decode_eq_some_iff]
  simp only [← Text.trim_eq_iff, exists_eq_left']

theorem outcome_ofAccessKey_eq_ok_iff {shared : SharedKey} (named : key.account ≠ "")
    (going : surroundings.cancelled = false) :
    (ofAccessKey key surroundings).outcome = .ok shared ↔
      key.accessKey ≠ "" ∧ shared.accountName = key.account ∧
        ∃ inner, Trimmed key.accessKey.toList inner ∧ Encodes inner shared.accountKey := by
  obtain ⟨accountName, accountKey⟩ := shared
  rw [outcome_ofAccessKey going, ← decode_trim_eq_some_iff]
  cases validated : key.validate with
  | error failure =>
      have keyless : ¬key.accessKey ≠ "" := by
        intro keyed
        cases validated.symm.trans (AccessKey.validate_eq_ok_iff.mpr ⟨keyed, named⟩)
      simp [keyless, bind, Except.bind]
  | ok =>
      have keyed : key.accessKey ≠ "" := (AccessKey.validate_eq_ok_iff.mp validated).1
      cases Text.Base64.decode (Text.trim key.accessKey.toList) <;>
        simp [keyed, bind, Except.bind, eq_comm]

theorem outcome_ofAccessKey_of_undecodable (named : key.account ≠ "")
    (going : surroundings.cancelled = false) (keyed : key.accessKey ≠ "")
    (foreign : ¬∃ inner bytes, Trimmed key.accessKey.toList inner ∧ Encodes inner bytes) :
    (ofAccessKey key surroundings).outcome = .error undecodable := by
  have valid : key.validate = .ok () := AccessKey.validate_eq_ok_iff.mpr ⟨keyed, named⟩
  have undecoded : Text.Base64.decode (Text.trim key.accessKey.toList) = none := by
    rw [Option.eq_none_iff_forall_ne_some]
    intro bytes decoded
    obtain ⟨inner, trimmed, encodes⟩ := decode_trim_eq_some_iff.mp decoded
    exact foreign ⟨inner, bytes, trimmed, encodes⟩
  rw [outcome_ofAccessKey going, valid, undecoded]
  rfl

/-- As long as nobody has cancelled, the key of a named account is decoded exactly if there is a key
and, without the white space at its ends, it is the text of some bytes.  These are then the bytes of
the key, and the name of the account stays as it is.  Any other key is reported as one that cannot be
decoded, inside the name of its type. -/
theorem ofAccessKey_decodes_exactly (named : key.account ≠ "")
    (going : surroundings.cancelled = false) :
    (∀ shared, (ofAccessKey key surroundings).outcome = .ok shared ↔
      key.accessKey ≠ "" ∧ shared.accountName = key.account ∧
        ∃ inner, Trimmed key.accessKey.toList inner ∧ Encodes inner shared.accountKey) ∧
    (key.accessKey ≠ "" →
      (¬∃ inner bytes, Trimmed key.accessKey.toList inner ∧ Encodes inner bytes) →
        ∃ source, (ofAccessKey key surroundings).outcome =
          .error ⟨["AzureAccessKey"],
            .delegated "failed to decode storage account key" source⟩) := by
  constructor
  · exact fun shared => outcome_ofAccessKey_eq_ok_iff named going
  · exact fun keyed foreign => ⟨_, outcome_ofAccessKey_of_undecodable named going keyed foreign⟩

/-- White space around a key does not matter; a last digit with a bit that is of no byte does. -/
theorem ofAccessKey_decodes_exactly_last_digit :
    let here : Surroundings := ⟨false, fun _ => none⟩
    let good : AccessKey := ⟨" aGk=\n", "account"⟩
    let bad : AccessKey := ⟨"aGl=", "account"⟩
    good.account ≠ "" ∧ bad.account ≠ "" ∧ here.cancelled = false ∧ bad.accessKey ≠ "" ∧
      (ofAccessKey good here).outcome = .ok ⟨"account", [104, 105]⟩ ∧
      ∃ source, (ofAccessKey bad here).outcome =
        .error ⟨["AzureAccessKey"],
          .delegated "failed to decode storage account key" source⟩ := by
  intro here good bad
  have goodNamed : good.account ≠ "" := by decide
  have badNamed : bad.account ≠ "" := by decide
  have going : here.cancelled = false := rfl
  have badKeyed : bad.accessKey ≠ "" := by decide
  have undecoded : Text.Base64.decode (Text.trim bad.accessKey.toList) = none := by decide
  have foreign : ¬∃ inner bytes, Trimmed bad.accessKey.toList inner ∧ Encodes inner bytes := by
    rintro ⟨inner, bytes, encoded⟩
    cases undecoded.symm.trans (decode_trim_eq_some_iff.mpr ⟨inner, encoded⟩)
  refine ⟨goodNamed, badNamed, going, badKeyed, ?_, ?_⟩
  · refine ((ofAccessKey_decodes_exactly goodNamed going).1 _).mpr ⟨by decide, rfl, ?_⟩
    exact decode_trim_eq_some_iff.mp (by decide)
  · exact (ofAccessKey_decodes_exactly badNamed going).2 badKeyed foreign

/-! ## Keys without a byte -/

/-- What is decoded is the key of a named account, and nobody has cancelled. -/
theorem named_of_ofAccessKey {shared : SharedKey}
    (decoded : (ofAccessKey key surroundings).outcome = .ok shared) :
    surroundings.cancelled = false ∧ key.account ≠ "" := by
  cases validated : key.validate with
  | error failure =>
      rw [ofAccessKey, validated] at decoded
      cases decoded
  | ok =>
      cases checked : surroundings.check with
      | error failure =>
          rw [ofAccessKey, validated, checked] at decoded
          cases decoded
      | ok =>
          exact ⟨Surroundings.check_eq_ok_iff.mp checked,
            (AccessKey.validate_eq_ok_iff.mp validated).2⟩

/-- No bytes are decoded exactly from a text that holds nothing but white space. -/
theorem decode_trim_eq_some_nil_iff {text : String} :
    Text.Base64.decode (Text.trim text.toList) = some [] ↔ Text.isAllBlank text = true := by
  rw [Text.Base64.decode_eq_some_iff, Text.Base64.encodes_iff, Text.Base64.encode,
    Text.trim_eq_nil_iff]

/-- What is decoded belongs to a named account, and it has no byte exactly if the key holds nothing
but white space.  Every such key of a named account is decoded, unless it is empty or somebody has
cancelled. -/
theorem ofAccessKey_empty_iff_blank (key : AccessKey) (surroundings : Surroundings) :
    (∀ shared, (ofAccessKey key surroundings).outcome = .ok shared →
      shared.accountName ≠ "" ∧
        (shared.accountKey = [] ↔ Text.isAllBlank key.accessKey = true)) ∧
    (surroundings.cancelled = false → key.account ≠ "" → key.accessKey ≠ "" →
      Text.isAllBlank key.accessKey = true →
        (ofAccessKey key surroundings).outcome = .ok ⟨key.account, []⟩) := by
  constructor
  · intro shared decoded
    obtain ⟨going, named⟩ := named_of_ofAccessKey decoded
    obtain ⟨_, sameName, encoded⟩ := (outcome_ofAccessKey_eq_ok_iff named going).mp decoded
    refine ⟨sameName ▸ named, ?_⟩
    have read := decode_trim_eq_some_iff.mpr encoded
    rw [← decode_trim_eq_some_nil_iff, read, Option.some.injEq]
  · intro going named keyed blank
    refine (outcome_ofAccessKey_eq_ok_iff named going).mpr ⟨keyed, rfl, ?_⟩
    exact decode_trim_eq_some_iff.mp (decode_trim_eq_some_nil_iff.mpr blank)

/-- A key of white space only, and one with white space around it. -/
theorem ofAccessKey_empty_iff_blank_tab :
    let here : Surroundings := ⟨false, fun _ => none⟩
    let blank : AccessKey := ⟨"\t ", "account"⟩
    let filled : AccessKey := ⟨" aGk=\n", "account"⟩
    here.cancelled = false ∧ blank.account ≠ "" ∧ blank.accessKey ≠ "" ∧
      Text.isAllBlank blank.accessKey = true ∧
      (ofAccessKey blank here).outcome = .ok ⟨"account", []⟩ ∧
      (ofAccessKey filled here).outcome = .ok ⟨"account", [104, 105]⟩ ∧
      (([104, 105] : List UInt8) = [] ↔ Text.isAllBlank filled.accessKey = true) := by
  intro here blank filled
  have going : here.cancelled = false := rfl
  have named : blank.account ≠ "" := by decide
  have keyed : blank.accessKey ≠ "" := by decide
  have allBlank : Text.isAllBlank blank.accessKey = true := by decide
  have decoded : (ofAccessKey filled here).outcome = .ok ⟨"account", [104, 105]⟩ := by decide
  exact ⟨going, named, keyed, allBlank,
    (ofAccessKey_empty_iff_blank blank here).2 going named keyed allBlank, decoded,
    ((ofAccessKey_empty_iff_blank filled here).1 _ decoded).2⟩

/-- A key of white space only is valid, and there is no byte in it to sign with. -/
theorem ofAccessKey_of_blank_key :
    let here : Surroundings := ⟨false, fun _ => none⟩
    let key : AccessKey := ⟨"   ", "account"⟩
    key.validate = .ok () ∧ (ofAccessKey key here).outcome = .ok ⟨"account", []⟩ := by
  decide

end Client.Azure

end CloudBilling
