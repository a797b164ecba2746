import CloudBilling.Inspect
import Mathlib.Data.Option.Basic
import Mathlib.Tactic.SplitIfs

/-!
# Telling inspection texts apart

An inspection text can be taken apart again.  Two texts are told apart even where they stand at the
front of longer texts, and with the parts of a text this carries over to the text: to the fields of
a record, to the content behind a name, and to the elements of a list.
-/

namespace CloudBilling

/-! ## Quoted text -/

namespace Text

/-- The character that one letter stands for after a backslash in quoted text. -/
def unquotedLetter : Char → Option Char
  | '"' => some '"'
  | '\\' => some '\\'
  | 'n' => some '\n'
  | 'r' => some '\r'
  | 't' => some '\t'
  | '0' => some '\x00'
  | _ => none

/-- The character at the front of quoted text, with what stands behind it. -/
def unquotedFront : List Char → Option (Char × List Char)
  | '\\' :: 'u' :: '\x7b' :: rest => do
      let number ← hexNumber? (rest.takeWhile (· ≠ '\x7d'))
      return (Char.ofNat number, (rest.dropWhile (· ≠ '\x7d')).tail)
  | '\\' :: letter :: rest => do return (← unquotedLetter letter, rest)
  | c :: rest => some (c, rest)
  | [] => none

theorem hexValue?_digitChar : ∀ n < 16, hexValue? n.digitChar = some n := by
  decide

theorem digitChar_ne_brace : ∀ n < 16, n.digitChar ≠ '\x7d' := by
  decide

theorem hexNumber?_snoc (digits : List Char) (last : Char) :
    hexNumber? (digits ++ [last]) = do
      return 16 * (← hexNumber? digits) + (← hexValue? last) := by
  rw [hexNumber?, List.foldl_append]
  rfl

theorem hexNumber?_hexNumeral (n : Nat) : hexNumber? (hexNumeral n) = some n := by
  induction n using Nat.strongRecOn with
  | ind n ih =>
      by_cases small : n < 16
      · rw [hexNumeral, Nat.toDigits_of_lt_base small]
        simp [hexNumber?, hexValue?_digitChar n small]
      · have front := ih (n / 16) (by omega)
        have last := hexValue?_digitChar (n % 16) (Nat.mod_lt n (by decide))
        rw [hexNumeral] at front ⊢
        rw [Nat.toDigits_of_base_le (by decide) (Nat.le_of_not_lt small), hexNumber?_snoc, front,
          last]
        simp only [Option.pure_def, Option.bind_eq_bind, Option.bind_some, Nat.div_add_mod]

theorem brace_notMem_hexNumeral (n : Nat) : '\x7d' ∉ hexNumeral n := by
  induction n using Nat.strongRecOn with
  | ind n ih =>
      by_cases small : n < 16
      · rw [hexNumeral, Nat.toDigits_of_lt_base small, List.mem_singleton]
        exact (digitChar_ne_brace n small).symm
      · have front := ih (n / 16) (by omega)
        have last := digitChar_ne_brace (n % 16) (Nat.mod_lt n (by decide))
        rw [hexNumeral] at front ⊢
        rw [Nat.toDigits_of_base_le (by decide) (Nat.le_of_not_lt small), List.mem_append,
          List.mem_singleton]
        exact fun member => member.elim front last.symm

theorem unquotedFront_number (c : Char) (rest : List Char) :
    unquotedFront ('\\' :: 'u' :: '\x7b' :: hexNumeral c.toNat ++ '\x7d' :: rest) =
      some (c, rest) := by
  have clear : ∀ d ∈ hexNumeral c.toNat, decide (d ≠ '\x7d') = true := by
    intro d member
    exact decide_eq_true fun same => brace_notMem_hexNumeral _ (same ▸ member)
  simp only [List.cons_append, unquotedFront]
  rw [List.takeWhile_append_of_pos clear, List.dropWhile_append_of_pos clear,
    List.takeWhile_cons_of_neg (by decide), List.dropWhile_cons_of_neg (by decide),
    List.append_nil, hexNumber?_hexNumeral]
  simp [Char.ofNat_toNat]

theorem unquotedFront_of_ne {c : Char} (plain : c ≠ '\\') (rest : List Char) :
    unquotedFront (c :: rest) = some (c, rest) := by
  rw [unquotedFront.eq_def]
  split
  · next same => exact absurd (List.cons.inj same).1 plain
  · next same => exact absurd (List.cons.inj same).1 plain
  · next same =>
      cases same
      rfl
  · next same => cases same

/-- A character is read back from its quoted form. -/
theorem unquotedFront_quotedChar (c : Char) (rest : List Char) :
    unquotedFront (quotedChar c ++ rest) = some (c, rest) := by
  have same : quotedChar c = _ := quotedChar.eq_1 c
  split_ifs at same with quote slash newLine carriage tab zero hidden <;> rw [same]
  · rw [quote]; rfl
  · rw [slash]; rfl
  · rw [newLine]; rfl
  · rw [carriage]; rfl
  · rw [tab]; rfl
  · rw [zero]; rfl
  · simpa using unquotedFront_number c rest
  · exact unquotedFront_of_ne slash rest

theorem quotedChar_append_inj {c d : Char} {rest others : List Char}
    (same : quotedChar c ++ rest = quotedChar d ++ others) : c = d ∧ rest = others := by
  have read := congrArg unquotedFront same
  rw [unquotedFront_quotedChar, unquotedFront_quotedChar, Option.some.injEq, Prod.mk.injEq] at read
  exact read

/-- No character is quoted by something that begins like the closing quote. -/
theorem quotedChar_append_ne (c : Char) (rest others : List Char) :
    quotedChar c ++ rest ≠ '"' :: others := by
  intro same
  have read := congrArg unquotedFront same
  rw [unquotedFront_quotedChar, unquotedFront_of_ne (by decide), Option.some.injEq,
    Prod.mk.injEq] at read
  obtain ⟨rfl, rfl⟩ := read
  cases same

theorem flatMap_quotedChar_inj {chars otherChars rest others : List Char}
    (same : chars.flatMap quotedChar ++ '"' :: rest =
      otherChars.flatMap quotedChar ++ '"' :: others) : chars = otherChars := by
  induction chars generalizing otherChars with
  | nil =>
      cases otherChars with
      | nil => rfl
      | cons d otherChars =>
          rw [List.flatMap_cons, List.append_assoc] at same
          exact absurd same.symm (quotedChar_append_ne d _ rest)
  | cons c chars ih =>
      rw [List.flatMap_cons, List.append_assoc] at same
      cases otherChars with
      | nil => exact absurd same (quotedChar_append_ne c _ others)
      | cons d otherChars =>
          rw [List.flatMap_cons, List.append_assoc] at same
          obtain ⟨rfl, behind⟩ := quotedChar_append_inj same
          rw [ih behind]

end Text

namespace Inspect

/-! ## Parts of texts -/

/-- Two texts are equal if a condition holds.  If it does not hold they can be told apart, even by
somebody who does not know where they end. -/
structure Discerns (left right : String) (same : Prop) : Prop where
  equal : same → left = right
  told : ∀ {rest others : List Char}, left.toList ++ rest = right.toList ++ others → same

variable {left right otherLeft otherRight name : String} {same otherSame : Prop}

namespace Discerns

theorem eq_iff (discerns : Discerns left right same) : left = right ↔ same :=
  ⟨fun equal => discerns.told (congrArg (·.toList ++ []) equal), discerns.equal⟩

/-- Where two texts stand at the front of one text, the same stands behind them. -/
theorem told_behind (discerns : Discerns left right same) {rest others : List Char}
    (alike : left.toList ++ rest = right.toList ++ others) : same ∧ rest = others := by
  have told := discerns.told alike
  rw [discerns.equal told, List.append_cancel_left_eq] at alike
  exact ⟨told, alike⟩

theorem of_iff (discerns : Discerns left right same) (iff : same ↔ otherSame) :
    Discerns left right otherSame :=
  ⟨fun holds => discerns.equal (iff.mpr holds), fun alike => iff.mp (discerns.told alike)⟩

theorem never (discerns : Discerns left right False) (differ : ¬same) :
    Discerns left right same :=
  discerns.of_iff ⟨False.elim, differ⟩

theorem append (discerns : Discerns left right same)
    (otherDiscerns : Discerns otherLeft otherRight otherSame) :
    Discerns (left ++ otherLeft) (right ++ otherRight) (same ∧ otherSame) := by
  constructor
  · rintro ⟨holds, otherHolds⟩
    rw [discerns.equal holds, otherDiscerns.equal otherHolds]
  · intro rest others alike
    rw [String.toList_append, String.toList_append, List.append_assoc, List.append_assoc] at alike
    obtain ⟨holds, behind⟩ := discerns.told_behind alike
    exact ⟨holds, otherDiscerns.told behind⟩

end Discerns

theorem discerns_same (word : String) : Discerns word word True :=
  ⟨fun _ => rfl, fun _ => trivial⟩

/-- What is told apart is told apart in front of and behind fixed words. -/
theorem Discerns.between (discerns : Discerns left right same) (front back : String) :
    Discerns (front ++ left ++ back) (front ++ right ++ back) same :=
  (((discerns_same front).append discerns).append (discerns_same back)).of_iff (by simp)

/-- Two texts are told apart by words at their front of which neither begins the other. -/
theorem discerns_of_fronts {front otherFront : String} (begins : front.toList <+: left.toList)
    (otherBegins : otherFront.toList <+: right.toList)
    (apart : ¬(front.toList <+: otherFront.toList ∨ otherFront.toList <+: front.toList)) :
    Discerns left right False := by
  refine ⟨False.elim, fun {rest others} alike => apart ?_⟩
  have begun : front.toList <+: left.toList ++ rest := begins.trans (List.prefix_append _ rest)
  rw [alike] at begun
  exact List.prefix_or_prefix_of_prefix begun (otherBegins.trans (List.prefix_append _ others))

/-- No name begins another one. -/
def PrefixFree (names : List String) : Prop :=
  ∀ name ∈ names, ∀ other ∈ names, name.toList <+: other.toList → name = other

instance (names : List String) : Decidable (PrefixFree names) :=
  inferInstanceAs (Decidable (∀ name ∈ names, ∀ other ∈ names, name.toList <+: other.toList →
    name = other))

theorem PrefixFree.discerns {names : List String} (free : PrefixFree names)
    {name other : String} (known : name ∈ names) (otherKnown : other ∈ names)
    (begins : name.toList <+: left.toList) (otherBegins : other.toList <+: right.toList)
    (differ : name ≠ other) : Discerns left right False := by
  refine discerns_of_fronts begins otherBegins fun either => differ ?_
  rcases either with nameFirst | otherFirst
  · exact free name known other otherKnown nameFirst
  · exact (free other otherKnown name known otherFirst).symm

theorem discerns_text (left right : String) : Discerns (text left) (text right) (left = right) := by
  refine ⟨congrArg text, fun {rest others} alike => ?_⟩
  simp only [text, Text.quoted, String.toList_ofList, List.cons_append, List.append_assoc,
    List.nil_append, List.cons.injEq, true_and] at alike
  exact String.toList_inj.mp (Text.flatMap_quotedChar_inj alike)

/-! ## Content behind a name -/

theorem front_begins (front behind : String) : front.toList <+: (front ++ behind).toList := by
  rw [String.toList_append]
  exact List.prefix_append _ _

theorem name_prefix_tagged (name content : String) :
    name.toList <+: (tagged name content).toList := by
  simp [tagged]

theorem Discerns.tagged (discerns : Discerns left right same) (name : String) :
    Discerns (tagged name left) (tagged name right) same :=
  discerns.between (name ++ "(") ")"

theorem discerns_optional {α : Type} {shown : α → String} {related : α → α → Prop}
    {left right : Option α}
    (discerns : ∀ content ∈ left, ∀ other ∈ right,
      Discerns (shown content) (shown other) (related content other)) :
    Discerns (optional (left.map shown)) (optional (right.map shown))
      (Option.Rel related left right) := by
  cases left with
  | none =>
      cases right with
      | none => exact (discerns_same "None").of_iff (by simp)
      | some other =>
          have apart := discerns_of_fronts (List.prefix_refl "None".toList)
            (name_prefix_tagged "Some" (shown other)) (by decide)
          exact apart.never (by simp)
  | some content =>
      cases right with
      | none =>
          have apart := discerns_of_fronts (name_prefix_tagged "Some" (shown content))
            (List.prefix_refl "None".toList) (by decide)
          exact apart.never (by simp)
      | some other =>
          have filled := (discerns content rfl other rfl).tagged "Some"
          exact filled.of_iff (by simp)

theorem discerns_optionalText (left right : Option String) :
    Discerns (optionalText left) (optionalText right) (left = right) := by
  have discerns : Discerns (optionalText left) (optionalText right) (Option.Rel Eq left right) :=
    discerns_optional fun content _ other _ => discerns_text content other
  exact discerns.of_iff (by cases left <;> cases right <;> simp)

/-! ## Fields -/

/-- Two lists of fields have the same names, and their contents are told apart. -/
inductive DiscernsFields : List (String × String) → List (String × String) → Prop → Prop
  | nil : DiscernsFields [] [] True
  | cons (name : String) {left right : String} {same allSame : Prop}
      {lefts rights : List (String × String)} :
      Discerns left right same → DiscernsFields lefts rights allSame →
      DiscernsFields ((name, left) :: lefts) ((name, right) :: rights) (same ∧ allSame)

variable {lefts rights : List (String × String)} {allSame : Prop}

/-- Fields with commas between them. -/
def inside (fields : List (String × String)) : String :=
  ", ".intercalate (fields.map fun field => field.1 ++ ": " ++ field.2)

theorem inside_one (name content : String) :
    inside [(name, content)] = name ++ ": " ++ content := by
  simp [inside, String.intercalate_singleton]

theorem inside_cons (name content : String) (next : String × String)
    (fields : List (String × String)) :
    inside ((name, content) :: next :: fields) =
      name ++ ": " ++ content ++ ", " ++ inside (next :: fields) := by
  simp only [inside, List.map_cons, String.intercalate_cons_cons]

theorem DiscernsFields.discerns_inside (fields : DiscernsFields lefts rights allSame) :
    Discerns (inside lefts) (inside rights) allSame := by
  induction fields with
  | nil => exact discerns_same _
  | @cons name left right _ _ _ _ content behind ih =>
      cases behind with
      | nil =>
          rw [inside_one, inside_one]
          exact ((discerns_same (name ++ ": ")).append content).of_iff (by simp)
      | cons next =>
          rw [inside_cons, inside_cons]
          exact (content.between (name ++ ": ") ", ").append ih

theorem DiscernsFields.record (fields : DiscernsFields lefts rights allSame) (name : String) :
    Discerns (record name lefts) (record name rights) allSame :=
  fields.discerns_inside.between (name ++ " \x7b ") " \x7d"

theorem name_prefix_record (name : String) (fields : List (String × String)) :
    name.toList <+: (record name fields).toList := by
  simp [record]

theorem DiscernsFields.texts (behind : DiscernsFields lefts rights allSame)
    {left right : List (String × String)} (named : left.map (·.1) = right.map (·.1)) :
    DiscernsFields (left.map (fun field => (field.1, text field.2)) ++ lefts)
      (right.map (fun field => (field.1, text field.2)) ++ rights) (left = right ∧ allSame) := by
  induction left generalizing right with
  | nil =>
      obtain rfl := List.map_eq_nil_iff.mp named.symm
      simpa using behind
  | cons field left ih =>
      obtain ⟨name, content⟩ := field
      cases right with
      | nil => cases named
      | cons other right =>
          obtain ⟨otherName, otherContent⟩ := other
          obtain ⟨rfl, restNamed⟩ := List.cons.inj named
          have fields := DiscernsFields.cons name (discerns_text content otherContent)
            (ih restNamed)
          simpa [and_assoc] using fields

/-! ## Lists of texts -/

/-- What stands behind an element of a list: the elements that follow, and the bracket. -/
def closing : List String → String
  | [] => "]"
  | content :: contents => ", " ++ (text content ++ closing contents)

theorem intercalate_text (content : String) (contents : List String) :
    ", ".intercalate ((content :: contents).map text) ++ "]" = text content ++ closing contents := by
  induction contents generalizing content with
  | nil => simp [closing, String.intercalate_singleton]
  | cons next contents ih =>
      rw [List.map_cons, List.map_cons, String.intercalate_cons_cons, String.append_assoc,
        ← List.map_cons, ih, String.append_assoc, closing]

theorem list_texts_cons (content : String) (contents : List String) :
    list ((content :: contents).map text) = "[" ++ (text content ++ closing contents) := by
  rw [list, String.append_assoc, intercalate_text]

theorem bracket_prefix_list (content : String) (contents : List String) :
    "[\"".toList <+: (list ((content :: contents).map text)).toList := by
  rw [list_texts_cons]
  simp [text, Text.quoted]

theorem discerns_closing : (lefts rights : List String) →
    Discerns (closing lefts) (closing rights) (lefts = rights)
  | [], [] => (discerns_same "]").of_iff (by simp)
  | [], right :: rights => by
      have apart := discerns_of_fronts (List.prefix_refl "]".toList)
        (front_begins ", " (text right ++ closing rights)) (by decide)
      exact apart.never (by simp)
  | left :: lefts, [] => by
      have apart := discerns_of_fronts (front_begins ", " (text left ++ closing lefts))
        (List.prefix_refl "]".toList) (by decide)
      exact apart.never (by simp)
  | left :: lefts, right :: rights => by
      have contents := (discerns_text left right).append (discerns_closing lefts rights)
      exact ((discerns_same ", ").append contents).of_iff (by simp)

theorem discerns_list_texts (lefts rights : List String) :
    Discerns (list (lefts.map text)) (list (rights.map text)) (lefts = rights) := by
  cases lefts with
  | nil =>
      cases rights with
      | nil => exact (discerns_same "[]").of_iff (by simp)
      | cons right rights =>
          have apart := discerns_of_fronts (List.prefix_refl "[]".toList)
            (bracket_prefix_list right rights) (by decide)
          exact apart.never (by simp)
  | cons left lefts =>
      cases rights with
      | nil =>
          have apart := discerns_of_fronts (bracket_prefix_list left lefts)
            (List.prefix_refl "[]".toList) (by decide)
          exact apart.never (by simp)
      | cons right rights =>
          rw [list_texts_cons, list_texts_cons]
          have contents := (discerns_text left right).append (discerns_closing lefts rights)
          exact ((discerns_same "[").append contents).of_iff (by simp)

end Inspect

end CloudBilling
