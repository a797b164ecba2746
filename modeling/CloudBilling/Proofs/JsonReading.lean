import CloudBilling.Json.Printer
import CloudBilling.Json.Reader
import Mathlib.Tactic.SplitIfs

/-!
# Reading back what was printed

A map of texts that was printed in the compact form is read back as it was, whatever characters its
names and texts are made of.  Every character is read back from its own escape; a string is read up
to the first quote that nothing escapes, so what stands behind it does not matter.  An entry is read
up to the comma or the brace behind it.
-/

namespace CloudBilling.Json

variable {c letter : Char} {rest : List Char} {fuel levels : Nat}
  {texts : List (String × String)}

/-! ## Characters of a string -/

/-- A character is escaped with a letter or, as a control, with its number, or stands for itself. -/
inductive Escaping (c : Char) : Prop
  | letter (letter : Char) (meant : letterEscape letter = some c)
      (same : escapedChar c = ['\\', letter])
  | number (control : c < ' ')
      (same : escapedChar c = '\\' :: 'u' :: '0' :: '0' :: Text.hexByte c.toNat)
  | itself (printable : ¬c < ' ') (notQuote : c ≠ '"') (notSlash : c ≠ '\\')
      (same : escapedChar c = [c])

theorem escaping (c : Char) : Escaping c := by
  have same : escapedChar c = _ := escapedChar.eq_1 c
  split_ifs at same with quote slash newLine carriage tab back feed control
  · exact .letter '"' (congrArg some quote.symm) same
  · exact .letter '\\' (congrArg some slash.symm) same
  · exact .letter 'n' (congrArg some newLine.symm) same
  · exact .letter 'r' (congrArg some carriage.symm) same
  · exact .letter 't' (congrArg some tab.symm) same
  · exact .letter 'b' (congrArg some back.symm) same
  · exact .letter 'f' (congrArg some feed.symm) same
  · exact .number control same
  · exact .itself control quote slash same

/-- One more character in front of what was read. -/
def prepend (c : Char) (read : List Char × List Char) : List Char × List Char :=
  (c :: read.1, read.2)

theorem readStringTail_letter (meant : letterEscape letter = some c) :
    readStringTail ('\\' :: letter :: rest) = (readStringTail rest).map (prepend c) := by
  have noNumber : letter ≠ 'u' := by
    rintro rfl
    cases meant
  rw [readStringTail.eq_def]
  split
  · next same => cases same
  · next same =>
      cases same
      exact absurd rfl noNumber
  · next same =>
      cases same
      rw [meant]
      cases readStringTail rest <;> rfl
  · next notLetter same =>
      cases same
      exact absurd rfl (notLetter letter rest rfl)
  · next same => cases same

/-- The four digits of a control spell its number. -/
theorem unitOf_control : ∀ n < 32,
    unitOf '0' '0' (Text.hexDigit (n / 16 % 16)) (Text.hexDigit (n % 16)) = some n := by
  decide

theorem readStringTail_control (control : c < ' ') :
    readStringTail ('\\' :: 'u' :: '0' :: '0' :: Text.hexByte c.toNat ++ rest) =
      (readStringTail rest).map (prepend c) := by
  have small : c.toNat < 32 := control
  have unit := unitOf_control _ small
  simp only [Text.hexByte, List.cons_append, List.nil_append]
  rw [readStringTail, unit]
  simp only [Option.bind_eq_bind, Option.bind_some]
  -- The number of a control is no half of a surrogate pair.
  rw [if_neg (by omega), if_neg (by omega), Char.ofNat_toNat]
  cases readStringTail rest <;> rfl

theorem readStringTail_itself (printable : ¬c < ' ') (notQuote : c ≠ '"') (notSlash : c ≠ '\\') :
    readStringTail (c :: rest) = (readStringTail rest).map (prepend c) := by
  rw [readStringTail.eq_def]
  split
  · next same =>
      cases same
      exact absurd rfl notQuote
  · next same =>
      cases same
      exact absurd rfl notSlash
  · next same =>
      cases same
      exact absurd rfl notSlash
  · next same =>
      cases same
      rw [if_neg (by simp [printable, notSlash])]
      cases readStringTail rest <;> rfl
  · next same => cases same

theorem readStringTail_escapedChar (c : Char) (rest : List Char) :
    readStringTail (escapedChar c ++ rest) = (readStringTail rest).map (prepend c) := by
  cases escaping c with
  | letter letter meant same =>
      rw [same]
      exact readStringTail_letter meant
  | number control same =>
      rw [same]
      exact readStringTail_control control
  | itself printable notQuote notSlash same =>
      rw [same]
      exact readStringTail_itself printable notQuote notSlash

theorem readStringTail_escaped (chars rest : List Char) :
    readStringTail (chars.flatMap escapedChar ++ '"' :: rest) = some (chars, rest) := by
  induction chars with
  | nil => rfl
  | cons c chars ih =>
      rw [List.flatMap_cons, List.append_assoc, readStringTail_escapedChar, ih]
      rfl

/-! ## Strings -/

theorem stringLiteral_append (text : String) (rest : List Char) :
    stringLiteral text ++ rest = '"' :: (text.toList.flatMap escapedChar ++ '"' :: rest) := by
  simp [stringLiteral]

theorem readString_escaped (text : String) (rest : List Char) :
    readString (text.toList.flatMap escapedChar ++ '"' :: rest) = some (text, rest) := by
  simp [readString, readStringTail_escaped]

theorem readValue_stringLiteral (text : String) (rest : List Char) :
    readValue (fuel + 1) levels (stringLiteral text ++ rest) = some (.string text, rest) := by
  rw [stringLiteral_append, readValue]
  change (readString _).map _ = _
  rw [readString_escaped]
  rfl

/-! ## Maps of texts -/

/-- Named texts as values. -/
def ofTexts (texts : List (String × String)) : List (String × Value) :=
  texts.map fun entry => (entry.1, .string entry.2)

/-- What is read behind an entry: the sign there tells whether there are more. -/
def readBehindEntry (fuel levels : Nat) (entries : Dict Value) :
    List Char → Option (Dict Value × List Char)
  | ',' :: rest => readEntries fuel levels entries rest
  | '\x7d' :: rest => some (entries, rest)
  | _ => none

theorem readEntries_entry (entries : Dict Value) (name text : String) (rest : List Char) :
    readEntries (fuel + 2) levels entries
        (stringLiteral name ++ ':' :: (stringLiteral text ++ rest)) =
      readBehindEntry (fuel + 1) levels (entries.put name (.string text)) (skipSpace rest) := by
  have quote (rest : List Char) : skipSpace ('"' :: rest) = '"' :: rest := rfl
  have colon (rest : List Char) : skipSpace (':' :: rest) = ':' :: rest := rfl
  rw [stringLiteral_append, readEntries, quote]
  simp only [readString_escaped, Option.bind_eq_bind, Option.bind_some, colon,
    readValue_stringLiteral]
  rfl

theorem renderEntries_one (name text : String) (rest : List Char) :
    Value.renderEntries (ofTexts [(name, text)]) ++ rest =
      stringLiteral name ++ ':' :: (stringLiteral text ++ rest) := by
  simp [ofTexts, Value.renderEntries, Value.render, Value.renderAtom]

theorem renderEntries_cons (name text : String) (next : String × String)
    (texts : List (String × String)) (rest : List Char) :
    Value.renderEntries (ofTexts ((name, text) :: next :: texts)) ++ rest =
      stringLiteral name ++ ':' ::
        (stringLiteral text ++
          ',' :: (Value.renderEntries (ofTexts (next :: texts)) ++ rest)) := by
  simp [ofTexts, Value.renderEntries, Value.render, Value.renderAtom]

/-- The entries of a map of texts are read back, each put to those before it. -/
theorem readEntries_renderEntries (filled : texts ≠ []) (enough : texts.length < fuel)
    (entries : Dict Value) (rest : List Char) :
    readEntries fuel levels entries (Value.renderEntries (ofTexts texts) ++ '\x7d' :: rest) =
      some ((ofTexts texts).foldl (fun dict entry => dict.put entry.1 entry.2) entries,
        rest) := by
  induction texts generalizing fuel entries with
  | nil => exact absurd rfl filled
  | cons entry texts ih =>
      obtain ⟨name, text⟩ := entry
      obtain ⟨less, rfl⟩ : ∃ less, fuel = less + 2 :=
        Nat.exists_eq_add_of_le' (Nat.le_of_add_left_le enough)
      cases texts with
      | nil =>
          rw [renderEntries_one, readEntries_entry]
          rfl
      | cons next texts =>
          rw [renderEntries_cons, readEntries_entry]
          exact ih (List.cons_ne_nil next texts) (Nat.lt_of_succ_lt_succ enough)
            (entries.put name (.string text))

theorem exists_quote_renderEntries (filled : texts ≠ []) (rest : List Char) :
    ∃ behind, Value.renderEntries (ofTexts texts) ++ rest = '"' :: behind := by
  match texts, filled with
  | [(name, text)], _ => exact ⟨_, renderEntries_one name text rest⟩
  | (name, text) :: next :: texts, _ => exact ⟨_, renderEntries_cons name text next texts rest⟩

/-- Every entry is printed with a character at least, so the fuel of the reader suffices. -/
theorem length_le_renderEntries (texts : List (String × String)) :
    texts.length ≤ (Value.renderEntries (ofTexts texts)).length := by
  match texts with
  | [] => exact Nat.zero_le _
  | [(name, text)] =>
      have form := renderEntries_one name text []
      rw [List.append_nil] at form
      rw [form]
      simp only [List.length_append, List.length_cons, List.length_nil]
      omega
  | (name, text) :: next :: texts =>
      have behind := length_le_renderEntries (next :: texts)
      have form := renderEntries_cons name text next texts []
      rw [List.append_nil, List.append_nil] at form
      rw [form]
      simp only [List.length_append, List.length_cons] at behind ⊢
      omega

theorem readValue_renderEntries (filled : texts ≠ []) (enough : texts.length < fuel)
    (rest : List Char) :
    readValue (fuel + 1) (levels + 1)
        ('\x7b' :: (Value.renderEntries (ofTexts texts) ++ '\x7d' :: rest)) =
      some (.object (Dict.ofEntries (ofTexts texts)), rest) := by
  obtain ⟨behind, form⟩ := exists_quote_renderEntries filled ('\x7d' :: rest)
  have inside : readEntries fuel levels [] (Value.renderEntries (ofTexts texts) ++ '\x7d' :: rest) =
      some (Dict.ofEntries (ofTexts texts), rest) :=
    readEntries_renderEntries filled enough [] rest
  rw [form] at inside ⊢
  change (readEntries fuel levels [] ('"' :: behind)).map _ = _
  rw [inside]
  rfl

/-- A map of texts is read back from its compact text; of two texts with one name the later
counts. -/
theorem read?_compact (filled : texts ≠ []) :
    read? (Value.object (ofTexts texts)).compact =
      some (.object (Dict.ofEntries (ofTexts texts))) := by
  have enough := length_le_renderEntries texts
  have first : readFirst (Value.object (ofTexts texts)).compact =
      some (.object (Dict.ofEntries (ofTexts texts)), []) := by
    rw [readFirst, Value.compact, Value.render, String.length_ofList, String.toList_ofList]
    refine readValue_renderEntries filled ?_ []
    simp only [List.length_append, List.length_cons]
    omega
  rw [read?, first]
  rfl

end CloudBilling.Json
