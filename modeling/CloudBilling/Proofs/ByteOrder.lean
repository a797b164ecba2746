import Mathlib.Tactic.SplitIfs

/-!
# The order of bytes

Texts are compared character by character.  Their bytes in UTF-8 compare the same way: a smaller
character has smaller bytes, whatever follows either of them, because the first byte grows with the
number of bytes and the bytes behind it are the digits of the character in base 64.
-/

namespace CloudBilling.Text

/-- The bytes of a text in UTF-8. -/
def bytes (text : String) : List UInt8 :=
  text.toUTF8.data.toList

theorem bytes_eq_flatMap (text : String) :
    bytes text = text.toList.flatMap String.utf8EncodeChar := by
  have encoded : text.toByteArray = (text.toList.flatMap String.utf8EncodeChar).toByteArray := by
    rw [← List.utf8Encode, ← String.toByteArray_ofList, String.ofList_toList]
  rw [bytes, String.toUTF8_eq_toByteArray, encoded, List.data_toByteArray]

/-! ## One character -/

theorem ofNat_cons_lt_iff {former latter : Nat} (formerSmall : former < UInt8.size)
    (latterSmall : latter < UInt8.size) {rest others : List UInt8} :
    UInt8.ofNat former :: rest < UInt8.ofNat latter :: others ↔
      former < latter ∨ former = latter ∧ rest < others := by
  rw [List.cons_lt_cons_iff, UInt8.ofNat_lt_iff_lt formerSmall latterSmall, ← UInt8.toNat_inj,
    UInt8.toNat_ofNat_of_lt' formerSmall, UInt8.toNat_ofNat_of_lt' latterSmall]

theorem toNat_val_lt (char : Char) : char.val.toNat < 0x110000 := by
  have valid := char.valid
  simp only [UInt32.isValidChar, Nat.isValidChar] at valid
  omega

/-- A smaller character has smaller bytes, whatever follows. -/
theorem utf8EncodeChar_lt {former latter : Char} (less : former < latter)
    (rest others : List UInt8) :
    String.utf8EncodeChar former ++ rest < String.utf8EncodeChar latter ++ others := by
  have below : former.val.toNat < latter.val.toNat := UInt32.lt_iff_toNat_lt.mp less
  have bound := toNat_val_lt latter
  simp only [String.utf8EncodeChar]
  generalize former.val.toNat = low at *
  generalize latter.val.toNat = high at *
  have byteSize : UInt8.size = 256 := rfl
  have leadLow : low / 262144 % 8 = low / 262144 := Nat.mod_eq_of_lt (by omega)
  have leadHigh : high / 262144 % 8 = high / 262144 := Nat.mod_eq_of_lt (by omega)
  -- One case for each pair of lengths; six of them would make the smaller character the longer.
  split_ifs <;> simp only [List.cons_append, List.nil_append] <;> try omega
  all_goals
    repeat rw [ofNat_cons_lt_iff (by omega) (by omega)]
    omega

theorem nil_lt_utf8EncodeChar (char : Char) (rest : List UInt8) :
    [] < String.utf8EncodeChar char ++ rest := by
  cases encoded : String.utf8EncodeChar char with
  | nil => exact absurd encoded String.utf8EncodeChar_ne_nil
  | cons byte others => exact List.nil_lt_cons byte _

/-! ## Whole texts -/

theorem flatMap_utf8EncodeChar_lt {left right : List Char} (less : left < right) :
    left.flatMap String.utf8EncodeChar < right.flatMap String.utf8EncodeChar := by
  induction less with
  | nil => exact nil_lt_utf8EncodeChar _ _
  | rel smaller => exact utf8EncodeChar_lt smaller _ _
  | cons _ ih => exact List.append_left_lt ih

theorem bytes_lt_of_lt {left right : String} (less : left < right) :
    bytes left < bytes right := by
  rw [bytes_eq_flatMap, bytes_eq_flatMap]
  exact flatMap_utf8EncodeChar_lt (String.lt_iff.mp less)

/-- Texts are ordered as their bytes are. -/
theorem bytes_lt_bytes_iff {left right : String} : bytes left < bytes right ↔ left < right := by
  constructor
  · intro less
    refine Classical.byContradiction fun notLess => ?_
    by_cases greater : right < left
    · exact List.lt_asymm less (bytes_lt_of_lt greater)
    · have same : left = right :=
        String.le_antisymm (String.not_lt.mp greater) (String.not_lt.mp notLess)
      rw [same] at less
      exact List.lt_irrefl (bytes right) less
  · exact bytes_lt_of_lt

end CloudBilling.Text
