import CloudBilling.Text.Base64
import Mathlib.Algebra.Group.Nat.Defs
import Mathlib.Data.List.Basic
import Mathlib.Tactic.SplitIfs

/-!
# What texts in base 64 stand for

The bits of some bytes are written in sixes, each as a digit.  Zeros fill up the last digit and
padding signs the last group of four.  So every list of bytes has one text, which the encoder writes,
and the decoder reads a text exactly if it is the text of some bytes.
-/

namespace CloudBilling.Text.Base64

/-! ## Bits -/

/-- The lowest bits of a number, the highest of them first. -/
def bits : Nat → Nat → List Bool
  | 0, _ => []
  | width + 1, n => n.testBit width :: bits width n

@[simp] theorem length_bits (width n : Nat) : (bits width n).length = width := by
  induction width with
  | zero => rfl
  | succ width ih => rw [bits, List.length_cons, ih]

theorem bits_eq_iff {width m n : Nat} :
    bits width m = bits width n ↔ ∀ place < width, m.testBit place = n.testBit place := by
  induction width with
  | zero => simp [bits]
  | succ width ih =>
      rw [bits, bits, List.cons.injEq, ih, Nat.forall_lt_succ_right, and_comm]

theorem eq_of_bits_eq {width m n : Nat} (mSmall : m < 2 ^ width) (nSmall : n < 2 ^ width)
    (same : bits width m = bits width n) : m = n := by
  apply Nat.eq_of_testBit_eq
  intro place
  by_cases inside : place < width
  · exact bits_eq_iff.mp same place inside
  · have above : 2 ^ width ≤ 2 ^ place := Nat.pow_le_pow_right (by decide) (by omega)
    rw [Nat.testBit_lt_two_pow (by omega), Nat.testBit_lt_two_pow (by omega)]

@[simp] theorem bits_zero (width : Nat) : bits width 0 = List.replicate width false := by
  induction width with
  | zero => rfl
  | succ width ih => rw [bits, ih, Nat.zero_testBit, List.replicate_succ]

/-- The bits of two numbers, of which the second one fits into its bits, are those of one number. -/
theorem bits_append (front back high : Nat) {low : Nat} (small : low < 2 ^ back) :
    bits (front + back) (high * 2 ^ back + low) = bits front high ++ bits back low := by
  have testBit (place : Nat) := Nat.testBit_two_pow_mul_add high small place
  rw [Nat.mul_comm]
  induction front with
  | zero =>
      rw [Nat.zero_add, bits, List.nil_append, bits_eq_iff]
      intro place inside
      rw [testBit, if_pos inside]
  | succ front ih =>
      rw [Nat.succ_add, bits, bits, ih, testBit, if_neg (by omega), Nat.add_sub_cancel,
        List.cons_append]

theorem bits_split (front back n : Nat) :
    bits (front + back) n = bits front (n / 2 ^ back) ++ bits back (n % 2 ^ back) := by
  rw [← bits_append front back (n / 2 ^ back) (Nat.mod_lt n (Nat.two_pow_pos back)),
    Nat.div_add_mod']

/-! ## Digits -/

/-- The digits in the order of their numbers. -/
def alphabet : List Char :=
  "ABCDEFGHIJKLMNOPQRSTUVWXYZabcdefghijklmnopqrstuvwxyz0123456789+/".toList

/-- The place of a digit in the alphabet. -/
def number (c : Char) : Nat :=
  alphabet.idxOf c

theorem number_digit : ∀ n < 64, number (digit n) = n := by
  decide

theorem digit_mem_alphabet (n : Nat) (small : n < 64) : digit n ∈ alphabet := by
  have inside : number (digit n) < alphabet.length := by
    rw [number_digit n small]
    exact small
  exact List.idxOf_lt_length_iff.mp inside

theorem value?_digit : ∀ n < 64, value? (digit n) = some n := by
  decide

theorem digit_ne_padding : ∀ n < 64, digit n ≠ '=' := by
  decide

theorem number_lt {c : Char} (known : c ∈ alphabet) : number c < 64 :=
  List.idxOf_lt_length_of_mem known

theorem getElem?_alphabet : ∀ n < 64, alphabet[n]? = some (digit n) := by
  decide

theorem digit_number {c : Char} (known : c ∈ alphabet) : digit (number c) = c := by
  have found : alphabet[number c]? = some c := List.getElem?_idxOf known
  rw [getElem?_alphabet _ (number_lt known)] at found
  exact Option.some.inj found

theorem digit_of_value? {c : Char} {n : Nat} (read : value? c = some n) :
    n < 64 ∧ digit n = c := by
  unfold value? at read
  split_ifs at read with upper lower numeral plus slash <;> cases read
  · have bounds : 65 ≤ c.toNat ∧ c.toNat ≤ 90 := upper
    refine ⟨by omega, ?_⟩
    rw [digit, if_pos (by omega), Nat.add_sub_cancel' bounds.1, Char.ofNat_toNat]
  · have bounds : 97 ≤ c.toNat ∧ c.toNat ≤ 122 := lower
    refine ⟨by omega, ?_⟩
    rw [digit, if_neg (by omega), if_pos (by omega), Nat.add_sub_cancel' (by omega),
      Char.ofNat_toNat]
  · have bounds : 48 ≤ c.toNat ∧ c.toNat ≤ 57 := numeral
    refine ⟨by omega, ?_⟩
    rw [digit, if_neg (by omega), if_neg (by omega), if_pos (by omega), Nat.add_sub_cancel,
      Char.ofNat_toNat]
  · exact ⟨by decide, plus.symm⟩
  · exact ⟨by decide, slash.symm⟩

/-! ## Texts -/

/-- The bits that digits hold. -/
def digitBits (digits : List Char) : List Bool :=
  digits.flatMap fun c => bits 6 (number c)

/-- The bits of bytes. -/
def byteBits (bytes : List UInt8) : List Bool :=
  bytes.flatMap fun byte => bits 8 byte.toNat

/-- Digits that stand for some bytes, with padding signs behind them.  The digits hold the bits of the
bytes, and for each padding sign two more bits, which are zero. -/
structure Spells (digits : List Char) (padding : Nat) (bytes : List UInt8) : Prop where
  known : ∀ c ∈ digits, c ∈ alphabet
  padding_le : padding ≤ 2
  whole : 4 ∣ digits.length + padding
  bits_eq : digitBits digits = byteBits bytes ++ List.replicate (2 * padding) false

/-- A text stands for some bytes if it is made of digits and padding signs that do. -/
def Encodes (text : List Char) (bytes : List UInt8) : Prop :=
  ∃ digits padding, text = digits ++ List.replicate padding '=' ∧ Spells digits padding bytes

theorem digitBits_cons (n : Nat) (small : n < 64) (digits : List Char) :
    digitBits (digit n :: digits) = bits 6 n ++ digitBits digits := by
  rw [digitBits, List.flatMap_cons, number_digit n small, digitBits]

theorem byteBits_cons (byte : UInt8) (bytes : List UInt8) :
    byteBits (byte :: bytes) = bits 8 byte.toNat ++ byteBits bytes := rfl

/-! ### Three bytes in four digits

A digit holds what was left of the byte before and the front of the next byte.  The first digit takes
six bits of a byte and leaves two, the second one leaves four, and the last one takes what the third
one left. -/

theorem bits_first (a : Nat) (rest : List Bool) :
    bits 6 (a / 4) ++ (bits 2 (a % 4) ++ rest) = bits 8 a ++ rest := by
  have whole : bits 8 a = bits 6 (a / 4) ++ bits 2 (a % 4) := bits_split 6 2 a
  rw [whole, List.append_assoc]

theorem bits_second (a : Nat) {b : Nat} (small : b < 256) (rest : List Bool) :
    bits 6 (a % 4 * 16 + b / 16) ++ (bits 4 (b % 16) ++ rest) =
      bits 2 (a % 4) ++ (bits 8 b ++ rest) := by
  have joined : bits 6 (a % 4 * 16 + b / 16) = bits 2 (a % 4) ++ bits 4 (b / 16) :=
    bits_append 2 4 (a % 4) (Nat.div_lt_of_lt_mul small)
  have whole : bits 8 b = bits 4 (b / 16) ++ bits 4 (b % 16) := bits_split 4 4 b
  rw [joined, whole, List.append_assoc, List.append_assoc]

theorem bits_third (b : Nat) {c : Nat} (small : c < 256) (rest : List Bool) :
    bits 6 (b % 16 * 4 + c / 64) ++ (bits 6 (c % 64) ++ rest) =
      bits 4 (b % 16) ++ (bits 8 c ++ rest) := by
  have joined : bits 6 (b % 16 * 4 + c / 64) = bits 4 (b % 16) ++ bits 2 (c / 64) :=
    bits_append 4 2 (b % 16) (Nat.div_lt_of_lt_mul small)
  have whole : bits 8 c = bits 2 (c / 64) ++ bits 6 (c % 64) := bits_split 2 6 c
  rw [joined, whole, List.append_assoc, List.append_assoc]

/-- What is left of the last byte is filled up with zeros. -/
theorem bits_fill (width filled n : Nat) :
    bits (width + filled) (n * 2 ^ filled) = bits width n ++ List.replicate filled false := by
  rw [← bits_zero filled, ← bits_append width filled n (Nat.two_pow_pos filled), Nat.add_zero]

variable {text digits : List Char} {padding : Nat} {bytes : List UInt8}

theorem Spells.cons_group (spelt : Spells digits padding bytes) (a b c : UInt8) :
    Spells (digit (a.toNat / 4) :: digit (a.toNat % 4 * 16 + b.toNat / 16) ::
      digit (b.toNat % 16 * 4 + c.toNat / 64) :: digit (c.toNat % 64) :: digits) padding
      (a :: b :: c :: bytes) := by
  have aSmall := a.toNat_lt
  have bSmall := b.toNat_lt
  have cSmall := c.toNat_lt
  refine ⟨?_, spelt.padding_le, ?_, ?_⟩
  · simp only [List.forall_mem_cons]
    exact ⟨digit_mem_alphabet _ (by omega), digit_mem_alphabet _ (by omega),
      digit_mem_alphabet _ (by omega), digit_mem_alphabet _ (by omega), spelt.known⟩
  · have whole := spelt.whole
    simp only [List.length_cons]
    omega
  · rw [digitBits_cons _ (by omega), digitBits_cons _ (by omega), digitBits_cons _ (by omega),
      digitBits_cons _ (by omega), spelt.bits_eq, bits_third _ cSmall, bits_second _ bSmall,
      bits_first, byteBits_cons, byteBits_cons, byteBits_cons]
    simp only [List.append_assoc]

theorem spells_one (a : UInt8) :
    Spells [digit (a.toNat / 4), digit (a.toNat % 4 * 16)] 2 [a] := by
  have aSmall := a.toNat_lt
  refine ⟨?_, Nat.le_refl 2, ⟨1, rfl⟩, ?_⟩
  · simp only [List.forall_mem_cons]
    exact ⟨digit_mem_alphabet _ (by omega), digit_mem_alphabet _ (by omega), by simp⟩
  · have filled : bits 6 (a.toNat % 4 * 16) = bits 2 (a.toNat % 4) ++ List.replicate 4 false :=
      bits_fill 2 4 (a.toNat % 4)
    rw [digitBits_cons _ (by omega), digitBits_cons _ (by omega), filled, List.append_assoc,
      bits_first]
    simp [digitBits, byteBits]

theorem spells_two (a b : UInt8) :
    Spells [digit (a.toNat / 4), digit (a.toNat % 4 * 16 + b.toNat / 16),
      digit (b.toNat % 16 * 4)] 1 [a, b] := by
  have aSmall := a.toNat_lt
  have bSmall := b.toNat_lt
  refine ⟨?_, Nat.le_succ 1, ⟨1, rfl⟩, ?_⟩
  · simp only [List.forall_mem_cons]
    exact ⟨digit_mem_alphabet _ (by omega), digit_mem_alphabet _ (by omega),
      digit_mem_alphabet _ (by omega), by simp⟩
  · have filled : bits 6 (b.toNat % 16 * 4) = bits 4 (b.toNat % 16) ++ List.replicate 2 false :=
      bits_fill 4 2 (b.toNat % 16)
    rw [digitBits_cons _ (by omega), digitBits_cons _ (by omega), digitBits_cons _ (by omega),
      filled, List.append_assoc (bits 4 _), bits_second _ bSmall, bits_first]
    simp [digitBits, byteBits]

theorem encodes_encode (bytes : List UInt8) : Encodes (encode bytes) bytes := by
  fun_induction encode bytes with
  | case1 => exact ⟨[], 0, rfl, by simp, by decide, by decide, rfl⟩
  | case2 a => exact ⟨_, 2, rfl, spells_one a⟩
  | case3 a b => exact ⟨_, 1, rfl, spells_two a b⟩
  | case4 a b c rest ih =>
      obtain ⟨digits, padding, same, spelt⟩ := ih
      exact ⟨_, padding, by rw [same]; rfl, spelt.cons_group a b c⟩

/-! ## One text for some bytes -/

theorem length_digitBits (digits : List Char) : (digitBits digits).length = 6 * digits.length := by
  induction digits with
  | nil => rfl
  | cons c digits ih =>
      rw [digitBits, List.flatMap_cons, List.length_append, length_bits, ← digitBits, ih,
        List.length_cons]
      omega

theorem length_byteBits (bytes : List UInt8) : (byteBits bytes).length = 8 * bytes.length := by
  induction bytes with
  | nil => rfl
  | cons byte bytes ih =>
      rw [byteBits_cons, List.length_append, length_bits, ih, List.length_cons]
      omega

theorem eq_of_digitBits_eq {left right : List Char} (leftKnown : ∀ c ∈ left, c ∈ alphabet)
    (rightKnown : ∀ c ∈ right, c ∈ alphabet) (same : digitBits left = digitBits right) :
    left = right := by
  have lengths : left.length = right.length := by
    have bitLengths := congrArg List.length same
    rw [length_digitBits, length_digitBits] at bitLengths
    omega
  induction left generalizing right with
  | nil => exact (List.eq_nil_of_length_eq_zero lengths.symm).symm
  | cons c left ih =>
      cases right with
      | nil => cases lengths
      | cons d right =>
          simp only [List.forall_mem_cons] at leftKnown rightKnown
          obtain ⟨heads, tails⟩ := List.append_inj same (by simp)
          have numbers := eq_of_bits_eq (number_lt leftKnown.1) (number_lt rightKnown.1) heads
          have signs : c = d := by
            rw [← digit_number leftKnown.1, numbers, digit_number rightKnown.1]
          rw [signs, ih leftKnown.2 rightKnown.2 tails (Nat.succ.inj lengths)]

/-- Bytes have one text only: how much padding there is follows from how many bytes there are. -/
theorem Encodes.unique {other : List Char} (encodes : Encodes text bytes)
    (otherEncodes : Encodes other bytes) : text = other := by
  obtain ⟨digits, padding, rfl, spelt⟩ := encodes
  obtain ⟨otherDigits, otherPadding, rfl, otherSpelt⟩ := otherEncodes
  have length := congrArg List.length spelt.bits_eq
  have otherLength := congrArg List.length otherSpelt.bits_eq
  simp only [List.length_append, length_digitBits, length_byteBits, List.length_replicate]
    at length otherLength
  have samePadding : padding = otherPadding := by
    have := spelt.padding_le
    have := otherSpelt.padding_le
    omega
  subst samePadding
  rw [eq_of_digitBits_eq spelt.known otherSpelt.known
    (spelt.bits_eq.trans otherSpelt.bits_eq.symm)]

theorem encodes_iff : Encodes text bytes ↔ text = encode bytes := by
  constructor
  · exact fun encodes => encodes.unique (encodes_encode bytes)
  · rintro rfl
    exact encodes_encode bytes

/-! ## Decoding -/

theorem toNat_ofNat_byte {n : Nat} (small : n < 256) : (UInt8.ofNat n).toNat = n :=
  UInt8.toNat_ofNat_of_lt' small

/-- What the encoder writes is read back. -/
theorem decode_encode (bytes : List UInt8) : decode (encode bytes) = some bytes := by
  fun_induction encode bytes with
  | case1 => rfl
  | case2 a =>
      have aSmall := a.toNat_lt
      have first : a.toNat / 4 * 4 + a.toNat % 4 * 16 / 16 = a.toNat := by omega
      rw [decode, value?_digit _ (by omega), value?_digit _ (by omega)]
      simp only [Option.bind_eq_bind, Option.bind_some, first, UInt8.ofNat_toNat]
      rw [if_pos (by omega)]
  | case3 a b =>
      have aSmall := a.toNat_lt
      have bSmall := b.toNat_lt
      have first : a.toNat / 4 * 4 + (a.toNat % 4 * 16 + b.toNat / 16) / 16 = a.toNat := by omega
      have second : (a.toNat % 4 * 16 + b.toNat / 16) % 16 * 16 + b.toNat % 16 * 4 / 4 =
        b.toNat := by omega
      rw [decode, value?_digit _ (by omega), value?_digit _ (by omega), value?_digit _ (by omega)]
      · simp only [Option.bind_eq_bind, Option.bind_some, first, second, UInt8.ofNat_toNat]
        rw [if_pos (by omega)]
      · exact digit_ne_padding _ (by omega)
  | case4 a b c rest ih =>
      have aSmall := a.toNat_lt
      have bSmall := b.toNat_lt
      have cSmall := c.toNat_lt
      have first : a.toNat / 4 * 4 + (a.toNat % 4 * 16 + b.toNat / 16) / 16 = a.toNat := by omega
      have second : (a.toNat % 4 * 16 + b.toNat / 16) % 16 * 16 +
        (b.toNat % 16 * 4 + c.toNat / 64) / 4 = b.toNat := by omega
      have third : (b.toNat % 16 * 4 + c.toNat / 64) % 4 * 64 + c.toNat % 64 = c.toNat := by omega
      have unpadded : digit (c.toNat % 64) ≠ '=' := digit_ne_padding _ (by omega)
      rw [decode, value?_digit _ (by omega), value?_digit _ (by omega), value?_digit _ (by omega),
        value?_digit _ (by omega), ih]
      · simp only [Option.bind_eq_bind, Option.bind_some, first, second, third, UInt8.ofNat_toNat]
      · exact fun _ padded _ => unpadded padded
      · exact fun padded _ => unpadded padded

/-- Nothing is read but what the encoder writes: a digit is told from its number, and the bits of a last
digit that are of no byte are zero. -/
theorem eq_encode_of_decode (read : decode text = some bytes) : text = encode bytes := by
  fun_induction decode text generalizing bytes with
  | case1 =>
      cases read
      rfl
  | case2 p q =>
      simp only [Option.bind_eq_bind, Option.bind_eq_some_iff] at read
      obtain ⟨first, firstRead, second, secondRead, read⟩ := read
      obtain ⟨firstSmall, rfl⟩ := digit_of_value? firstRead
      obtain ⟨secondSmall, rfl⟩ := digit_of_value? secondRead
      split at read
      · next unused =>
          cases read
          rw [encode, toNat_ofNat_byte (by omega)]
          congr 3 <;> omega
      · cases read
  | case3 p q r unpadded =>
      simp only [Option.bind_eq_bind, Option.bind_eq_some_iff] at read
      obtain ⟨first, firstRead, second, secondRead, third, thirdRead, read⟩ := read
      obtain ⟨firstSmall, rfl⟩ := digit_of_value? firstRead
      obtain ⟨secondSmall, rfl⟩ := digit_of_value? secondRead
      obtain ⟨thirdSmall, rfl⟩ := digit_of_value? thirdRead
      split at read
      · next unused =>
          cases read
          rw [encode, toNat_ofNat_byte (by omega), toNat_ofNat_byte (by omega)]
          congr 4 <;> omega
      · cases read
  | case4 p q r s rest _ _ ih =>
      simp only [Option.bind_eq_bind, Option.bind_eq_some_iff] at read
      obtain ⟨first, firstRead, second, secondRead, third, thirdRead, fourth, fourthRead, more,
        moreRead, read⟩ := read
      obtain ⟨firstSmall, rfl⟩ := digit_of_value? firstRead
      obtain ⟨secondSmall, rfl⟩ := digit_of_value? secondRead
      obtain ⟨thirdSmall, rfl⟩ := digit_of_value? thirdRead
      obtain ⟨fourthSmall, rfl⟩ := digit_of_value? fourthRead
      cases read
      rw [encode, toNat_ofNat_byte (by omega), toNat_ofNat_byte (by omega),
        toNat_ofNat_byte (by omega), ← ih moreRead]
      congr 5 <;> omega
  | case5 => cases read

/-- A text is read as some bytes exactly if it stands for them. -/
theorem decode_eq_some_iff : decode text = some bytes ↔ Encodes text bytes := by
  rw [encodes_iff]
  constructor
  · exact eq_encode_of_decode
  · rintro rfl
    exact decode_encode bytes

end CloudBilling.Text.Base64
