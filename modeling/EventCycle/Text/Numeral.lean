/-
Decimal numerals with an optional sign.

A numeral is one or more ASCII digits with nothing between them; the first digits may be zeros. An
unsigned numeral may start with `+`, a signed one with `+` or `-`. The readers bound no value: how
large a number may be is for the caller, who knows what the number is for.

The lemmas on the readers are about characters, as the readers are, and say what a first character
does: a digit makes all three readers agree (`unsignedValue?_of_digitsValue?`,
`signedValue?_of_unsignedValue?`), and a sign stops the reader that does not know it. What the
readers make of whole texts is said elsewhere, by a relation that puts a numeral together.

The last section is the way back: the usual digits of a number are a numeral that reads as it.
-/

set_option autoImplicit false

namespace EventCycle.Text

/-- The value of a non-empty run of ASCII digits. Without the first condition the empty text would
be a numeral of zero. -/
def digitsValue? (chars : List Char) : Option Nat :=
  if !chars.isEmpty && chars.all Char.isDigit then some (Nat.ofDigitChars 10 chars 0) else none

/-- The value of an unsigned numeral: digits, with or without a leading `+`. -/
def unsignedValue? : List Char → Option Nat
  | '+' :: digits => digitsValue? digits
  | digits => digitsValue? digits

/-- The value of a signed numeral: digits, with or without a leading `+` or `-`. -/
def signedValue? : List Char → Option Int
  | '-' :: digits => (digitsValue? digits).map fun n => -(n : Int)
  | numeral => (unsignedValue? numeral).map fun n => (n : Int)

/-! ## What the readers accept -/

/-- **A run of digits is read as the number that it writes,** and nothing else is read. There must
be a digit, and every character must be one. -/
theorem digitsValue?_eq_some_iff {chars : List Char} {n : Nat} :
    digitsValue? chars = some n ↔
      chars ≠ [] ∧ (∀ c ∈ chars, c.isDigit) ∧ Nat.ofDigitChars 10 chars 0 = n := by
  have htest : (!chars.isEmpty && chars.all Char.isDigit) = true ↔
      chars ≠ [] ∧ ∀ c ∈ chars, c.isDigit := by
    rw [Bool.and_eq_true, Bool.not_eq_true', List.isEmpty_eq_false_iff, List.all_eq_true]
  unfold digitsValue?
  split
  · next h =>
    obtain ⟨hne, hdigits⟩ := htest.mp h
    exact ⟨fun hn => ⟨hne, hdigits, Option.some.inj hn⟩, fun hn => congrArg some hn.2.2⟩
  · next h => exact ⟨fun hn => absurd hn (by simp), fun hn => absurd (htest.mpr ⟨hn.1, hn.2.1⟩) h⟩

/-- What starts with a sign is not a run of digits. -/
theorem digitsValue?_of_not_digit {c : Char} {rest : List Char} (h : c.isDigit = false) :
    digitsValue? (c :: rest) = none := by
  unfold digitsValue?
  rw [if_neg]
  simp [h]

/-- Digits alone are an unsigned numeral: they do not start with a plus, so no sign is looked for.
-/
theorem unsignedValue?_of_digitsValue? {chars : List Char} {n : Nat}
    (h : digitsValue? chars = some n) : unsignedValue? chars = some n := by
  unfold unsignedValue?
  split
  · next digits =>
    rw [digitsValue?_of_not_digit (by decide)] at h
    exact absurd h (by simp)
  · exact h

/-- An unsigned numeral does not start with a minus. -/
theorem unsignedValue?_minus (digits : List Char) : unsignedValue? ('-' :: digits) = none := by
  unfold unsignedValue?
  split
  · next rest heq =>
    -- the leading `-` is not the `+` of this case
    exact absurd (List.cons.inj heq).1 (by decide)
  · exact digitsValue?_of_not_digit (by decide)

/-- An unsigned numeral is a signed one of the same number. -/
theorem signedValue?_of_unsignedValue? {chars : List Char} {n : Nat}
    (h : unsignedValue? chars = some n) : signedValue? chars = some (n : Int) := by
  unfold signedValue?
  split
  · next digits =>
    rw [unsignedValue?_minus] at h
    exact absurd h (by simp)
  · rw [h]
    rfl

/-! ## The usual digits of a number -/

/-- **The decimal digits of a number read as the number.** -/
theorem digitsValue?_toDigits (n : Nat) : digitsValue? (Nat.toDigits 10 n) = some n :=
  digitsValue?_eq_some_iff.mpr
    ⟨Nat.toDigits_ne_nil, fun _ h => Nat.isDigit_of_mem_toDigits (by decide) (by decide) h,
      Nat.ofDigitChars_ten_toDigits⟩

theorem toList_toString_nat (n : Nat) : (toString n).toList = Nat.toDigits 10 n := by
  rw [Nat.toString_eq_ofList_toDigits, String.toList_ofList]

end EventCycle.Text
