/-
Decimal numerals as texts.

The readers of numerals go through a list of characters and look at its first one to find a sign.
Here a numeral is put together instead. `Digits` starts with one digit and writes further ones
behind it, each of which multiplies the number by ten and adds its own value. `Unsigned` and
`Signed` put a sign in front.

The main statements are the three equivalences `digitsValue?_eq_some_iff_digits`,
`unsignedValue?_eq_some_iff` and `signedValue?_eq_some_iff`. A reader finds a number in a text
exactly when the text is a numeral of that number; so a sign alone, two signs, or anything else
between the digits makes no numeral, while any number of zeros may stand in front. How large a
number may be is not decided here.

The last section is about zero, the one number whose numeral may carry a minus without being
negative: `signed_natCast_iff` says that there is no other such number. That is where a reader which
asks for a number that is not negative, and one that asks for a numeral without a minus, differ.
-/
import EventCycle.Text.Numeral
import Mathlib.Data.List.Induction

set_option autoImplicit false

namespace EventCycle.Text

/-! ## Numerals

Three relations between texts and numbers, each built on the one before it. None of them bounds the
number. -/

/-- One or more ASCII digits, and the number they write. -/
inductive Digits : String → Nat → Prop where
  | digit {c : Char} (isDigit : c.isDigit = true) :
      Digits (String.singleton c) (c.toNat - '0'.toNat)
  | push {text : String} {n : Nat} {c : Char} (before : Digits text n)
      (isDigit : c.isDigit = true) : Digits (text.push c) (10 * n + (c.toNat - '0'.toNat))

/-- Digits, with or without a plus. -/
inductive Unsigned : String → Nat → Prop where
  | plain {digits : String} {n : Nat} (h : Digits digits n) : Unsigned digits n
  | plus {digits : String} {n : Nat} (h : Digits digits n) : Unsigned ("+" ++ digits) n

/-- Digits, with or without a plus or a minus. -/
inductive Signed : String → Int → Prop where
  | unsigned {text : String} {n : Nat} (h : Unsigned text n) : Signed text n
  | minus {digits : String} {n : Nat} (h : Digits digits n) : Signed ("-" ++ digits) (-(n : Int))

/-! ## Digits are what is read

The reader multiplies by ten as it goes from left to right, and the relation grows on the right as
well, so the two are compared from the right. -/

variable {text : String} {n : Nat}

/-- One more digit multiplies what is there by ten. -/
theorem ofDigitChars_append_singleton (chars : List Char) (c : Char) :
    Nat.ofDigitChars 10 (chars ++ [c]) 0 =
      10 * Nat.ofDigitChars 10 chars 0 + (c.toNat - '0'.toNat) := by
  rw [Nat.ofDigitChars_append, Nat.ofDigitChars_cons, Nat.ofDigitChars_nil]

theorem Digits.toList_ne_nil (h : Digits text n) : text.toList ≠ [] := by
  cases h with
  | digit => simp
  | push => simp

/-- There is nothing but digits. -/
theorem Digits.isDigit_of_mem (h : Digits text n) : ∀ c ∈ text.toList, c.isDigit = true := by
  induction h with
  | digit hc =>
    intro c hmem
    rw [String.toList_singleton, List.mem_singleton] at hmem
    rwa [hmem]
  | push _ hc ih =>
    intro c hmem
    rw [String.toList_push, List.mem_append, List.mem_singleton] at hmem
    rcases hmem with hmem | rfl
    · exact ih c hmem
    · exact hc

/-- Digits write the number that their characters come to. -/
theorem Digits.ofDigitChars_eq (h : Digits text n) : Nat.ofDigitChars 10 text.toList 0 = n := by
  induction h with
  | digit =>
    rw [String.toList_singleton, Nat.ofDigitChars_cons, Nat.ofDigitChars_nil]
    omega
  | push _ _ ih => rw [String.toList_push, ofDigitChars_append_singleton, ih]

/-- **Any digits are a numeral.** The induction is on the digits from the right, so that each step
writes one more digit behind the others. -/
theorem digits_ofList {chars : List Char} (hne : chars ≠ [])
    (hdigits : ∀ c ∈ chars, c.isDigit = true) :
    Digits (String.ofList chars) (Nat.ofDigitChars 10 chars 0) := by
  induction chars using List.reverseRecOn with
  | nil => exact absurd rfl hne
  | append_singleton before c ih =>
    have hc : c.isDigit = true := hdigits c (by simp)
    by_cases hempty : before = []
    -- nothing is there to be multiplied yet, so this digit is the whole numeral
    · have hfirst := Digits.digit hc
      have hvalue : Nat.ofDigitChars 10 [c] 0 = c.toNat - '0'.toNat := by
        rw [Nat.ofDigitChars_cons, Nat.ofDigitChars_nil]
        omega
      rw [hempty, List.nil_append, hvalue]
      exact hfirst
    · have hbefore := ih hempty fun d hd => hdigits d (List.mem_append_left _ hd)
      have hpush : String.ofList (before ++ [c]) = (String.ofList before).push c := by
        apply String.toList_injective
        rw [String.toList_ofList, String.toList_push, String.toList_ofList]
      rw [ofDigitChars_append_singleton, hpush]
      exact hbefore.push hc

/-- **Digits are read as the number they write.** -/
theorem digitsValue?_eq_some_iff_digits : digitsValue? text.toList = some n ↔ Digits text n := by
  rw [digitsValue?_eq_some_iff]
  constructor
  · rintro ⟨hne, hdigits, rfl⟩
    have h := digits_ofList hne hdigits
    rwa [String.ofList_toList] at h
  · intro h
    exact ⟨h.toList_ne_nil, h.isDigit_of_mem, h.ofDigitChars_eq⟩

/-! ## Signs

A sign is the first character or there is none, so the readers of signed and unsigned numerals have
two cases each. Digits are no signs, which keeps the cases apart. -/

/-- What is no digit does not occur among digits. The signs are such characters. -/
theorem Digits.not_mem {c : Char} (h : Digits text n) (hc : c.isDigit = false) :
    c ∉ text.toList := by
  intro hmem
  rw [h.isDigit_of_mem c hmem] at hc
  exact absurd hc (by decide)

theorem toList_plus (digits : String) : ("+" ++ digits).toList = '+' :: digits.toList := by
  rw [String.toList_append]
  rfl

theorem toList_minus (digits : String) : ("-" ++ digits).toList = '-' :: digits.toList := by
  rw [String.toList_append]
  rfl

/-- **An unsigned numeral is read as its number.** The reader's two cases are the relation's: a plus
is taken off, and a text without one is read as digits. -/
theorem unsignedValue?_eq_some_iff : unsignedValue? text.toList = some n ↔ Unsigned text n := by
  constructor
  · intro h
    unfold unsignedValue? at h
    split at h
    · next rest htext =>
      have hdigits : digitsValue? (String.ofList rest).toList = some n := by
        rwa [String.toList_ofList]
      have hplus : text = "+" ++ String.ofList rest := by
        apply String.toList_injective
        rw [htext, toList_plus, String.toList_ofList]
      rw [hplus]
      exact .plus (digitsValue?_eq_some_iff_digits.mp hdigits)
    · exact .plain (digitsValue?_eq_some_iff_digits.mp h)
  · intro h
    cases h with
    | plain h => exact unsignedValue?_of_digitsValue? (digitsValue?_eq_some_iff_digits.mpr h)
    | plus h =>
      rw [toList_plus]
      exact digitsValue?_eq_some_iff_digits.mpr h

/-- After a minus only digits are read, so that a second sign is refused. -/
theorem signedValue?_minus (digits : List Char) :
    signedValue? ('-' :: digits) = (digitsValue? digits).map fun n : Nat => -(n : Int) := by
  rw [signedValue?]
  cases digitsValue? digits <;> rfl

/-- Without a minus in front a signed numeral is an unsigned one. -/
theorem signedValue?_of_ne_minus {chars : List Char} (h : ∀ digits, chars ≠ '-' :: digits) :
    signedValue? chars = (unsignedValue? chars).map fun n : Nat => (n : Int) := by
  rw [signedValue?]
  · cases unsignedValue? chars <;> rfl
  · exact h

/-- **A signed numeral is read as its number.** The case split is on whether there is a minus in
front, because then the text is `-` and the rest, and the rest is digits. -/
theorem signedValue?_eq_some_iff {value : Int} :
    signedValue? text.toList = some value ↔ Signed text value := by
  constructor
  · intro h
    by_cases hminus : ∃ rest, text.toList = '-' :: rest
    -- the relation puts texts together, so the text is written as the minus and the rest of it
    · obtain ⟨rest, htext⟩ := hminus
      have hsplit : text = "-" ++ String.ofList rest := by
        apply String.toList_injective
        rw [htext, toList_minus, String.toList_ofList]
      rw [htext, signedValue?_minus, ← String.toList_ofList (l := rest)] at h
      obtain ⟨n, hn, rfl⟩ := Option.map_eq_some_iff.mp h
      rw [hsplit]
      exact .minus (digitsValue?_eq_some_iff_digits.mp hn)
    · rw [signedValue?_of_ne_minus fun rest htext => hminus ⟨rest, htext⟩] at h
      obtain ⟨n, hn, rfl⟩ := Option.map_eq_some_iff.mp h
      exact .unsigned (unsignedValue?_eq_some_iff.mp hn)
  · intro h
    cases h with
    | unsigned h => exact signedValue?_of_unsignedValue? (unsignedValue?_eq_some_iff.mpr h)
    | minus h =>
      rw [toList_minus, signedValue?_minus, digitsValue?_eq_some_iff_digits.mpr h]
      rfl

/-! ## Zero

Which numerals write zero has to be known to say where a minus may stand. -/

/-- Among the digits only `0` adds nothing. -/
theorem eq_zero_of_digit_value {c : Char} (hdigit : c.isDigit = true)
    (hvalue : c.toNat - '0'.toNat = 0) : c = '0' := by
  rw [Char.isDigit, Bool.and_eq_true, decide_eq_true_eq, decide_eq_true_eq] at hdigit
  have hlow : '0'.toNat ≤ c.toNat := UInt32.le_iff_toNat_le.mp hdigit.1
  apply Char.toNat_inj.mp
  omega

/-- Digits that write zero are all zeros. The statement is about a number that is zero, not about
the numeral of zero, so that the induction can go through digits in front of which others stand. -/
theorem Digits.eq_zero_of_mem (h : Digits text n) (hn : n = 0) : ∀ c ∈ text.toList, c = '0' := by
  induction h with
  | digit hc =>
    intro c hmem
    rw [String.toList_singleton, List.mem_singleton] at hmem
    rw [hmem]
    exact eq_zero_of_digit_value hc hn
  | push _ hc ih =>
    intro c hmem
    rw [String.toList_push, List.mem_append, List.mem_singleton] at hmem
    rcases hmem with hmem | rfl
    -- ten times the digits before and this one make zero, so both are
    · exact ih (by omega) c hmem
    · exact eq_zero_of_digit_value hc (by omega)

/-- **The digits of zero** are one or more zeros. -/
theorem digits_zero_iff : Digits text 0 ↔ text ≠ "" ∧ ∀ c ∈ text.toList, c = '0' := by
  constructor
  · intro h
    refine ⟨?_, h.eq_zero_of_mem rfl⟩
    rintro rfl
    exact h.toList_ne_nil rfl
  · rintro ⟨hne, hzeros⟩
    have hzero : Nat.ofDigitChars 10 text.toList 0 = 0 := by
      rw [List.eq_replicate_of_mem hzeros, Nat.ofDigitChars_replicate_zero]
      omega
    refine digitsValue?_eq_some_iff_digits.mp (digitsValue?_eq_some_iff.mpr ⟨?_, ?_, hzero⟩)
    · simpa using hne
    · intro c hc
      rw [hzeros c hc]
      decide

/-- **A signed numeral that is not negative** is an unsigned one, or zero with a minus. -/
theorem signed_natCast_iff :
    Signed text (n : Int) ↔
      Unsigned text n ∨ n = 0 ∧ ∃ zeros, text = "-" ++ zeros ∧ Digits zeros 0 := by
  constructor
  · intro h
    generalize hvalue : (n : Int) = value at h
    cases h with
    | @unsigned _ m h =>
      have hn : n = m := by omega
      rw [hn]
      exact .inl h
    -- the negative of a natural number is a natural number at zero only
    | @minus digits m h =>
      have hm : m = 0 := by omega
      rw [hm] at h
      exact .inr ⟨by omega, digits, rfl, h⟩
  · rintro (h | ⟨rfl, zeros, rfl, h⟩)
    · exact .unsigned h
    · exact .minus h

/-- There is no minus in an unsigned numeral. -/
theorem Unsigned.minus_not_mem (h : Unsigned text n) : '-' ∉ text.toList := by
  cases h with
  | plain h => exact h.not_mem (by decide)
  | plus h =>
    rw [toList_plus, List.mem_cons]
    rintro (hplus | hdigits)
    · exact absurd hplus (by decide)
    · exact h.not_mem (by decide) hdigits

/-- **A signed numeral is made of signs and digits.** -/
theorem Signed.not_mem {value : Int} {c : Char} (h : Signed text value)
    (hdigit : c.isDigit = false) (hplus : c ≠ '+') (hminus : c ≠ '-') : c ∉ text.toList := by
  cases h with
  | unsigned h =>
    cases h with
    | plain h => exact h.not_mem hdigit
    | plus h =>
      rw [toList_plus, List.mem_cons, not_or]
      exact ⟨hplus, h.not_mem hdigit⟩
  | minus h =>
    rw [toList_minus, List.mem_cons, not_or]
    exact ⟨hminus, h.not_mem hdigit⟩

end EventCycle.Text
