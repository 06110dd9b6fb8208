/-
Where a number ends.

A number is read as far as it goes, so what follows it matters: a digit, a point or the letter of an
exponent could belong to it. In a written value nothing of the kind follows, but a comma, a closing
bracket or brace, or nothing at all (`Ends`). The main statement, `number?_append`, says that a text
which is a number as a whole is read as the same number in front of such an end. The parts of the
number are gone through one by one; each stops where it stopped before.

The lemmas are about one reader each and have the same shape. What the reader makes of some
characters is known, and it makes the same of them with an end behind them, the end being added to
what it leaves. They are composed in the order in which the readers are.
-/
import EventCycle.Json.Reader

set_option autoImplicit false

namespace EventCycle.Json

/-- What follows a written value: nothing, or one of the characters that stand behind values. -/
def Ends (rest : List Char) : Prop := ∀ c more, rest = c :: more → c = ',' ∨ c = ']' ∨ c = '\x7d'

variable {rest : List Char}

theorem ends_nil : Ends [] := fun _ _ h => absurd h (by simp)

theorem ends_cons {c : Char} (h : c = ',' ∨ c = ']' ∨ c = '\x7d') (more : List Char) :
    Ends (c :: more) := by
  intro d others heq
  rwa [← (List.cons.inj heq).1]

/-- No part of a number starts at an end. -/
theorem Ends.head {c : Char} {more : List Char} (h : Ends (c :: more)) :
    c.isDigit = false ∧ c ≠ '.' ∧ c ≠ 'e' ∧ c ≠ 'E' := by
  rcases h c more rfl with rfl | rfl | rfl <;> decide

/-! ## The parts of a number

In the order of the language: digits, fraction, exponent. The last two may be missing, and then the
reader has looked at the first character of what follows. -/

/-- A run of digits stops where it did. The induction is on the characters; at the last of them the
end comes next, which is no digit. -/
theorem digits_append (h : Ends rest) (chars : List Char) :
    digits (chars ++ rest) = ((digits chars).1, (digits chars).2 ++ rest) := by
  induction chars with
  | nil =>
    cases rest with
    | nil => rfl
    | cons c more => simp [digits, h.head.1]
  | cons c chars ih =>
    obtain ⟨htake, hdrop⟩ := Prod.mk.inj ih
    by_cases hdigit : c.isDigit = true
    · simp [digits, hdigit, htake, hdrop]
    · simp [digits, hdigit]

/-- Without a point there is no fraction, and nothing is used up. -/
theorem fraction?_of_ne_point {c : Char} (h : c ≠ '.') (chars : List Char) :
    fraction? (c :: chars) = some ([], c :: chars) := by
  unfold fraction?
  split
  · next heq => exact absurd (List.cons.inj heq).1 h
  · rfl

/-- There are digits behind a point, so what follows them is not looked at. Without a point the end
is looked at, but it is none either. -/
theorem fraction?_append (h : Ends rest) {chars places left : List Char}
    (hread : fraction? chars = some (places, left)) :
    fraction? (chars ++ rest) = some (places, left ++ rest) := by
  cases chars with
  | nil =>
    obtain ⟨rfl, rfl⟩ : [] = places ∧ [] = left := by simpa [fraction?] using hread
    cases rest with
    | nil => rfl
    | cons c more => exact fraction?_of_ne_point h.head.2.1 more
  | cons c chars =>
    by_cases hpoint : c = '.'
    · rw [hpoint, List.cons_append, fraction?, digits_append h]
      rw [hpoint, fraction?] at hread
      -- only whether there are digits matters, not which, so the run of them gets a name
      generalize digits chars = read at hread ⊢
      obtain ⟨_ | ⟨d, ds⟩, after⟩ := read
      · exact absurd hread (by simp)
      · obtain ⟨rfl, rfl⟩ : '.' :: d :: ds = places ∧ after = left := by simpa using hread
        rfl
    · rw [fraction?_of_ne_point hpoint] at hread
      rw [List.cons_append, fraction?_of_ne_point hpoint]
      obtain ⟨rfl, rfl⟩ : [] = places ∧ c :: chars = left := by simpa using hread
      rfl

/-- A sign is looked for in the first character only, so nothing is asked of the end here. -/
theorem exponentSign_append (c : Char) (chars rest : List Char) :
    exponentSign (c :: chars ++ rest) =
      ((exponentSign (c :: chars)).1, (exponentSign (c :: chars)).2 ++ rest) := by
  by_cases hplus : c = '+'
  · rw [hplus]
    rfl
  · by_cases hminus : c = '-'
    · rw [hminus]
      rfl
    · simp [exponentSign, hplus, hminus]

/-- There are digits behind the letter of an exponent and its sign, so what follows them is not
looked at. Without the letter the end is looked at, but it is none either. -/
theorem exponent?_append (h : Ends rest) {chars power left : List Char}
    (hread : exponent? chars = some (power, left)) :
    exponent? (chars ++ rest) = some (power, left ++ rest) := by
  cases chars with
  | nil =>
    obtain ⟨rfl, rfl⟩ : [] = power ∧ [] = left := by simpa [exponent?] using hread
    cases rest with
    | nil => rfl
    | cons c more =>
      obtain ⟨-, -, he, hE⟩ := h.head
      rw [List.nil_append, exponent?, if_neg (not_or.mpr ⟨he, hE⟩)]
  | cons c chars =>
    rw [List.cons_append, exponent?]
    rw [exponent?] at hread
    by_cases hletter : c = 'e' ∨ c = 'E'
    · rw [if_pos hletter] at hread ⊢
      cases chars with
      -- the letter was the last character, and an exponent has digits
      | nil => exact absurd hread (by simp [exponentSign, digits])
      | cons d chars =>
        rw [exponentSign_append]
        generalize exponentSign (d :: chars) = signed at hread ⊢
        obtain ⟨sign, behind⟩ := signed
        simp only [digits_append h] at hread ⊢
        generalize digits behind = read at hread ⊢
        obtain ⟨_ | ⟨d, ds⟩, after⟩ := read
        · exact absurd hread (by simp)
        · obtain ⟨rfl, rfl⟩ : c :: sign ++ d :: ds = power ∧ after = left := by simpa using hread
          rfl
    · rw [if_neg hletter] at hread ⊢
      obtain ⟨rfl, rfl⟩ : [] = power ∧ c :: chars = left := by simpa using hread
      rfl

/-! ## Numbers

The parts are put together in the way in which the reader calls them. -/

/-- The whole digits, the fraction and the exponent each stop where they did, one after the other.
-/
theorem unsignedNumber?_append (h : Ends rest) {chars literal left : List Char}
    (hread : unsignedNumber? chars = some (literal, left)) :
    unsignedNumber? (chars ++ rest) = some (literal, left ++ rest) := by
  unfold unsignedNumber? at hread ⊢
  rw [digits_append h]
  generalize digits chars = read at hread ⊢
  obtain ⟨whole, behind⟩ := read
  dsimp only at hread ⊢
  split at hread
  · exact absurd hread (by simp)
  · next hwhole =>
    rw [if_neg hwhole]
    obtain ⟨⟨places, behind'⟩, hplaces, hread⟩ := Option.bind_eq_some_iff.mp hread
    obtain ⟨⟨power, behind''⟩, hpower, hread⟩ := Option.bind_eq_some_iff.mp hread
    obtain ⟨rfl, rfl⟩ : whole ++ places ++ power = literal ∧ behind'' = left := by
      simpa using hread
    rw [fraction?_append h hplaces, Option.bind_eq_bind, Option.bind_some,
      exponent?_append h hpower]
    rfl

/-- Without a minus a number has no sign: a plus is none in this language. -/
theorem number?_of_ne_minus {c : Char} (h : c ≠ '-') (chars : List Char) :
    number? (c :: chars) = unsignedNumber? (c :: chars) := by
  rw [number?]
  exact fun _ heq => h (List.cons.inj heq).1

/-- A number starts with its sign or a digit. -/
theorem head_of_number? {chars literal left : List Char}
    (h : number? chars = some (literal, left)) :
    ∃ c more, chars = c :: more ∧ (c = '-' ∨ c.isDigit = true) := by
  cases chars with
  | nil => exact absurd h (by simp [number?, unsignedNumber?, digits])
  | cons c more =>
    refine ⟨c, more, rfl, ?_⟩
    by_cases hminus : c = '-'
    · exact .inl hminus
    · rw [number?_of_ne_minus hminus] at h
      by_cases hdigit : c.isDigit = true
      · exact .inr hdigit
      · exact absurd h (by simp [unsignedNumber?, digits, hdigit])

/-- **A number is read up to the end** that follows it. The sign is the only part that is looked for
in front of the digits, and the end is behind them. -/
theorem number?_append (h : Ends rest) {chars literal left : List Char}
    (hread : number? chars = some (literal, left)) :
    number? (chars ++ rest) = some (literal, left ++ rest) := by
  obtain ⟨c, more, rfl, -⟩ := head_of_number? hread
  rw [List.cons_append]
  by_cases hminus : c = '-'
  · rw [hminus, number?] at hread ⊢
    obtain ⟨⟨unsigned, behind⟩, hunsigned, hparts⟩ := Option.map_eq_some_iff.mp hread
    obtain ⟨rfl, rfl⟩ := Prod.mk.inj hparts
    rw [unsignedNumber?_append h hunsigned]
    rfl
  · rw [number?_of_ne_minus hminus] at hread ⊢
    exact unsignedNumber?_append h hread

end EventCycle.Json
