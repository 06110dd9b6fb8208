/-
Numerals that stand for no value.

A numeral whose number is negative or has more than 64 bits stands for no value, and no usage allows
it. It is a number all the same, and should be called a bad literal. But a number is looked for
in a window, that of 128-bit integers, and a numeral outside the window is taken for no number at
all. Where ranges are allowed it is then tried as a range, which it is not either, and what is said
of it is what is said of any text: that it is a bad range. `negative_numeral_called_range` is such a
numeral.

The main statement, `fault_of_numeral_without_value`, says how far this goes. Every numeral without
a value is refused under every usage; it is called a bad literal if its number is in the window or
the usage is that of tags, and a bad range otherwise. It rests on `parse_of_signed`, which says what
is made of any numeral: the signs and digits that it consists of make neither a wildcard nor a
range, so nothing but the window decides.
-/
import EventCycle.Proofs.Field.Decoding

set_option autoImplicit false

namespace EventCycle.Field

open EventCycle.Text

variable {token : String} {n : Int}

/-! ## Numerals are nothing else

A numeral outside the window falls through to what is tried after numbers. So it has to be seen that
it is none of that either. -/

/-- A number of the window in which numbers are looked for. -/
def InWindow (n : Int) : Prop := -numeralLimit ≤ n ∧ n < numeralLimit

theorem literalValue?_of_inWindow (h : Signed token n) (hn : InWindow n) :
    literalValue? token.toList = some n :=
  literalValue?_eq_some_iff.mpr ⟨h, hn⟩

/-- A numeral is one of a single number, so outside the window none is found in its place. -/
theorem literalValue?_of_not_inWindow (h : Signed token n) (hn : ¬ InWindow n) :
    literalValue? token.toList = none := by
  rw [literalValue?, signedValue?_eq_some_iff.mpr h, Option.filter_some, if_neg]
  rw [Bool.and_eq_true, decide_eq_true_eq, decide_eq_true_eq]
  exact hn

/-- A numeral is no wildcard, having signs and digits only. -/
theorem ne_wild_of_signed (h : Signed token n) : token ≠ "*" ∧ token ≠ "X" := by
  constructor
  · rintro rfl
    exact h.not_mem (by decide) (by decide) (by decide) (List.mem_singleton_self '*')
  · rintro rfl
    exact h.not_mem (by decide) (by decide) (by decide) (List.mem_singleton_self 'X')

/-- A numeral is no range, since a bracket is neither a sign nor a digit. -/
theorem rangeBounds?_of_signed (h : Signed token n) : rangeBounds? token.toList = none := by
  cases hbounds : rangeBounds? token.toList with
  | none => rfl
  | some bounds =>
    obtain ⟨rest, hrest⟩ := head_of_rangeBounds? hbounds
    have hbracket : '[' ∈ token.toList := by
      rw [hrest]
      exact List.mem_cons_self
    exact absurd hbracket (h.not_mem (by decide) (by decide) (by decide))

/-- **What is made of a numeral.** In the window its number decides, and outside of it the numeral
is refused like a text of no syntax. -/
theorem parse_of_signed (h : Signed token n) (usage : Usage) :
    (InWindow n → parse usage token = ofNumber token n) ∧
      (¬ InWindow n → parse usage token = .error (.notAllowed usage token)) := by
  have hparse : parse usage token = _ := parse_of_ne_wild (ne_wild_of_signed h)
  constructor
  · intro hn
    rw [hparse, literalValue?_of_inWindow h hn]
  · intro hn
    rw [hparse, literalValue?_of_not_inWindow h hn]
    by_cases hrange : usage.allowsRange = true
    · rw [if_pos hrange, ofRange, rangeBounds?_of_signed h]
    · rw [if_neg hrange]

/-! ## What is said of them

The usage and the window decide together, and each of the four cases has its report. -/

/-- A number is made a field when it is a 64-bit value. -/
theorem ofNumber_of_no_value (hn : n ≤ -1 ∨ (UInt64.size : Int) ≤ n) :
    ∃ error, ofNumber token n = .error error := by
  cases hread : ofNumber token n with
  | error e => exact ⟨e, rfl⟩
  | ok field =>
    obtain ⟨value, rfl, -⟩ := ofNumber_eq_ok_iff.mp hread
    have hvalue : value.toNat < UInt64.size := value.toNat_lt
    omega

/-- **Numerals without a value are refused,** as bad literals or as bad ranges. If the number of a
numeral is negative or does not fit in 64 bits, then no usage allows the numeral. The report calls
it a bad literal exactly if only literals are allowed or the number is a 128-bit integer, and calls
it a bad range otherwise. -/
theorem fault_of_numeral_without_value (h : Signed token n)
    (hn : n ≤ -1 ∨ (UInt64.size : Int) ≤ n) (usage : Usage) :
    ∃ error, parse usage token = .error error ∧
      ((∃ reason, error.fault = .invalidLiteral token reason) ↔ usage = .tag ∨ InWindow n) ∧
      ((∃ reason, error.fault = .invalidRange token reason) ↔ usage ≠ .tag ∧ ¬ InWindow n) := by
  obtain ⟨hinside, houtside⟩ := parse_of_signed h usage
  by_cases hwindow : InWindow n
  · obtain ⟨error, hrefused⟩ := ofNumber_of_no_value hn
    obtain ⟨-, reason, hfault⟩ := fault_of_ofNumber hrefused
    refine ⟨error, (hinside hwindow).trans hrefused, ?_⟩
    rw [hfault]
    simp [hwindow]
  · refine ⟨_, houtside hwindow, ?_⟩
    cases usage with
    | tag => simp [Error.fault]
    | filter => simp [Error.fault, hwindow]
    | group => simp [Error.fault, hwindow]

/-- Leading zeros do not count: a numeral of any length is in the window if its number is. -/
theorem fault_of_padded_numeral :
    Signed "+00000000000000000000000000000000000000000018446744073709551616" 18446744073709551616 ∧
      ∃ error, parse .filter "+00000000000000000000000000000000000000000018446744073709551616" =
          .error error ∧
        ∃ reason, error.fault =
          .invalidLiteral "+00000000000000000000000000000000000000000018446744073709551616"
            reason := by
  have hsigned : Signed "+00000000000000000000000000000000000000000018446744073709551616"
      18446744073709551616 := signedValue?_eq_some_iff.mp (by decide)
  obtain ⟨error, hrefused, hliteral, -⟩ :=
    fault_of_numeral_without_value hsigned (.inr (by decide)) .filter
  exact ⟨hsigned, error, hrefused, hliteral.mpr (.inr ⟨by decide, by decide⟩)⟩

/-- **A negative number that is called a range:** the one before the first of the window. The
report is the same as for a text that is no number. -/
theorem negative_numeral_called_range :
    Signed "-170141183460469231731687303715884105729" (-170141183460469231731687303715884105729) ∧
      ∃ error, parse .filter "-170141183460469231731687303715884105729" = .error error ∧
        (∃ reason, error.fault =
          .invalidRange "-170141183460469231731687303715884105729" reason) ∧
        ∀ reason, error.fault ≠
          .invalidLiteral "-170141183460469231731687303715884105729" reason := by
  refine ⟨signedValue?_eq_some_iff.mp (by decide), _, rfl, ⟨_, rfl⟩, ?_⟩
  intro reason hfault
  exact absurd hfault (by simp [Error.fault])

end EventCycle.Field
