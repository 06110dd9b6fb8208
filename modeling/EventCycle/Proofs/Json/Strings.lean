/-
Strings are read as they were written.

A string is written character by character, each as itself or as an escape, and read in two steps:
first as pieces, then as the text that the pieces spell. A character makes one piece
(`exists_piece_of_escaped`). For most characters the piece is the character; a control character
that has no escape of its own is written by its number, and is read back as a unit. Units below the
blank are no halves of surrogate pairs, so they spell a character whatever follows them
(`PieceOf.spelled?_cons`).

The main statement, `exists_stringChars`, is what the reader of values needs to know: behind the
opening quote there is a body which, whatever follows it, is read as the string and leaves what
follows.
-/
import EventCycle.Json.Value
import EventCycle.Json.Reader

set_option autoImplicit false

namespace EventCycle.Json

/-! ## One character

Writing a character and reading a piece are gone through side by side, one lemma for each kind of
piece and then all characters at once. -/

/-- The pieces that a character may be written as. -/
inductive PieceOf (c : Char) : Piece → Prop where
  | char : PieceOf c (.char c)
  | unit (control : c.toNat < 0x20) : PieceOf c (.unit c.toNat)

/-- The two digits that a control character is written with are read as its number. There are few
enough of them to try all. -/
theorem unitOfHex?_control : ∀ n < 0x20,
    unitOfHex? '0' '0' (hexDigit (n / 16)) (hexDigit (n % 16)) = some n := by
  decide

theorem pieces_quote (rest : List Char) : pieces ('"' :: rest) = some ([], rest) := by
  rw [pieces.eq_def]
  exact if_pos rfl

theorem pieces_unit {a b c d : Char} {code : Nat} (h : unitOfHex? a b c d = some code)
    (rest : List Char) :
    pieces ('\\' :: 'u' :: a :: b :: c :: d :: rest) =
      (pieces rest).map fun (more, rest) => (.unit code :: more, rest) := by
  rw [pieces, if_neg (by decide), if_pos rfl, h, Option.bind_some]

/-- An escape by a letter or a sign is read as the character that it stands for. -/
theorem pieces_letter {letter c : Char} (hletter : letter ≠ 'u') (h : unescaped? letter = some c)
    (rest : List Char) :
    pieces ('\\' :: letter :: rest) =
      (pieces rest).map fun (more, rest) => (.char c :: more, rest) := by
  rw [pieces, if_neg (by decide), if_pos rfl, h, Option.bind_some]
  -- the letter does not start a numeric escape
  exact fun _ _ _ _ _ heq => absurd heq hletter

theorem pieces_plain {c : Char} (hquote : c ≠ '"') (hbackslash : c ≠ '\\')
    (hblank : ¬ c.toNat < 0x20) (rest : List Char) :
    pieces (c :: rest) = (pieces rest).map fun (more, rest) => (.char c :: more, rest) := by
  rw [pieces.eq_def]
  simp only [if_neg hquote, if_neg hbackslash, if_neg hblank]

/-- **A character is read as one piece** from what it is written as. The cases are those of the
writer: seven escapes of one letter or sign each, the other control characters, and all else. -/
theorem exists_piece_of_escaped (c : Char) :
    ∃ piece, PieceOf c piece ∧ ∀ rest, pieces (escaped c ++ rest) =
      (pieces rest).map fun (more, rest) => (piece :: more, rest) := by
  unfold escaped
  -- the escapes by a letter or a sign
  iterate 7
    split
    · next h => exact ⟨_, .char, pieces_letter (by decide) (by rw [h]; rfl)⟩
  split
  -- what is left is a control character without an escape of its own, or none
  · next hcontrol => exact ⟨_, .unit hcontrol, pieces_unit (unitOfHex?_control _ hcontrol)⟩
  · next hquote hbackslash _ _ _ _ _ hblank =>
    exact ⟨_, .char, pieces_plain hquote hbackslash hblank⟩

/-- A unit that is no half of a surrogate pair spells a character. -/
theorem spelled?_unit_cons {code : Nat} (hhigh : isHighSurrogate code = false)
    (hlow : isLowSurrogate code = false) (more : List Piece) :
    spelled? (.unit code :: more) = (spelled? more).map (Char.ofNat code :: ·) := by
  cases more with
  | nil => simp [spelled?, hhigh, hlow]
  | cons next more =>
    cases next with
    | char c => simp [spelled?, hhigh, hlow]
    | unit low => simp [spelled?, hhigh, hlow]

/-- **The piece of a character spells the character,** whatever follows it. -/
theorem PieceOf.spelled?_cons {c : Char} {piece : Piece} (h : PieceOf c piece)
    (more : List Piece) : spelled? (piece :: more) = (spelled? more).map (c :: ·) := by
  cases h with
  | char => rw [spelled?]
  | unit hcontrol =>
    have hhigh : isHighSurrogate c.toNat = false := by
      rw [isHighSurrogate, Bool.and_eq_false_iff, decide_eq_false_iff_not]
      omega
    have hlow : isLowSurrogate c.toNat = false := by
      rw [isLowSurrogate, Bool.and_eq_false_iff, decide_eq_false_iff_not]
      omega
    rw [spelled?_unit_cons hhigh hlow, Char.ofNat_toNat]

/-! ## Strings

A string is its characters, so one induction is enough. The statement has what follows the string
inside, since that is different at every step. -/

/-- **Written characters are read as pieces that spell them,** up to the closing quote. The
induction is on the characters, and each adds its own piece in front. -/
theorem exists_pieces (chars : List Char) :
    ∃ parts, spelled? parts = some chars ∧
      ∀ rest, pieces (chars.flatMap escaped ++ '"' :: rest) = some (parts, rest) := by
  induction chars with
  | nil =>
    refine ⟨[], by rw [spelled?], fun rest => ?_⟩
    rw [List.flatMap_nil, List.nil_append, pieces_quote]
  | cons c chars ih =>
    obtain ⟨parts, hspelled, hparts⟩ := ih
    obtain ⟨piece, hpiece, hread⟩ := exists_piece_of_escaped c
    refine ⟨piece :: parts, ?_, fun rest => ?_⟩
    · rw [hpiece.spelled?_cons, hspelled]
      rfl
    · rw [List.flatMap_cons, List.append_assoc, hread, hparts]
      rfl

/-- **A string is read as it was written,** and what follows it is left. -/
theorem exists_stringChars (text : Option String) :
    ∃ body, stringChars text = '"' :: body ∧
      ∀ rest, stringBody? (body ++ rest) = some (text, rest) := by
  cases text with
  | none =>
    refine ⟨['\\', 'u', 'd', '8', '0', '0', '"'], rfl, fun rest => ?_⟩
    have hunit : unitOfHex? 'd' '8' '0' '0' = some 0xD800 := by decide
    simp only [List.cons_append, List.nil_append, stringBody?, pieces_unit hunit, pieces_quote]
    -- the other half of the pair is missing
    simp [spelled?, isHighSurrogate]
  | some text =>
    obtain ⟨parts, hspelled, hparts⟩ := exists_pieces text.toList
    refine ⟨text.toList.flatMap escaped ++ ['"'], rfl, fun rest => ?_⟩
    rw [stringBody?, List.append_assoc, List.singleton_append, hparts]
    simp [hspelled]

end EventCycle.Json
