/-
Text cut at a separator character, and text joined with one.

Patterns nest two separators, `:` between segments and `.` between data fields. Both levels are
read by `segments` and written by `joined`. The two main statements say that they undo each
other: `joined_segments` holds of every text, `segments_joined` of every non-empty list of parts
that do not hold the separator, and `not_mem_of_mem_segments` says that cutting yields only such
parts. Together they make `segments_eq_iff`: the parts of a text are the one list of separator-free
parts that joins to it. Every statement about what a pattern text reads as starts there.
-/

set_option autoImplicit false

namespace EventCycle.Text

/-- The parts of a text between the occurrences of `sep`, in order; one more than there are
occurrences. -/
def segments (sep : Char) (text : String) : List String :=
  (text.toList.splitOn sep).map String.ofList

/-- The parts with `sep` between each two neighbours. -/
def joined (sep : Char) (parts : List String) : String :=
  String.ofList (List.intercalate [sep] (parts.map String.toList))

/-! ## The two undo each other

Cutting and joining are those of lists of characters, and what is said of lists is carried over to
texts here, so that no other module has to turn one into the other. -/

/-- Reading a list of character lists as texts and back changes nothing. -/
private theorem map_toList_map_ofList (parts : List (List Char)) :
    (parts.map String.ofList).map String.toList = parts := by
  simp [Function.comp_def]

/-- **Joining the segments of a text gives the text.** This needs nothing of the text, not even that
the separator occurs in it. -/
theorem joined_segments (sep : Char) (text : String) : joined sep (segments sep text) = text := by
  unfold joined segments
  rw [map_toList_map_ofList, List.intercalate_splitOn, String.ofList_toList]

/-- **Cutting joined parts gives the parts,** as long as there is a part and none holds the
separator. Without parts the joined text is empty, and cutting that gives one empty part. -/
theorem segments_joined (sep : Char) {parts : List String} (hne : parts ≠ [])
    (hfree : ∀ part ∈ parts, sep ∉ part.toList) : segments sep (joined sep parts) = parts := by
  unfold joined segments
  rw [String.toList_ofList, List.splitOn_intercalate]
  · simp [Function.comp_def]
  · intro chars hchars
    obtain ⟨part, hpart, rfl⟩ := List.mem_map.mp hchars
    exact hfree part hpart
  · simpa using hne

theorem segments_ne_nil (sep : Char) (text : String) : segments sep text ≠ [] := by
  unfold segments
  simp [List.splitOn_ne_nil]

/-- No part that splitting yields holds the separator. The induction is on the characters, from the
left: each either starts a new part or goes in front of the part that follows it. -/
private theorem not_mem_of_mem_splitOn (sep : Char) (chars : List Char) :
    ∀ part ∈ chars.splitOn sep, sep ∉ part := by
  induction chars with
  | nil =>
    intro part hpart
    rw [List.splitOn_nil] at hpart
    simp_all
  | cons c rest ih =>
    intro part hpart
    rw [List.splitOn_cons_eq_if_modifyHead] at hpart
    split at hpart
    -- at the separator an empty part starts
    · rcases List.mem_cons.mp hpart with rfl | h
      · simp
      · exact ih part h
    -- any other character goes in front of the first part
    · next hc =>
      cases hsplit : rest.splitOn sep with
      | nil => exact absurd hsplit (List.splitOn_ne_nil sep rest)
      | cons first others =>
        rw [hsplit, List.modifyHead_cons] at hpart
        rcases List.mem_cons.mp hpart with rfl | h
        · have hfirst := ih first (by simp [hsplit])
          have hne : c ≠ sep := by simpa using hc
          rw [List.mem_cons]
          rintro (rfl | hmem)
          · exact hne rfl
          · exact hfirst hmem
        · exact ih part (by simp [hsplit, h])

/-- **Cutting leaves no separator in the parts.** -/
theorem not_mem_of_mem_segments {sep : Char} {text part : String} (h : part ∈ segments sep text) :
    sep ∉ part.toList := by
  obtain ⟨chars, hchars, rfl⟩ := List.mem_map.mp h
  rw [String.toList_ofList]
  exact not_mem_of_mem_splitOn sep text.toList chars hchars

/-- **One list of separator-free parts per text:** a text has exactly one way to be cut. -/
theorem segments_eq_iff {sep : Char} {text : String} {parts : List String} :
    segments sep text = parts ↔
      parts ≠ [] ∧ (∀ part ∈ parts, sep ∉ part.toList) ∧ text = joined sep parts := by
  constructor
  · rintro rfl
    exact ⟨segments_ne_nil sep text, fun _ h => not_mem_of_mem_segments h,
      (joined_segments sep text).symm⟩
  · rintro ⟨hne, hfree, rfl⟩
    exact segments_joined sep hne hfree

end EventCycle.Text
