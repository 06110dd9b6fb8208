/-
The overlaps of a declaration, by position.

`Grouping.overlaps` lists pairs of compiled patterns. Such a pair does not say where in the
declaration it comes from, since a declaration may hold one text twice. `Declaration.Overlap` speaks
of two positions and of the texts that stand there, and `Declaration.Overlaps` of the list of all
such pairs of positions, in lexicographic order. Order and members leave only one such list.

The main statement is `Declaration.exists_overlaps`: the pairs that compiling finds are those of
that list, one for one. The argument leaves out disjointness at first. `pairs` goes through all
pairs of an earlier and a later item of any list; it goes through positions in lexicographic order
(`sorted_pairs`), reaches every pair (`mem_pairs_iff`), and reading the texts first or last makes no
difference to it (`pairs_map`). The overlaps are the pairs that are not disjoint.
-/
import EventCycle.Proofs.Cycle.Compilation

set_option autoImplicit false

namespace EventCycle

/-! ## Pairs of items

Nothing is said of patterns here. The items will be positions, whose order is known, and `pairs_map`
takes what is said of them to the patterns that stand there. -/

section Pairs

/-- The pairs of an earlier and a later item of a list: those of the first item, then the others. -/
def pairs {α : Type} : List α → List (α × α)
  | [] => []
  | item :: later => later.map (item, ·) ++ pairs later

/-- The pairs of the images are the images of the pairs. -/
theorem pairs_map {α β : Type} (f : α → β) (items : List α) :
    pairs (items.map f) = (pairs items).map fun pair => (f pair.1, f pair.2) := by
  induction items with
  | nil => rfl
  | cons item later ih =>
    rw [List.map_cons, pairs, pairs, ih, List.map_append, List.map_map, List.map_map]
    rfl

variable {n : Nat} {positions : List (Fin n)} {i j : Fin n}

/-- The lexicographic order of pairs of positions. -/
def Before (a b : Fin n × Fin n) : Prop := a.1 < b.1 ∨ a.1 = b.1 ∧ a.2 < b.2

/-- **Of positions in order, every pair of an earlier and a later one is reached.** The induction is
on the positions: a pair starts with the first of them, or stands among the later ones. -/
theorem mem_pairs_iff (h : positions.Pairwise (· < ·)) :
    (i, j) ∈ pairs positions ↔ i ∈ positions ∧ j ∈ positions ∧ i < j := by
  induction positions with
  | nil => simp [pairs]
  | cons first later ih =>
    obtain ⟨hfirst, hlater⟩ := List.pairwise_cons.mp h
    rw [pairs, List.mem_append, ih hlater, List.mem_map]
    constructor
    · rintro (⟨position, hmem, heq⟩ | ⟨hi, hj, hlt⟩)
      · obtain ⟨rfl, rfl⟩ := Prod.mk.inj heq
        exact ⟨List.mem_cons_self, List.mem_cons_of_mem _ hmem, hfirst position hmem⟩
      · exact ⟨List.mem_cons_of_mem _ hi, List.mem_cons_of_mem _ hj, hlt⟩
    · rintro ⟨hi, hj, hlt⟩
      -- nothing comes before the first position, so the second of the pair is a later one
      have hjlater : j ∈ later := by
        rcases List.mem_cons.mp hj with rfl | hj
        · rcases List.mem_cons.mp hi with rfl | hi
          · omega
          · have := hfirst i hi
            omega
        · exact hj
      rcases List.mem_cons.mp hi with rfl | hi
      · exact .inl ⟨j, hjlater, rfl⟩
      · exact .inr ⟨hi, hjlater, hlt⟩

/-- **Of positions in order, the pairs are in order.** Those of the first position are in the order
of their second ones, and come before all the others. -/
theorem sorted_pairs (h : positions.Pairwise (· < ·)) : (pairs positions).Pairwise Before := by
  induction positions with
  | nil => exact List.Pairwise.nil
  | cons first later ih =>
    obtain ⟨hfirst, hlater⟩ := List.pairwise_cons.mp h
    rw [pairs, List.pairwise_append, List.pairwise_map]
    refine ⟨hlater.imp fun hlt => .inr ⟨rfl, hlt⟩, ih hlater, ?_⟩
    -- the pairs of the first position come before those of the later ones
    intro a ha b hb
    obtain ⟨position, -, rfl⟩ := List.mem_map.mp ha
    obtain ⟨hb, -, -⟩ := (mem_pairs_iff hlater).mp hb
    exact .inl (hfirst b.1 hb)

end Pairs

/-! ## Overlaps of patterns -/

/-- The overlaps are the pairs that are not disjoint. -/
theorem Grouping.overlaps_eq_filter_pairs (patterns : List Pattern) :
    overlaps patterns = (pairs patterns).filter fun pair => !pair.1.disjoint pair.2 := by
  induction patterns with
  | nil => rfl
  | cons first others ih =>
    rw [overlaps, pairs, ih, List.filter_append, List.filter_map]
    rfl

/-! ## Overlaps of texts

These are the words in which the results of compiling are stated: the declaration alone, its
positions, and the texts there. -/

namespace Declaration

variable {declaration : Declaration}

/-- An earlier and a later group pattern of a declaration that some tag may share. -/
structure Overlap (declaration : Declaration) (i j : Fin declaration.groups.length) : Prop where
  before : i < j
  /-- Both texts are read, and the patterns are not disjoint. -/
  patterns : ∃ p q, Pattern.parse .group declaration.groups[i] = .ok p ∧
    Pattern.parse .group declaration.groups[j] = .ok q ∧ p.disjoint q = false

/-- The positions of all overlaps, in lexicographic order. -/
structure Overlaps (declaration : Declaration)
    (positions : List (Fin declaration.groups.length × Fin declaration.groups.length)) :
    Prop where
  sorted : positions.Pairwise Before
  mem_iff : ∀ i j, (i, j) ∈ positions ↔ declaration.Overlap i j

/-- The group patterns at a pair of positions, as declared. -/
def textsAt (declaration : Declaration)
    (position : Fin declaration.groups.length × Fin declaration.groups.length) : String × String :=
  (declaration.groups[position.1], declaration.groups[position.2])

/-- **Compiling finds the overlaps of the declaration,** each once and in order, and the patterns
that it finds are written as the declared texts. Every position has its own reading, so the list of
patterns is the image of the list of positions, and the pairs of patterns are the images of pairs of
positions. -/
theorem exists_overlaps {patterns : List Pattern}
    (h : readAll (Pattern.parse .group) declaration.groups = .ok patterns) :
    ∃ positions, declaration.Overlaps positions ∧
      (Grouping.overlaps patterns).map (fun pair => (pair.1.text, pair.2.text)) =
        positions.map declaration.textsAt := by
  obtain ⟨read, hread, rfl⟩ := readAll_by_position h
  have hsorted := List.pairwise_lt_finRange declaration.groups.length
  -- the overlapping positions are listed in the way in which compiling lists the patterns
  refine ⟨(pairs (List.finRange declaration.groups.length)).filter fun position =>
    !(read position.1).disjoint (read position.2), ⟨?_, ?_⟩, ?_⟩
  · exact (sorted_pairs hsorted).filter _
  · intro i j
    rw [List.mem_filter, mem_pairs_iff hsorted, Bool.not_eq_true']
    constructor
    · rintro ⟨⟨-, -, hlt⟩, hdisjoint⟩
      exact ⟨hlt, read i, read j, hread i, hread j, hdisjoint⟩
    · rintro ⟨hlt, p, q, hp, hq, hdisjoint⟩
      obtain rfl := Except.ok.inj ((hread i).symm.trans hp)
      obtain rfl := Except.ok.inj ((hread j).symm.trans hq)
      exact ⟨⟨List.mem_finRange i, List.mem_finRange j, hlt⟩, hdisjoint⟩
  · rw [Grouping.overlaps_eq_filter_pairs, pairs_map, List.filter_map, List.map_map]
    refine List.map_congr_left fun position _ => ?_
    simp only [Function.comp_apply, textsAt, Pattern.text_of_parse (hread _)]

end Declaration

end EventCycle
