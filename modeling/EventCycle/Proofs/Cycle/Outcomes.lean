/-
What compiling a declaration comes to.

`Engine.compile` reads three lists under two usages and then looks at pairs of group patterns. Here
its outcome is said of the declaration as a whole, and the steps are gone. `Declaration.texts` is
one list of all texts, each with the usage that it is read under. Either some text is refused, and
then the first one in this list decides (`Declaration.FirstRefused`), or there is one cycle that all
of them read as (`Declaration.ReadAs`). In the second case strict settings ask for the overlaps, and
the first one decides (`Declaration.FirstOverlap`).

For each of the three outcomes there is an equation for the whole computation, with what it logs:
`compile_of_firstRefused`, `compile_of_overlap` and `compile_of_readAs`. The main statement,
`Engine.compile_reports_first_fault`, puts the values together. A cycle that is compiled is written
as the declaration that it comes from, so nothing of the declaration is lost or changed.
-/
import EventCycle.Proofs.Cycle.Overlaps

set_option autoImplicit false

namespace EventCycle

/-! ## What a declaration reads as

The three lists are read one after the other, and each from left to right. So the first text that is
refused is the first in the list of all texts, and this is the order that the reports follow. -/

namespace Declaration

variable {declaration : Declaration}

/-- The texts of a declaration in the order in which they are read, each with its usage. -/
def texts (declaration : Declaration) : List (Usage × String) :=
  declaration.includes.map (.filter, ·) ++
    (declaration.excludes.map (.filter, ·) ++ declaration.groups.map (.group, ·))

/-- The error of the first text that is refused, all before it being read. -/
def FirstRefused (declaration : Declaration) (error : Pattern.Error) : Prop :=
  ∃ before usage text after, declaration.texts = before ++ (usage, text) :: after ∧
    (∀ earlier ∈ before, ∃ pattern, Pattern.parse earlier.1 earlier.2 = .ok pattern) ∧
    Pattern.parse usage text = .error error

/-- The first overlap of a declaration, in lexicographic order of the positions. -/
structure FirstOverlap (declaration : Declaration) (i j : Fin declaration.groups.length) :
    Prop where
  overlap : declaration.Overlap i j
  /-- Every other overlap comes later, by its first position or, if that is the same, its second. -/
  first : ∀ i' j', declaration.Overlap i' j' → (i', j') = (i, j) ∨ Before (i, j) (i', j')

/-- The first text that is refused is the one that stops the reading of the list. -/
theorem firstRefused_iff {error : Pattern.Error} :
    declaration.FirstRefused error ↔
      readAll (fun item => Pattern.parse item.1 item.2) declaration.texts = .error error := by
  rw [readAll_eq_error_iff]
  constructor
  · rintro ⟨before, usage, text, after, hsplit, hbefore, hrefused⟩
    exact ⟨before, (usage, text), after, hsplit, hbefore, hrefused⟩
  · rintro ⟨before, ⟨usage, text⟩, after, hsplit, hbefore, hrefused⟩
    exact ⟨before, usage, text, after, hsplit, hbefore, hrefused⟩

/-- **A declaration reads as a cycle, or there is a first text that is refused.** If the one list of
all texts can be read, then so can each of the three that it is made of. -/
theorem readAs_or_firstRefused (declaration : Declaration) :
    (∃ cycle, declaration.ReadAs cycle) ∨ ∃ error, declaration.FirstRefused error := by
  cases htexts : readAll (fun item => Pattern.parse item.1 item.2) declaration.texts with
  | error e => exact .inr ⟨e, firstRefused_iff.mpr htexts⟩
  | ok patterns =>
    obtain ⟨includes, others, hincludes, hothers, -⟩ := readAll_append_eq_ok_iff.mp htexts
    obtain ⟨excludes, groups, hexcludes, hgroups, -⟩ := readAll_append_eq_ok_iff.mp hothers
    rw [readAll_map] at hincludes hexcludes hgroups
    refine .inl ⟨⟨declaration.name, ⟨includes, excludes⟩, ⟨groups⟩⟩, rfl, ?_, ?_, ?_⟩
    · exact readAll_eq_ok_iff.mp hincludes
    · exact readAll_eq_ok_iff.mp hexcludes
    · exact readAll_eq_ok_iff.mp hgroups

/-- Some text of a declaration is refused. -/
def HasRefused (declaration : Declaration) : Prop :=
  ∃ item ∈ declaration.texts, ∃ error, Pattern.parse item.1 item.2 = .error error

/-- The one list of a declaration's texts reads as the three lists of the cycle, in a row. -/
theorem ReadAs.readAll_eq {cycle : Cycle} (h : declaration.ReadAs cycle) :
    readAll (fun item => Pattern.parse item.1 item.2) declaration.texts =
      .ok (cycle.filter.includes ++ (cycle.filter.excludes ++ cycle.grouping.patterns)) := by
  rw [texts, readAll_append_eq_ok_iff]
  refine ⟨_, _, ?_, readAll_append_eq_ok_iff.mpr ⟨_, _, ?_, ?_, rfl⟩, rfl⟩
  · rw [readAll_map, readAll_eq_ok_iff.mpr h.includes]
  · rw [readAll_map, readAll_eq_ok_iff.mpr h.excludes]
  · rw [readAll_map, readAll_eq_ok_iff.mpr h.groups]

theorem ReadAs.not_hasRefused {cycle : Cycle} (h : declaration.ReadAs cycle) :
    ¬ declaration.HasRefused := by
  rintro ⟨item, hitem, error, hrefused⟩
  exact ne_error_of_readAll h.readAll_eq hitem error hrefused

theorem exists_firstRefused (h : declaration.HasRefused) :
    ∃ error, declaration.FirstRefused error := by
  rcases declaration.readAs_or_firstRefused with ⟨cycle, hcycle⟩ | hfirst
  · exact absurd h hcycle.not_hasRefused
  · exact hfirst

theorem exists_readAs (h : ¬ declaration.HasRefused) : ∃ cycle, declaration.ReadAs cycle := by
  rcases declaration.readAs_or_firstRefused with hcycle | ⟨error, hfirst⟩
  · exact hcycle
  · obtain ⟨before, usage, text, after, hsplit, -, hrefused⟩ := hfirst
    exact absurd ⟨(usage, text), by simp [hsplit], error, hrefused⟩ h

/-! ## Overlaps in order

The overlaps are listed in lexicographic order, so strict settings, which stop at the head of the
list, report the first of them. -/

section Overlaps

variable {i j : Fin declaration.groups.length}
  {positions : List (Fin declaration.groups.length × Fin declaration.groups.length)}

/-- The head of the list of overlaps is the first overlap. -/
theorem Overlaps.firstOverlap (h : declaration.Overlaps ((i, j) :: positions)) :
    declaration.FirstOverlap i j := by
  obtain ⟨hfirst, -⟩ := List.pairwise_cons.mp h.sorted
  refine ⟨(h.mem_iff i j).mp List.mem_cons_self, ?_⟩
  intro i' j' hoverlap
  rcases List.mem_cons.mp ((h.mem_iff i' j').mpr hoverlap) with heq | hmem
  · exact .inl heq
  · exact .inr (hfirst (i', j') hmem)

/-- The list of overlaps is empty when there are none. -/
theorem Overlaps.eq_nil_iff (h : declaration.Overlaps positions) :
    positions = [] ↔ ∀ i j, ¬ declaration.Overlap i j := by
  rw [List.eq_nil_iff_forall_not_mem]
  constructor
  · intro hnone i j hoverlap
    exact hnone (i, j) ((h.mem_iff i j).mpr hoverlap)
  · rintro hnone ⟨i, j⟩ hmem
    exact hnone i j ((h.mem_iff i j).mp hmem)

/-- The compiled patterns overlap where the declared texts do. -/
theorem ReadAs.overlaps_eq_nil_iff {cycle : Cycle} (h : declaration.ReadAs cycle) :
    Grouping.overlaps cycle.grouping.patterns = [] ↔ ∀ i j, ¬ declaration.Overlap i j := by
  obtain ⟨positions, hpositions, htexts⟩ := exists_overlaps (readAll_eq_ok_iff.mpr h.groups)
  rw [← hpositions.eq_nil_iff, ← List.map_eq_nil_iff, htexts, List.map_eq_nil_iff]

/-- The first pair of compiled patterns that overlap is written as the texts of the first
overlap. -/
theorem ReadAs.overlaps_eq_cons {cycle : Cycle} (h : declaration.ReadAs cycle) {p q : Pattern}
    {others : List (Pattern × Pattern)}
    (hoverlaps : Grouping.overlaps cycle.grouping.patterns = (p, q) :: others) :
    ∃ i j, declaration.FirstOverlap i j ∧ p.text = declaration.groups[i] ∧
      q.text = declaration.groups[j] := by
  obtain ⟨positions, hpositions, htexts⟩ := exists_overlaps (readAll_eq_ok_iff.mpr h.groups)
  rw [hoverlaps, List.map_cons] at htexts
  obtain ⟨⟨i, j⟩, rest, rfl, hfirst, -⟩ := List.map_eq_cons_iff.mp htexts.symm
  obtain ⟨hp, hq⟩ := Prod.mk.inj hfirst
  exact ⟨i, j, hpositions.firstOverlap, hp.symm, hq.symm⟩

end Overlaps

end Declaration

/-! ## The three outcomes

Each equation is about the whole computation and not about its value alone. What is logged under
strict and under lenient settings is read off from the same three. -/

namespace Engine

variable {engine : Engine} {declaration : Declaration} {cycle : Cycle}

/-- **A text that is refused stops everything,** and nothing is logged. The list in which it stands
is the first that cannot be read, and what is done with the lists before it leaves no trace. -/
theorem compile_of_firstRefused {error : Pattern.Error} (h : declaration.FirstRefused error)
    (engine : Engine) : engine.compile declaration = pure (.error (.pattern error)) := by
  have htexts := Declaration.firstRefused_iff.mp h
  rw [Declaration.texts, readAll_append_eq_error_iff, readAll_append_eq_error_iff, readAll_map,
    readAll_map, readAll_map] at htexts
  unfold compile Filter.compile
  rcases htexts with hincludes | ⟨⟨includes, hincludes⟩, hothers⟩
  · rw [hincludes]
    rfl
  · rcases hothers with hexcludes | ⟨⟨excludes, hexcludes⟩, hgroups⟩
    · rw [hincludes, hexcludes]
      rfl
    · rw [hincludes, hexcludes]
      simp only [Grouping.compile, hgroups]
      rfl

/-- Once the texts are read, what is left to do is to look for overlaps. -/
theorem compile_of_reading (h : declaration.ReadAs cycle) (engine : Engine) :
    engine.compile declaration = do
      match ← Grouping.compile declaration.groups engine.config.requireDisjointGroups with
      | .error error => return .error error
      | .ok grouping =>
        Logged.record (.cycleCompiled declaration.name cycle.filter.includes.length
          cycle.filter.excludes.length grouping.patterns.length)
        return .ok { name := declaration.name, filter := cycle.filter, grouping } := by
  have hfilter : Filter.compile declaration.includes declaration.excludes = .ok cycle.filter :=
    Filter.compile_eq_ok_iff.mpr
      ⟨readAll_eq_ok_iff.mpr h.includes, readAll_eq_ok_iff.mpr h.excludes⟩
  -- `rewrite`, which leaves the closing step to `rfl`: the two matches are equal by unfolding only.
  rewrite [compile, hfilter]
  rfl

/-- **Strict settings stop at the first overlap,** and nothing is logged. -/
theorem compile_of_overlap (h : declaration.ReadAs cycle)
    (hstrict : engine.config.requireDisjointGroups = true) {p q : Pattern}
    {others : List (Pattern × Pattern)}
    (hoverlaps : Grouping.overlaps cycle.grouping.patterns = (p, q) :: others) :
    engine.compile declaration = pure (.error (.overlap p q)) := by
  rw [compile_of_reading h, hstrict, Grouping.compile, readAll_eq_ok_iff.mpr h.groups]
  simp only [hoverlaps]
  rfl

/-- **Whatever else can be read is compiled,** and its overlaps are logged. -/
theorem compile_of_readAs (h : declaration.ReadAs cycle)
    (hadmitted : engine.config.requireDisjointGroups = true →
      Grouping.overlaps cycle.grouping.patterns = []) :
    engine.compile declaration =
      ⟨.ok cycle, (Grouping.overlaps cycle.grouping.patterns).map
          (fun pair => .groupsOverlap pair.1 pair.2) ++
        [.cycleCompiled declaration.name cycle.filter.includes.length
          cycle.filter.excludes.length cycle.grouping.patterns.length]⟩ := by
  have hgrouping : Grouping.compile declaration.groups engine.config.requireDisjointGroups =
      ⟨.ok cycle.grouping, (Grouping.overlaps cycle.grouping.patterns).map
        fun pair => .groupsOverlap pair.1 pair.2⟩ := by
    rw [Grouping.compile, readAll_eq_ok_iff.mpr h.groups]
    cases hstrict : engine.config.requireDisjointGroups with
    | false =>
      show Logged.mk _ _ = Logged.mk _ _
      simp
    | true =>
      simp only [hadmitted hstrict]
      rfl
  rw [compile_of_reading h, hgrouping]
  obtain ⟨name, filter, grouping⟩ := cycle
  obtain rfl : name = declaration.name := h.name
  rfl

end Engine

/-! ## Compiling and writing back

A pattern is written as the text that it was read from. So a cycle holds all of its declaration,
spelling and order included, and can be compiled again. -/

/-- The declaration that a cycle is written as. -/
def Cycle.declaration (cycle : Cycle) : Declaration where
  name := cycle.name
  includes := cycle.filter.includes.map Pattern.text
  excludes := cycle.filter.excludes.map Pattern.text
  groups := cycle.grouping.patterns.map Pattern.text

/-- Patterns are written as the texts that they are read from, one for one. -/
theorem Pattern.map_text_of_reading {usage : Usage} {texts : List String} {patterns : List Pattern}
    (h : texts.map (parse usage) = patterns.map .ok) : patterns.map text = texts :=
  map_write_of_readAll (fun _ _ => text_of_parse) (readAll_eq_ok_iff.mpr h)

/-- **A cycle is written as the declaration that reads as it.** -/
theorem Declaration.ReadAs.declaration_eq {declaration : Declaration} {cycle : Cycle}
    (h : declaration.ReadAs cycle) : cycle.declaration = declaration := by
  rw [Cycle.declaration, h.name, Pattern.map_text_of_reading h.includes,
    Pattern.map_text_of_reading h.excludes, Pattern.map_text_of_reading h.groups]

/-- **Compiling reports the first thing wrong, and changes nothing otherwise.** If a text is
refused, the first one is reported, whatever else is wrong. If none is and strict settings meet an
overlap, the first one is reported by its texts. Otherwise the declaration is compiled to what its
texts read as, the cycle is written as the declaration, and compiling that again makes the same
cycle. -/
theorem Engine.compile_reports_first_fault (engine : Engine) (declaration : Declaration) :
    (declaration.HasRefused →
        ∃ error, declaration.FirstRefused error ∧
          (engine.compile declaration).value = .error (.pattern error)) ∧
      (¬ declaration.HasRefused → engine.config.requireDisjointGroups = true →
        (∃ i j, declaration.Overlap i j) →
          ∃ i j error, declaration.FirstOverlap i j ∧
            (engine.compile declaration).value = .error error ∧
            error.fault = .overlappingGroups declaration.groups[i] declaration.groups[j]) ∧
      (¬ declaration.HasRefused →
        (engine.config.requireDisjointGroups = true → ∀ i j, ¬ declaration.Overlap i j) →
          ∃ cycle, (engine.compile declaration).value = .ok cycle ∧ declaration.ReadAs cycle ∧
            cycle.declaration = declaration ∧
            (engine.compile cycle.declaration).value = .ok cycle) := by
  refine ⟨?_, ?_, ?_⟩
  · intro hrefused
    obtain ⟨error, hfirst⟩ := Declaration.exists_firstRefused hrefused
    refine ⟨error, hfirst, ?_⟩
    rw [compile_of_firstRefused hfirst, Logged.value_pure]
  · intro hread hstrict hoverlap
    obtain ⟨cycle, hcycle⟩ := Declaration.exists_readAs hread
    -- two texts overlap, so the list of overlapping patterns has a head
    cases hoverlaps : Grouping.overlaps cycle.grouping.patterns with
    | nil =>
      obtain ⟨i, j, hoverlap⟩ := hoverlap
      exact absurd hoverlap (hcycle.overlaps_eq_nil_iff.mp hoverlaps i j)
    | cons pair others =>
      obtain ⟨p, q⟩ := pair
      obtain ⟨i, j, hfirst, hp, hq⟩ := hcycle.overlaps_eq_cons hoverlaps
      refine ⟨i, j, .overlap p q, hfirst, ?_, ?_⟩
      · rw [compile_of_overlap hcycle hstrict hoverlaps, Logged.value_pure]
      · rw [CompileError.fault, hp, hq]
  · intro hread hadmitted
    obtain ⟨cycle, hcycle⟩ := Declaration.exists_readAs hread
    have hcompiled : (engine.compile declaration).value = .ok cycle := by
      rw [compile_of_readAs hcycle]
      intro hstrict
      exact hcycle.overlaps_eq_nil_iff.mpr (hadmitted hstrict)
    refine ⟨cycle, hcompiled, hcycle, hcycle.declaration_eq, ?_⟩
    rw [hcycle.declaration_eq]
    exact hcompiled

/-- The exclude pattern of an unknown format is reported, and neither the group pattern with too few
fields nor the two that overlap before it. -/
example : (({} : Engine).compile
      { includes := ["urn:epc:pat:gid-96:1.*.*"], excludes := ["urn:epc:pat:gid-64:1.*.*"]
        groups := ["urn:epc:pat:gid-96:1.*.*", "urn:epc:pat:gid-96:*.2.*",
          "urn:epc:pat:gid-96:X.*"] }).value =
    .error (.pattern (.format "gid-64")) := rfl

end EventCycle
