/-
Strict and lenient settings see the same overlaps.

Settings decide what is done about overlapping group patterns, not which patterns overlap. Lenient
settings compile the declaration and warn of every overlap; strict settings stop at the first one
and warn of nothing. The main statement, `Engine.compile_strict_and_lenient`, compares the two runs
on one declaration. The list of warnings of the lenient run is the list of overlaps, with the
declared texts; the strict run succeeds if and only if that list is empty, and otherwise reports its
head.

Both runs are given by the equations for the outcomes (`Engine.compile_of_readAs` and the others),
and there both look at the same list, `Grouping.overlaps`. What is added here is how that list shows
in the log.
-/
import EventCycle.Proofs.Cycle.Outcomes

set_option autoImplicit false

namespace EventCycle

/-! ## Warnings

A user sees the message of an event and the texts of its fields, so that is what warnings are
compared by; two patterns in an event could differ in more than their texts. -/

/-- What a warning shows: its message, and its fields with their texts. -/
structure Warning where
  message : String
  fields : List (String × String)

/-- The warnings among the events of a computation, in order, as they are shown. -/
def Logged.warnings {α : Type} (logged : Logged α) : List Warning :=
  (logged.events.filter fun event => event.level = .warn).map fun event =>
    ⟨event.message, event.fields⟩

theorem Logged.warnings_pure {α : Type} (value : α) :
    (pure value : Logged α).warnings = [] := rfl

/-- The warning that two group patterns overlap, given by their texts. -/
def Warning.ofOverlap (texts : String × String) : Warning :=
  ⟨"group patterns overlap, first match wins", [("first", texts.1), ("second", texts.2)]⟩

/-- A warning of an overlap shows which texts it is about. -/
theorem Warning.eq_of_ofOverlap_eq {texts texts' : String × String}
    (h : ofOverlap texts = ofOverlap texts') : texts = texts' := by
  have hfields : texts.1 = texts'.1 ∧ texts.2 = texts'.2 := by simpa [ofOverlap] using h
  exact Prod.ext hfields.1 hfields.2

/-- Events of overlaps are warnings, and show the texts of the patterns. The event of the compiled
cycle, which comes last, is no warning. -/
theorem Logged.warnings_overlaps {α : Type} (value : α) (pairs : List (Pattern × Pattern))
    (name : String) (includes excludes groups : Nat) :
    (Logged.mk value (pairs.map (fun pair => .groupsOverlap pair.1 pair.2) ++
        [.cycleCompiled name includes excludes groups])).warnings =
      (pairs.map fun pair => (pair.1.text, pair.2.text)).map .ofOverlap := by
  have hlast : [Event.cycleCompiled name includes excludes groups].filter
      (fun event => event.level = .warn) = [] := rfl
  have hall : (pairs.map fun pair => Event.groupsOverlap pair.1 pair.2).filter
      (fun event => event.level = .warn) =
        pairs.map fun pair => .groupsOverlap pair.1 pair.2 := by
    refine List.filter_eq_self.mpr fun event hevent => ?_
    obtain ⟨pair, -, rfl⟩ := List.mem_map.mp hevent
    rfl
  rw [warnings, List.filter_append, hlast, hall, List.append_nil, List.map_map, List.map_map]
  rfl

/-! ## The two runs

Both runs read the same texts and find the same overlaps. The setting is looked at after that, and
decides only what becomes of them. -/

namespace Engine

variable {strict lenient : Engine} {declaration : Declaration} {cycle : Cycle}

/-- A strict run logs no warning: it is refused without a word, or there is no overlap to warn of.
-/
theorem warnings_compile_strict (hstrict : strict.config.requireDisjointGroups = true)
    (declaration : Declaration) : (strict.compile declaration).warnings = [] := by
  rcases declaration.readAs_or_firstRefused with ⟨cycle, hcycle⟩ | ⟨error, hfirst⟩
  · cases hoverlaps : Grouping.overlaps cycle.grouping.patterns with
    | nil =>
      rw [compile_of_readAs hcycle fun _ => hoverlaps, Logged.warnings_overlaps, hoverlaps]
      rfl
    | cons pair others =>
      rw [compile_of_overlap hcycle hstrict hoverlaps, Logged.warnings_pure]
  · rw [compile_of_firstRefused hfirst, Logged.warnings_pure]

/-- Lenient settings compile whatever can be read, and warn of every overlap in order. -/
theorem warnings_compile_lenient (hlenient : lenient.config.requireDisjointGroups = false)
    (h : declaration.ReadAs cycle) :
    (lenient.compile declaration).value = .ok cycle ∧
      (lenient.compile declaration).warnings =
        ((Grouping.overlaps cycle.grouping.patterns).map fun pair =>
          (pair.1.text, pair.2.text)).map .ofOverlap := by
  have hadmitted : lenient.config.requireDisjointGroups = true →
      Grouping.overlaps cycle.grouping.patterns = [] := by
    intro hstrict
    rw [hlenient] at hstrict
    exact absurd hstrict (by decide)
  rw [compile_of_readAs h hadmitted]
  exact ⟨rfl, Logged.warnings_overlaps _ _ _ _ _ _⟩

/-- **Strict and lenient settings see the same overlaps.** Where a text is refused, both report the
same error and warn of nothing. Otherwise the lenient run compiles the declaration and warns of each
overlap, once, in lexicographic order and by the declared texts. The strict run warns of nothing; it
compiles to the same cycle if there is no warning of the other, and else reports the two texts of
the first one. -/
theorem compile_strict_and_lenient (hstrict : strict.config.requireDisjointGroups = true)
    (hlenient : lenient.config.requireDisjointGroups = false) (declaration : Declaration) :
    (strict.compile declaration).warnings = [] ∧
      (declaration.HasRefused →
        (lenient.compile declaration).warnings = [] ∧
          ∃ error, (strict.compile declaration).value = .error error ∧
            (lenient.compile declaration).value = .error error) ∧
      (¬ declaration.HasRefused →
        ∃ cycle positions, (lenient.compile declaration).value = .ok cycle ∧
          declaration.Overlaps positions ∧
          (lenient.compile declaration).warnings =
            (positions.map declaration.textsAt).map .ofOverlap ∧
          ((lenient.compile declaration).warnings = [] →
            (strict.compile declaration).value = .ok cycle) ∧
          ∀ first second others,
            (lenient.compile declaration).warnings = .ofOverlap (first, second) :: others →
              ∃ error, (strict.compile declaration).value = .error error ∧
                error.fault = .overlappingGroups first second) := by
  refine ⟨warnings_compile_strict hstrict declaration, ?_, ?_⟩
  -- a refused text stops both runs in the same place, before the setting is looked at
  · intro hrefused
    obtain ⟨error, hfirst⟩ := Declaration.exists_firstRefused hrefused
    rw [compile_of_firstRefused hfirst, compile_of_firstRefused hfirst]
    exact ⟨Logged.warnings_pure _, .pattern error, rfl, rfl⟩
  · intro hread
    obtain ⟨cycle, hcycle⟩ := Declaration.exists_readAs hread
    obtain ⟨positions, hpositions, htexts⟩ :=
      Declaration.exists_overlaps (readAll_eq_ok_iff.mpr hcycle.groups)
    obtain ⟨hvalue, hwarnings⟩ := warnings_compile_lenient hlenient hcycle
    refine ⟨cycle, positions, hvalue, hpositions, ?_, ?_, ?_⟩
    · rw [hwarnings, htexts]
    · intro hnone
      rw [hwarnings, List.map_eq_nil_iff, List.map_eq_nil_iff] at hnone
      rw [compile_of_readAs hcycle fun _ => hnone]
    · intro first second others hcons
      rw [hwarnings] at hcons
      -- the head of the warnings is the head of the overlaps, where the strict run stops
      obtain ⟨shown, _, hshown, hwarning, -⟩ := List.map_eq_cons_iff.mp hcons
      obtain ⟨⟨p, q⟩, rest, hoverlaps, hpair, -⟩ := List.map_eq_cons_iff.mp hshown
      obtain ⟨hp, hq⟩ := Prod.mk.inj (hpair.trans (Warning.eq_of_ofOverlap_eq hwarning))
      refine ⟨.overlap p q, ?_, ?_⟩
      · rw [compile_of_overlap hcycle hstrict hoverlaps, Logged.value_pure]
      · rw [CompileError.fault, hp, hq]

/-- Of two overlaps the first is reported and both are warned of. -/
theorem compile_two_overlaps :
    ∃ declaration : Declaration,
      declaration.groups = ["urn:epc:pat:gid-96:1.X.*", "urn:epc:pat:gid-96:*.2.*",
        "urn:epc:pat:gid-96:[3-4].02.*"] ∧ ¬ declaration.HasRefused ∧
      ((⟨.lenient, by decide⟩ : Engine).compile declaration).warnings =
        [.ofOverlap ("urn:epc:pat:gid-96:1.X.*", "urn:epc:pat:gid-96:*.2.*"),
          .ofOverlap ("urn:epc:pat:gid-96:*.2.*", "urn:epc:pat:gid-96:[3-4].02.*")] ∧
      ∃ error, (({} : Engine).compile declaration).value = .error error ∧
        error.fault =
          .overlappingGroups "urn:epc:pat:gid-96:1.X.*" "urn:epc:pat:gid-96:*.2.*" := by
  have hgroups : readAll (Pattern.parse .group) ["urn:epc:pat:gid-96:1.X.*",
      "urn:epc:pat:gid-96:*.2.*", "urn:epc:pat:gid-96:[3-4].02.*"] = .ok _ := rfl
  have hread : ¬ Declaration.HasRefused { groups := ["urn:epc:pat:gid-96:1.X.*",
      "urn:epc:pat:gid-96:*.2.*", "urn:epc:pat:gid-96:[3-4].02.*"] } :=
    @Declaration.ReadAs.not_hasRefused _ ⟨"", {}, ⟨_⟩⟩
      ⟨rfl, rfl, rfl, readAll_eq_ok_iff.mp hgroups⟩
  have hwarnings : ((⟨.lenient, by decide⟩ : Engine).compile { groups :=
      ["urn:epc:pat:gid-96:1.X.*", "urn:epc:pat:gid-96:*.2.*",
        "urn:epc:pat:gid-96:[3-4].02.*"] }).warnings =
        [.ofOverlap ("urn:epc:pat:gid-96:1.X.*", "urn:epc:pat:gid-96:*.2.*"),
          .ofOverlap ("urn:epc:pat:gid-96:*.2.*", "urn:epc:pat:gid-96:[3-4].02.*")] := rfl
  obtain ⟨cycle, positions, -, -, -, -, hfirst⟩ :=
    (@compile_strict_and_lenient {} ⟨.lenient, by decide⟩ rfl rfl _).2.2 hread
  exact ⟨_, rfl, hread, hwarnings, hfirst _ _ _ hwarnings⟩

end Engine

end EventCycle
