/-
Filtering by one pattern is a cycle with one pattern.

There are two ways to have the reads of a batch that belong to a pattern. `Engine.filterReads` asks
the pattern about each read, which the pattern then reads itself. A cycle whose only pattern is an
include pattern reads each one first and gives it a verdict. A third way is to have the same pattern
as the only exclude pattern and to look at what is rejected. The main statement,
`Engine.filterReads_eq_cycles`, says that the three agree on every batch and under all settings, so
that a read which is no tag is on the side of the reads that do not belong.

A filter accepts what belongs to an include pattern, but also everything if there are none. This is
where the two cycles differ: the first has an include pattern and nothing to refuse, the second
accepts everything but what it refuses. What is left in either case is the test of the one pattern
(`Cycle.isAccepted_ofInclude`, `Cycle.isAccepted_ofExclude`).
-/
import EventCycle.Proofs.Cycle.Batch
import EventCycle.Proofs.Cycle.Compilation

set_option autoImplicit false

namespace EventCycle

variable {text : String} {pattern : Pattern}

/-! ## Cycles of one pattern

A cycle with one pattern has no groups, so a verdict is no more than whether the read is accepted.
-/

namespace Cycle

/-- The cycle with one include pattern and nothing else. -/
def ofInclude (name : String) (pattern : Pattern) : Cycle :=
  { name, filter := { includes := [pattern] } }

/-- The cycle with one exclude pattern and nothing else. -/
def ofExclude (name : String) (pattern : Pattern) : Cycle :=
  { name, filter := { excludes := [pattern] } }

/-- Whether a read is accepted is up to the filter. -/
theorem isAccepted_classify (cycle : Cycle) (read : String) :
    (cycle.classify read).value.isAccepted =
      cycle.filter.acceptsTag (Pattern.parse .tag read).toOption := by
  rw [value_classify, verdict]
  cases cycle.filter.acceptsTag (Pattern.parse .tag read).toOption <;> rfl

theorem isAccepted_ofInclude (name : String) (pattern : Pattern) (read : String) :
    ((ofInclude name pattern).classify read).value.isAccepted = (pattern.isMember read).value := by
  rw [isAccepted_classify, Pattern.value_isMember_eq_any]
  simp [ofInclude, Filter.acceptsTag, Filter.anyMatches]

theorem isAccepted_ofExclude (name : String) (pattern : Pattern) (read : String) :
    ((ofExclude name pattern).classify read).value.isAccepted =
      !(pattern.isMember read).value := by
  rw [isAccepted_classify, Pattern.value_isMember_eq_any]
  simp [ofExclude, Filter.acceptsTag, Filter.anyMatches]

end Cycle

/-- The accepted reads of a judged batch, in order and as often as they occur. -/
def acceptedReads (batch : List ClassifiedRead) : List String :=
  (batch.filter fun classified => classified.verdict.isAccepted).map ClassifiedRead.read

namespace Engine

/-- **A declaration without groups compiles** if its filter does, under all settings: no two
patterns are there to overlap. -/
theorem value_compile_of_filter {declaration : Declaration} {filter : Filter}
    (hgroups : declaration.groups = [])
    (hfilter : Filter.compile declaration.includes declaration.excludes = .ok filter)
    (engine : Engine) :
    (engine.compile declaration).value = .ok { name := declaration.name, filter } := by
  refine value_compile_eq_ok_iff.mpr ⟨rfl, hfilter, ?_⟩
  rw [hgroups]
  exact Grouping.value_compile_eq_ok_iff.mpr ⟨rfl, fun _ => .nil⟩

theorem value_compile_include (h : Pattern.parse .filter text = .ok pattern) (engine : Engine)
    (name : String) :
    (engine.compile { name, includes := [text] }).value = .ok (.ofInclude name pattern) :=
  value_compile_of_filter rfl (Filter.compile_eq_ok_iff.mpr ⟨readAll_singleton h, rfl⟩) engine

theorem value_compile_exclude (h : Pattern.parse .filter text = .ok pattern) (engine : Engine)
    (name : String) :
    (engine.compile { name, excludes := [text] }).value = .ok (.ofExclude name pattern) :=
  value_compile_of_filter rfl (Filter.compile_eq_ok_iff.mpr ⟨rfl, readAll_singleton h⟩) engine

/-! ## Batches

On all three ways the result is a selection from the batch. It is enough to compare what the reads
are selected by. -/

theorem acceptedReads_classifyBatch (engine : Engine) (cycle : Cycle) (reads : List String) :
    acceptedReads (engine.classifyBatch cycle reads).value =
      reads.filter fun read => (cycle.classify read).value.isAccepted := by
  rw [value_classifyBatch, acceptedReads, List.filter_map, List.map_map]
  exact List.map_id _

theorem rejectedReads_classifyBatch (engine : Engine) (cycle : Cycle) (reads : List String) :
    Buckets.readsWith .rejected (engine.classifyBatch cycle reads).value =
      reads.filter fun read => !(cycle.classify read).value.isAccepted := by
  rw [value_classifyBatch, Buckets.readsWith_classified, Cycle.readsWith]
  refine List.filter_congr fun read _ => ?_
  cases (cycle.classify read).value <;> rfl

/-- **Filtering by a pattern is a cycle with that pattern.** The declarations whose only pattern is
the text as an include pattern, or as an exclude pattern, compile under all settings. Under all
settings the reads of a batch that belong to the pattern are those which the first cycle accepts, in
the same order and as often, and also those which the second cycle rejects. So the two cycles give
every read of the batch opposite verdicts. -/
theorem filterReads_eq_cycles (h : Pattern.parse .filter text = .ok pattern)
    (engine judge compiler : Engine) (name name' : String) (reads : List String) :
    ∃ including excluding,
      (compiler.compile { name, includes := [text] }).value = .ok including ∧
        (compiler.compile { name := name', excludes := [text] }).value = .ok excluding ∧
        (engine.filterReads pattern reads).value =
          acceptedReads (judge.classifyBatch including reads).value ∧
        (engine.filterReads pattern reads).value =
          Buckets.readsWith .rejected (judge.classifyBatch excluding reads).value ∧
        ((judge.classifyBatch including reads).value.map fun classified =>
            (classified.read, classified.verdict.isAccepted)) =
          (judge.classifyBatch excluding reads).value.map fun classified =>
            (classified.read, !classified.verdict.isAccepted) := by
  refine ⟨_, _, compiler.value_compile_include h name, compiler.value_compile_exclude h name',
    ?_, ?_, ?_⟩
  · rw [value_filterReads, acceptedReads_classifyBatch]
    simp only [Cycle.isAccepted_ofInclude]
  · rw [value_filterReads, rejectedReads_classifyBatch]
    simp only [Cycle.isAccepted_ofExclude, Bool.not_not]
  · rw [value_classifyBatch, value_classifyBatch, List.map_map, List.map_map]
    refine List.map_congr_left fun read _ => ?_
    simp only [Function.comp_apply, Cycle.isAccepted_ofInclude, Cycle.isAccepted_ofExclude,
      Bool.not_not]

/-- A batch with a member twice, a tag that is none and a read that is no tag, filtered in order and
judged by several workers. -/
theorem filterReads_eq_cycles_mixed :
    ∃ pattern including excluding,
      Pattern.parse .filter "urn:epc:pat:gid-96:1.*.[2-3]" = .ok pattern ∧
        (({ config := .lenient } : Engine).compile
          { name := "dock", includes := ["urn:epc:pat:gid-96:1.*.[2-3]"] }).value =
            .ok including ∧
        (({ config := .lenient } : Engine).compile
          { excludes := ["urn:epc:pat:gid-96:1.*.[2-3]"] }).value = .ok excluding ∧
        (({ config := .sequential } : Engine).filterReads pattern
          ["urn:epc:tag:gid-96:1.7.3", "urn:epc:tag:gid-96:1.7", "urn:epc:tag:gid-96:1.7.4",
            "urn:epc:tag:gid-96:1.7.3"]).value =
          ["urn:epc:tag:gid-96:1.7.3", "urn:epc:tag:gid-96:1.7.3"] ∧
        acceptedReads (({ config := { minParallelBatch := 2 } } : Engine).classifyBatch including
          ["urn:epc:tag:gid-96:1.7.3", "urn:epc:tag:gid-96:1.7", "urn:epc:tag:gid-96:1.7.4",
            "urn:epc:tag:gid-96:1.7.3"]).value =
          ["urn:epc:tag:gid-96:1.7.3", "urn:epc:tag:gid-96:1.7.3"] ∧
        Buckets.readsWith .rejected
          (({ config := { minParallelBatch := 2 } } : Engine).classifyBatch excluding
            ["urn:epc:tag:gid-96:1.7.3", "urn:epc:tag:gid-96:1.7", "urn:epc:tag:gid-96:1.7.4",
              "urn:epc:tag:gid-96:1.7.3"]).value =
          ["urn:epc:tag:gid-96:1.7.3", "urn:epc:tag:gid-96:1.7.3"] := by
  have hpattern : ∃ pattern, Pattern.parse .filter "urn:epc:pat:gid-96:1.*.[2-3]" = .ok pattern ∧
      (({ config := .sequential } : Engine).filterReads pattern
        ["urn:epc:tag:gid-96:1.7.3", "urn:epc:tag:gid-96:1.7", "urn:epc:tag:gid-96:1.7.4",
          "urn:epc:tag:gid-96:1.7.3"]).value =
        ["urn:epc:tag:gid-96:1.7.3", "urn:epc:tag:gid-96:1.7.3"] := ⟨_, rfl, rfl⟩
  obtain ⟨pattern, hpattern, hpassed⟩ := hpattern
  obtain ⟨including, excluding, hincluding, hexcluding, haccepted, hrejected, -⟩ :=
    filterReads_eq_cycles hpattern { config := .sequential }
      { config := { minParallelBatch := 2 } } { config := .lenient } "dock" ""
      ["urn:epc:tag:gid-96:1.7.3", "urn:epc:tag:gid-96:1.7", "urn:epc:tag:gid-96:1.7.4",
        "urn:epc:tag:gid-96:1.7.3"]
  exact ⟨pattern, including, excluding, hpattern, hincluding, hexcluding, hpassed,
    haccepted.symm.trans hpassed, hrejected.symm.trans hpassed⟩

end Engine

end EventCycle
