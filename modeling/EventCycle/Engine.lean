/-
The engine: compiles declarations and evaluates batches of reads.

An engine is nothing but settings that have passed validation, and what it keeps of the validation
is part of its type. A batch is evaluated read by read, each on its own, so its result does not
depend on whether several workers share the reads: `value_evaluate` has no case for the two ways,
and the lemmas on the three operations on batches are got from it alone. The log does depend on it.
What the workers log about single reads is theirs, and only the start of the batch is logged here.
-/
import EventCycle.Config.Document
import EventCycle.Cycle.Buckets
import EventCycle.Declaration.Source

set_option autoImplicit false

namespace EventCycle

/-- An engine, with the settings it runs with. It keeps nothing else, so two batches never see each
other. -/
structure Engine where
  config : Config := {}
  /-- Without reads there is no large batch. -/
  minParallelBatch_pos : 0 < config.minParallelBatch := by decide

namespace Engine

/-- The engine with the usual settings. -/
instance : Inhabited Engine := ⟨{}⟩

/-- The engine with those settings, if it can run with them: the operation `with_config`. -/
def ofConfig (config : Config) : Except Fault Engine :=
  match h : config.validate with
  | .ok () => .ok ⟨config, Config.validate_eq_ok_iff.mp h⟩
  | .error fault => .error fault

/-! ## Compiling

The settings are looked at once, for what becomes of overlaps. -/

/-- **Compiles a declaration:** the operation `compile`. The include patterns are read first, then
the exclude patterns, then the group patterns, and then overlaps are looked for. The first thing
wrong is reported. The log tells of a declaration only after it has passed. -/
def compile (engine : Engine) (declaration : Declaration) : Logged (Except CompileError Cycle) :=
  match Filter.compile declaration.includes declaration.excludes with
  | .error error => pure (.error (.pattern error))
  | .ok filter => do
    match ← Grouping.compile declaration.groups engine.config.requireDisjointGroups with
    | .error error => return .error error
    | .ok grouping =>
      Logged.record (.cycleCompiled declaration.name filter.includes.length filter.excludes.length
        grouping.patterns.length)
      return .ok { name := declaration.name, filter, grouping }

/-! ## Evaluating batches

The three operations differ in what they compute for a read and what they make of the results. How
the work is shared is in `evaluate` alone. -/

/-- Evaluates every read of a batch, and yields the results in the order of the reads: the operation
`map_batch`. Several workers share a large batch, and the log then holds none of what they log. -/
def evaluate {α : Type} (engine : Engine) (reads : List String) (compute : String → Logged α) :
    Logged (List α) :=
  if engine.config.evaluatesInParallel reads.length then do
    Logged.record (.batchInParallel reads.length)
    return reads.map fun read => (compute read).value
  else do
    Logged.record (.batchInOrder reads.length)
    Logged.forEach reads compute

/-- The reads that belong to a pattern, in order: the operation `filter_reads`. -/
def filterReads (engine : Engine) (pattern : Pattern) (reads : List String) :
    Logged (List String) := do
  let passed ← engine.evaluate reads fun read => do
    let isMember ← pattern.isMember read
    return if isMember then some read else none
  return passed.filterMap id

/-- What becomes of every read of a batch, in order: the operation `classify_batch`. -/
def classifyBatch (engine : Engine) (cycle : Cycle) (reads : List String) :
    Logged (List ClassifiedRead) :=
  engine.evaluate reads fun read => do
    let verdict ← cycle.classify read
    return { read, verdict }

/-- The reads of a batch in buckets: the operation `group_batch`. -/
def groupBatch (engine : Engine) (cycle : Cycle) (reads : List String) : Logged Buckets := do
  let classified ← engine.classifyBatch cycle reads
  return Buckets.ofList classified

/-! ## What a batch yields

The values, without the log. None of the equations mentions the settings. -/

/-- **The results of a batch are those of its reads,** whoever evaluates them. -/
@[simp] theorem value_evaluate {α : Type} (engine : Engine) (reads : List String)
    (compute : String → Logged α) :
    (engine.evaluate reads compute).value = reads.map fun read => (compute read).value := by
  unfold evaluate
  split <;> rfl

/-- What passes is what belongs to the pattern, and it stays in order. The induction is on the
batch; a read that does not belong leaves nothing behind. -/
theorem value_filterReads (engine : Engine) (pattern : Pattern) (reads : List String) :
    (engine.filterReads pattern reads).value =
      reads.filter fun read => (pattern.isMember read).value := by
  simp only [filterReads, Logged.value_bind, Logged.value_pure, value_evaluate]
  induction reads with
  | nil => rfl
  | cons read reads ih =>
    rw [List.map_cons, List.filterMap_cons, List.filter_cons, ← ih]
    cases (pattern.isMember read).value <;> rfl

/-- Every read of a batch gets its own verdict. -/
theorem value_classifyBatch (engine : Engine) (cycle : Cycle) (reads : List String) :
    (engine.classifyBatch cycle reads).value =
      reads.map fun read => ⟨read, (cycle.classify read).value⟩ := by
  simp [classifyBatch]

end Engine

end EventCycle
