/-
Settings: how batches of reads are evaluated, and how strictly declarations are checked.

The settings of the usual engine are the default values of the fields, and every preset differs from
them in one field. Not every value can be run with: `validate` refuses the one setting under which
each batch would count as large, and `validate_eq_ok_iff` is what an engine keeps of that test.

As a document the settings are a record of batch settings and validation settings, which are records
themselves. Whatever is missing is as usual, so a document may hold just what it changes.
-/
import EventCycle.Fault
import EventCycle.Json.Reader
import EventCycle.Yaml.Reader

set_option autoImplicit false

namespace EventCycle

/-- The settings of an engine. In its interface they are an `EngineConfig`. -/
structure Config where
  /-- Whether large batches are evaluated by several workers. -/
  parallel : Bool := true
  /-- The size of the smallest batch that counts as large. -/
  minParallelBatch : Nat := 256
  /-- Whether group patterns that can claim the same tag are refused. If not, they are logged, and a
  tag goes to the first pattern that claims it. -/
  requireDisjointGroups : Bool := true
deriving DecidableEq, Repr

namespace Config

/-! ## Presets

Each differs from the usual settings in what it names, and in nothing else. -/

/-- Every batch is evaluated in order. -/
def sequential : Config := { parallel := false }

/-- Batches count as large early, for dense streams of reads: the preset `high_throughput`. -/
def highThroughput : Config := { minParallelBatch := 64 }

/-- Overlapping group patterns are let through. -/
def lenient : Config := { requireDisjointGroups := false }

/-! ## What the settings decide -/

/-- Whether a batch of that many reads is evaluated by several workers: the operation
`should_parallelize`. A batch of exactly the smallest size is large. -/
def evaluatesInParallel (config : Config) (reads : Nat) : Bool :=
  config.parallel && config.minParallelBatch ≤ reads

/-- Refuses settings that no engine can run with: every batch would count as large. The report names
the field as it stands in documents. -/
def validate (config : Config) : Except Fault Unit :=
  if config.minParallelBatch = 0 then
    .error (.invalidConfig "min_batch_size_for_parallelism must be greater than 0")
  else .ok ()

/-- Settings pass when batches have to hold something to count as large. -/
theorem validate_eq_ok_iff {config : Config} :
    config.validate = .ok () ↔ 0 < config.minParallelBatch := by
  unfold validate
  split
  · simp [*]
  · simp [Nat.pos_iff_ne_zero, *]

/-! ## Reading documents

What is usual is taken from the default values above, so that it is written down once. -/

/-- The settings for batches: whether large ones are shared among workers, and which ones are
large. -/
def decodeBatch? {V : Type} (format : DataFormat V) (value : V) : Option (Bool × Nat) :=
  let usual : Config := {}
  (format.record? ["enable_parallel", "min_batch_size_for_parallelism"] value).bind fun record =>
    (record.field? "enable_parallel" usual.parallel format.bool?).bind fun parallel =>
      (record.field? "min_batch_size_for_parallelism" usual.minParallelBatch format.count?).map
        fun minParallelBatch => (parallel, minParallelBatch)

/-- The settings for declarations: whether groups must be disjoint. -/
def decodeValidation? {V : Type} (format : DataFormat V) (value : V) : Option Bool :=
  let usual : Config := {}
  (format.record? ["require_disjoint_groups"] value).bind fun record =>
    record.field? "require_disjoint_groups" usual.requireDisjointGroups format.bool?

/-- The settings that a value of a data format spells. -/
def decode? {V : Type} (format : DataFormat V) (value : V) : Option Config :=
  let usual : Config := {}
  (format.record? ["batch", "validation"] value).bind fun record =>
    (record.field? "batch" (usual.parallel, usual.minParallelBatch) (decodeBatch? format)).bind
      fun (parallel, minParallelBatch) =>
        (record.field? "validation" usual.requireDisjointGroups (decodeValidation? format)).map
          fun requireDisjointGroups => { parallel, minParallelBatch, requireDisjointGroups }

/-- The settings that a JSON text spells. -/
def ofJson? (text : String) : Option Config := (Json.read? text).bind (decode? Json.dataFormat)

/-- The settings that a YAML text spells. A text without content spells the usual ones. -/
def ofYaml? (text : String) : Option Config := (Yaml.read? text).bind (decode? Yaml.dataFormat)

end Config

end EventCycle
