/-
What a batch of reads leaves in the log.

A batch is announced with its size. After that the only thing worth a line is a read that is no tag
identifier. Every include, exclude and group pattern of a cycle is tested on the read, but the read
is parsed once, before all of them, and it is the parsing that is logged. So such a read has one
line, however many patterns there are and whatever becomes of it, and as many lines as it has
places in the batch.

The argument takes one read first. The events of judging a read are those of parsing it
(`Cycle.events_classify`), and so are those of testing it against a pattern, unless the pattern is
a tag, which refuses every read unparsed (`Pattern.events_isMember`). What a run over the batch logs
then follows by induction on the reads (`Logged.events_forEach_of_parsing`): the malformed reads one
by one, with what is wrong with each, which is the list `malformed`.

The main statement is `Engine.lines_of_batch`, in terms of the lines that the events show. A batch
that several workers share leaves its announcement only; what they log of the reads is theirs.
-/
import EventCycle.Engine

set_option autoImplicit false

namespace EventCycle

variable {α β : Type}

/-! ## Lines of the log

Events are compared by what a user sees of them. The texts of the messages are written out here, and
that the events have them is part of what is proved. -/

/-- A line of the log: how much it matters, its message, and its fields with their texts. -/
structure LogLine where
  level : Level
  message : String
  fields : List (String × String)
deriving DecidableEq, Repr

namespace LogLine

/-- The line that an event shows. -/
def ofEvent (event : Event) : LogLine := ⟨event.level, event.message, event.fields⟩

/-- The line that announces a batch of that many reads. -/
def announcing (message : String) (reads : Nat) : LogLine :=
  ⟨.trace, message, [("reads", toString reads)]⟩

/-- The line about a text that is no tag identifier, with what is wrong with it. -/
def refusing (message : String) (refused : String × Pattern.Error) : LogLine :=
  ⟨.debug, message, [("tag", refused.1), ("error", refused.2.message)]⟩

end LogLine

/-- The lines of a computation, in the order of its events. -/
def Logged.lines (logged : Logged α) : List LogLine := logged.events.map .ofEvent

/-- What is made of a result afterwards shows no lines. -/
theorem Logged.lines_bind_pure (first : Logged α) (f : α → β) :
    (first >>= fun value => pure (f value)).lines = first.lines := by
  rw [lines, events_bind_pure, lines]

/-! ## Malformed reads

The list of them is the specification. It depends on the reads alone, and on no pattern. -/

/-- What is wrong with a read that is no tag identifier. -/
def malformed? (read : String) : Option (String × Pattern.Error) :=
  match Pattern.parse .tag read with
  | .ok _ => none
  | .error error => some (read, error)

/-- The reads of a batch that are no tag identifiers, in order and as often as they occur, each with
what is wrong with it. -/
def malformed (reads : List String) : List (String × Pattern.Error) := reads.filterMap malformed?

theorem malformed_cons (read : String) (reads : List String) :
    malformed (read :: reads) = (malformed? read).toList ++ malformed reads := by
  rw [malformed, List.filterMap_cons]
  cases malformed? read with
  | none => rfl
  | some entry => rfl

/-! ## One read

Whatever is done with a read starts by parsing it, and the rest is silent. -/

namespace Pattern

/-- Parsing a read logs what is wrong with it, if anything. -/
theorem events_readTag_eq (refused : String → Error → Event) (read : String) :
    (readTag refused read).events =
      (malformed? read).toList.map fun entry => refused entry.1 entry.2 := by
  rw [events_readTag, malformed?]
  cases parse .tag read with
  | ok tag => rfl
  | error error => rfl

/-- Testing a read against a filter or group pattern logs what parsing it does. -/
theorem events_isMember {pattern : Pattern} (h : pattern.usage ≠ .tag) (read : String) :
    (pattern.isMember read).events = (readTag .candidateRefused read).events := by
  rw [isMember, if_neg h, Logged.events_bind_pure]

/-- A tag refuses every read unparsed. -/
theorem events_isMember_of_tag {pattern : Pattern} (h : pattern.usage = .tag) (read : String) :
    (pattern.isMember read).events = [] := by
  rw [isMember, if_pos h, Logged.events_pure]

end Pattern

/-- **Judging a read logs what parsing it does,** and no pattern of the cycle adds to that. -/
theorem Cycle.events_classify (cycle : Cycle) (read : String) :
    (cycle.classify read).events = (Pattern.readTag .readRefused read).events := by
  rw [classify, Logged.events_bind_pure]

/-! ## A batch of reads

A run over a batch logs what its steps do, in order. Judging and filtering are two such runs; they
differ in the event that a refused read makes. -/

/-- **A run over the reads logs the malformed ones,** in order, if each read logs what parsing it
does. The induction is on the reads; a read that is a tag identifier adds nothing. -/
theorem Logged.events_forEach_of_parsing {refused : String → Pattern.Error → Event}
    {compute : String → Logged β}
    (hstep : ∀ read, (compute read).events = (Pattern.readTag refused read).events)
    (reads : List String) :
    (forEach reads compute).events =
      (malformed reads).map fun entry => refused entry.1 entry.2 := by
  induction reads with
  | nil => rfl
  | cons read reads ih =>
    rw [forEach_cons, events_bind, events_bind_pure, hstep, Pattern.events_readTag_eq, ih,
      malformed_cons, List.map_append]

theorem Logged.events_forEach_of_silent {compute : String → Logged β}
    (hstep : ∀ read, (compute read).events = []) (reads : List String) :
    (forEach reads compute).events = [] := by
  rw [events_forEach, List.flatMap_eq_nil_iff]
  exact fun read _ => hstep read

namespace Engine

variable {engine : Engine} {reads : List String} {compute : String → Logged β}

/-- Of a batch that several workers share, only the announcement is logged. -/
theorem lines_evaluate_in_parallel
    (h : engine.config.evaluatesInParallel reads.length = true) :
    (engine.evaluate reads compute).lines =
      [.announcing "evaluating batch in parallel" reads.length] := by
  rw [evaluate, if_pos h, Logged.lines_bind_pure]
  rfl

/-- A batch that is evaluated in order is announced, and then its reads are gone through. -/
theorem lines_evaluate_in_order
    (h : engine.config.evaluatesInParallel reads.length = false) :
    (engine.evaluate reads compute).lines =
      .announcing "evaluating batch sequentially" reads.length ::
        (Logged.forEach reads compute).lines := by
  have hnot : ¬ engine.config.evaluatesInParallel reads.length = true := by
    rw [h]
    exact Bool.false_ne_true
  rw [evaluate, if_neg hnot, Logged.lines, Logged.events_bind, Logged.events_record,
    List.map_append]
  rfl

theorem lines_groupBatch (engine : Engine) (cycle : Cycle) (reads : List String) :
    (engine.groupBatch cycle reads).lines = (engine.classifyBatch cycle reads).lines := by
  rw [groupBatch, Logged.lines_bind_pure]

/-- **A batch of which each read logs what parsing it does** is announced, and then each malformed
read has a line. Judging and filtering differ in the event that they make of a refused read, and so
the event and the message that it shows are parameters. -/
theorem lines_evaluate_of_parsing (refused : String → Pattern.Error → Event) {message : String}
    (h : engine.config.evaluatesInParallel reads.length = false)
    (hstep : ∀ read, (compute read).events = (Pattern.readTag refused read).events)
    (hshown : ∀ text error,
      LogLine.ofEvent (refused text error) = .refusing message (text, error)) :
    (engine.evaluate reads compute).lines =
      .announcing "evaluating batch sequentially" reads.length ::
        (malformed reads).map (.refusing message) := by
  have hlines : (Logged.forEach reads compute).lines =
      (malformed reads).map (.refusing message) := by
    rw [Logged.lines, Logged.events_forEach_of_parsing hstep, List.map_map]
    exact List.map_congr_left fun entry _ => hshown entry.1 entry.2
  rw [lines_evaluate_in_order h, hlines]

/-- The lines of judging a batch in order. -/
theorem lines_classifyBatch_in_order (cycle : Cycle)
    (h : engine.config.evaluatesInParallel reads.length = false) :
    (engine.classifyBatch cycle reads).lines =
      .announcing "evaluating batch sequentially" reads.length ::
        (malformed reads).map (.refusing "read is not a valid tag identifier") := by
  refine lines_evaluate_of_parsing .readRefused h ?_ fun text error => rfl
  intro read
  rw [Logged.events_bind_pure, Cycle.events_classify]

/-- The lines of filtering a batch in order by a filter or group pattern. -/
theorem lines_filterReads_in_order {pattern : Pattern} (husage : pattern.usage ≠ .tag)
    (h : engine.config.evaluatesInParallel reads.length = false) :
    (engine.filterReads pattern reads).lines =
      .announcing "evaluating batch sequentially" reads.length ::
        (malformed reads).map (.refusing "candidate is not a valid tag identifier") := by
  rw [filterReads, Logged.lines_bind_pure]
  refine lines_evaluate_of_parsing .candidateRefused h ?_ fun text error => rfl
  intro read
  rw [Logged.events_bind_pure, Pattern.events_isMember husage]

/-- A tag is tested on no read, so only the announcement is left. -/
theorem lines_filterReads_of_tag {pattern : Pattern} (husage : pattern.usage = .tag)
    (h : engine.config.evaluatesInParallel reads.length = false) :
    (engine.filterReads pattern reads).lines =
      [.announcing "evaluating batch sequentially" reads.length] := by
  rw [filterReads, Logged.lines_bind_pure, lines_evaluate_in_order h, Logged.lines,
    Logged.events_forEach_of_silent, List.map_nil]
  intro read
  rw [Logged.events_bind_pure, Pattern.events_isMember_of_tag husage]

/-- **Every malformed read is logged once,** however many patterns there are. A batch that is
evaluated in order is announced with its size, and then each of its reads that is no tag identifier
has a line, in the order of the batch and as often as it occurs, with its text and what is wrong
with it. There is no other line, whether the reads are judged and bucketed by a cycle or tested
against a filter or group pattern; tested against a tag, they have none. A batch that is shared by
several workers is announced, and nothing else is logged here. -/
theorem lines_of_batch (engine : Engine) (cycle : Cycle) (pattern : Pattern)
    (reads : List String) :
    (engine.config.evaluatesInParallel reads.length = false →
      (engine.classifyBatch cycle reads).lines =
          .announcing "evaluating batch sequentially" reads.length ::
            (malformed reads).map (.refusing "read is not a valid tag identifier") ∧
        (engine.groupBatch cycle reads).lines =
          .announcing "evaluating batch sequentially" reads.length ::
            (malformed reads).map (.refusing "read is not a valid tag identifier") ∧
        (pattern.usage ≠ .tag →
          (engine.filterReads pattern reads).lines =
            .announcing "evaluating batch sequentially" reads.length ::
              (malformed reads).map (.refusing "candidate is not a valid tag identifier")) ∧
        (pattern.usage = .tag →
          (engine.filterReads pattern reads).lines =
            [.announcing "evaluating batch sequentially" reads.length])) ∧
      (engine.config.evaluatesInParallel reads.length = true →
        (engine.classifyBatch cycle reads).lines =
            [.announcing "evaluating batch in parallel" reads.length] ∧
          (engine.groupBatch cycle reads).lines =
            [.announcing "evaluating batch in parallel" reads.length] ∧
          (engine.filterReads pattern reads).lines =
            [.announcing "evaluating batch in parallel" reads.length]) := by
  rw [lines_groupBatch]
  constructor
  · intro h
    refine ⟨lines_classifyBatch_in_order cycle h, lines_classifyBatch_in_order cycle h, ?_, ?_⟩
    · intro husage
      exact lines_filterReads_in_order husage h
    · intro husage
      exact lines_filterReads_of_tag husage h
  · intro h
    refine ⟨lines_evaluate_in_parallel h, lines_evaluate_in_parallel h, ?_⟩
    rw [filterReads, Logged.lines_bind_pure, lines_evaluate_in_parallel h]

/-- A batch with a text that is no pattern, twice, and a tag with too few fields: judged by a cycle
with patterns of all kinds, tested against a pattern of each usage, and shared by several workers.
-/
theorem lines_of_repeated_reads :
    ∃ cycle filter tag,
      (({} : Engine).compile
        { includes := ["urn:epc:pat:gid-96:1.*.*", "urn:epc:pat:gid-96:*.7.*"],
          excludes := ["urn:epc:pat:sscc:*.*"],
          groups := ["urn:epc:pat:gid-96:1.X.*", "urn:epc:pat:gid-96:2.*.*"] }).value =
          .ok cycle ∧
        Pattern.parse .filter "urn:epc:pat:gid-96:1.*.*" = .ok filter ∧
        Pattern.parse .tag "urn:epc:tag:gid-96:1.7.3" = .ok tag ∧
        (({ config := .sequential } : Engine).groupBatch cycle
          ["dock", "urn:epc:tag:gid-96:1.7.3", "urn:epc:tag:gid-96:1.7", "dock"]).lines =
          [.announcing "evaluating batch sequentially" 4,
            .refusing "read is not a valid tag identifier" ("dock", .segmentCount "dock" 1),
            .refusing "read is not a valid tag identifier"
              ("urn:epc:tag:gid-96:1.7", .arity "urn:epc:tag:gid-96:1.7" .gid96 2),
            .refusing "read is not a valid tag identifier" ("dock", .segmentCount "dock" 1)] ∧
        (({ config := .sequential } : Engine).filterReads filter ["dock", "dock"]).lines =
          [.announcing "evaluating batch sequentially" 2,
            .refusing "candidate is not a valid tag identifier" ("dock", .segmentCount "dock" 1),
            .refusing "candidate is not a valid tag identifier"
              ("dock", .segmentCount "dock" 1)] ∧
        (({ config := .sequential } : Engine).filterReads tag ["dock", "dock"]).lines =
          [.announcing "evaluating batch sequentially" 2] ∧
        (({ config := { minParallelBatch := 2 } } : Engine).classifyBatch cycle
          ["dock", "dock"]).lines = [.announcing "evaluating batch in parallel" 2] := by
  have hcycle : ∃ cycle, (({} : Engine).compile
      { includes := ["urn:epc:pat:gid-96:1.*.*", "urn:epc:pat:gid-96:*.7.*"],
        excludes := ["urn:epc:pat:sscc:*.*"],
        groups := ["urn:epc:pat:gid-96:1.X.*", "urn:epc:pat:gid-96:2.*.*"] }).value =
        .ok cycle := ⟨_, rfl⟩
  have hfilter : ∃ filter, Pattern.parse .filter "urn:epc:pat:gid-96:1.*.*" = .ok filter ∧
      filter.usage = .filter := ⟨_, rfl, rfl⟩
  have htag : ∃ tag, Pattern.parse .tag "urn:epc:tag:gid-96:1.7.3" = .ok tag ∧
      tag.usage = .tag := ⟨_, rfl, rfl⟩
  obtain ⟨cycle, hcycle⟩ := hcycle
  obtain ⟨filter, hfilter, hfilterUsage⟩ := hfilter
  obtain ⟨tag, htag, htagUsage⟩ := htag
  have hnotTag : filter.usage ≠ .tag := by
    rw [hfilterUsage]
    decide
  obtain ⟨-, hgrouped, -, -⟩ := (lines_of_batch { config := .sequential } cycle filter
    ["dock", "urn:epc:tag:gid-96:1.7.3", "urn:epc:tag:gid-96:1.7", "dock"]).1 rfl
  obtain ⟨-, -, hfiltered, -⟩ :=
    (lines_of_batch { config := .sequential } cycle filter ["dock", "dock"]).1 rfl
  obtain ⟨-, -, -, hsilent⟩ :=
    (lines_of_batch { config := .sequential } cycle tag ["dock", "dock"]).1 rfl
  obtain ⟨hshared, -, -⟩ :=
    (lines_of_batch { config := { minParallelBatch := 2 } } cycle tag ["dock", "dock"]).2 rfl
  exact ⟨cycle, filter, tag, hcycle, hfilter, htag, hgrouped, hfiltered hnotTag,
    hsilent htagUsage, hshared⟩

end Engine

end EventCycle
