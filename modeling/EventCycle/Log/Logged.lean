/-
The events that are logged, and values with the events that computing them logged.

An event says what happened. Its level, its message and its fields are read off it; a field is a
name and a text. How a line of the log is laid out is not said here, only what it is made of.

A computation that logs returns its events beside its value, in the order in which they happened, so
that both can be reasoned about. Computations are put together in sequence: `value_bind` and
`events_bind` say what a sequence yields, `value_forEach` and `events_forEach` what doing the same
with every item of a list yields. These are simp lemmas, and nothing outside this module looks into
`bind` or `forEach`.
-/
import EventCycle.Pattern.Parser

set_option autoImplicit false

namespace EventCycle

/-! ## Events

Events hold patterns and errors, not texts. What they show is made from these when the log is
written. -/

/-- How much an event matters. Those that are used, in rising order. -/
inductive Level where
  | trace
  | debug
  | warn
deriving DecidableEq, Repr

/-- The name of a level in the log. -/
def Level.name : Level → String
  | .trace => "TRACE"
  | .debug => "DEBUG"
  | .warn => "WARN"

/-- Something worth logging. -/
inductive Event where
  /-- A text that was tested against a pattern is not a tag identifier. -/
  | candidateRefused (text : String) (error : Pattern.Error)
  /-- A text that was read is not a tag identifier. -/
  | readRefused (text : String) (error : Pattern.Error)
  /-- Two group patterns can claim the same tag; the one declared first wins. -/
  | groupsOverlap (first second : Pattern)
  /-- A declaration was compiled into that many patterns of each kind. -/
  | cycleCompiled (name : String) (includes excludes groups : Nat)
  /-- A batch of that many reads is evaluated by several workers. -/
  | batchInParallel (reads : Nat)
  /-- A batch of that many reads is evaluated in order. -/
  | batchInOrder (reads : Nat)
deriving DecidableEq

namespace Event

/-- How much the event matters. A read that is no tag identifier is nothing unusual, since anything
may pass a reader; an overlap is worth a warning, since the order of the groups then counts. -/
def level : Event → Level
  | candidateRefused .. | readRefused .. | cycleCompiled .. => .debug
  | groupsOverlap .. => .warn
  | batchInParallel .. | batchInOrder .. => .trace

/-- What is said of the event. -/
def message : Event → String
  | candidateRefused .. => "candidate is not a valid tag identifier"
  | readRefused .. => "read is not a valid tag identifier"
  | groupsOverlap .. => "group patterns overlap, first match wins"
  | cycleCompiled .. => "compiled cycle declaration"
  | batchInParallel .. => "evaluating batch in parallel"
  | batchInOrder .. => "evaluating batch sequentially"

/-- The particulars of the event, by name. Patterns are logged as they are written. -/
def fields : Event → List (String × String)
  | candidateRefused text error | readRefused text error =>
    [("tag", text), ("error", error.message)]
  | groupsOverlap first second => [("first", first.text), ("second", second.text)]
  | cycleCompiled name includes excludes groups =>
    [("name", name), ("include", toString includes), ("exclude", toString excludes),
      ("groups", toString groups)]
  | batchInParallel reads | batchInOrder reads => [("reads", toString reads)]

end Event

/-! ## Logged values

The log is only ever added to, and no computation sees what was logged before it. -/

/-- A value, and the events of computing it. -/
structure Logged (α : Type) where
  value : α
  events : List Event

namespace Logged

variable {α β : Type}

/-- Logs one event. -/
def record (event : Event) : Logged Unit := ⟨(), [event]⟩

/-- Logs several events, in order. -/
def recordAll (events : List Event) : Logged Unit := ⟨(), events⟩

/-- A value without events, and one computation after another. -/
instance : Monad Logged where
  pure value := ⟨value, []⟩
  bind first next := ⟨(next first.value).value, first.events ++ (next first.value).events⟩

/-- The same computation for every item of a list, in order. It is written as two passes over the
list, one for each part of the result; `forEach_cons` says that this is one pass. -/
def forEach (items : List α) (compute : α → Logged β) : Logged (List β) :=
  ⟨items.map fun item => (compute item).value, items.flatMap fun item => (compute item).events⟩

/-! ## What a computation yields and logs

There is a lemma for the value and one for the events of each way of putting computations together.
-/

@[simp] theorem value_record (event : Event) : (record event).value = () := rfl

@[simp] theorem events_record (event : Event) : (record event).events = [event] := rfl

@[simp] theorem value_recordAll (events : List Event) : (recordAll events).value = () := rfl

@[simp] theorem events_recordAll (events : List Event) : (recordAll events).events = events := rfl

@[simp] theorem value_pure (value : α) : (pure value : Logged α).value = value := rfl

@[simp] theorem events_pure (value : α) : (pure value : Logged α).events = [] := rfl

@[simp] theorem value_bind (first : Logged α) (next : α → Logged β) :
    (first >>= next).value = (next first.value).value := rfl

@[simp] theorem events_bind (first : Logged α) (next : α → Logged β) :
    (first >>= next).events = first.events ++ (next first.value).events := rfl

/-- What is made of a result afterwards is not logged. -/
theorem events_bind_pure (first : Logged α) (f : α → β) :
    (first >>= fun value => pure (f value)).events = first.events := by
  rw [events_bind, events_pure, List.append_nil]

@[simp] theorem value_forEach (items : List α) (compute : α → Logged β) :
    (forEach items compute).value = items.map fun item => (compute item).value := rfl

@[simp] theorem events_forEach (items : List α) (compute : α → Logged β) :
    (forEach items compute).events = items.flatMap fun item => (compute item).events := rfl

/-- Doing something for every item is doing it for the first and then for the rest. -/
theorem forEach_cons (item : α) (items : List α) (compute : α → Logged β) :
    forEach (item :: items) compute = do
      let first ← compute item
      let rest ← forEach items compute
      return first :: rest := by
  show Logged.mk _ _ = Logged.mk _ _
  simp [forEach, pure]

end Logged

end EventCycle
