/-
A session: an engine, the declaration that is being put together, and the cycle in use.

Each command replaces one of the three. What fails leaves the session as it was
(`execute_of_refused`), so that a user who mistypes a pattern goes on with the cycle that was there.
The cycle stays in use while the engine and the declaration change, until the declaration is
compiled: `cycle_run` says of whole runs that the cycle in use is the one of the start or was
compiled at some point of the run.

What a single command can do is described once, by `Step`. `step_execute` proves the description
right, and what holds of runs follows from it by induction on the commands; no command is unfolded
again.
-/
import EventCycle.Engine

set_option autoImplicit false

namespace EventCycle

/-- The state of a session. It starts with the usual engine, an empty declaration, and a cycle that
takes every read into the default group. -/
structure Session where
  engine : Engine := {}
  declaration : Declaration := {}
  cycle : Cycle := {}

namespace Session

/-! ## Commands

Carrying out a command has two steps. `attempt` says which session the command asks for, or why it
cannot be had, and `proceed` goes on with that session or with the old one. -/

/-- Replaces the engine by one with those settings. -/
def configure (session : Session) (config : Config) : Except Fault Session :=
  (Engine.ofConfig config).map fun engine => { session with engine }

/-- Replaces the declaration. -/
def declare (session : Session) (declaration : Declaration) : Session :=
  { session with declaration }

/-- Compiles the declaration and puts the cycle into use. -/
def compile (session : Session) : Logged (Except CompileError Session) := do
  let compiled ← session.engine.compile session.declaration
  return compiled.map fun cycle => { session with cycle }

/-- What a user may ask of a session that would change it. -/
inductive Command where
  /-- Go on with an engine that has those settings. -/
  | configure (config : Config)
  /-- Go on with that declaration. -/
  | declare (declaration : Declaration)
  /-- Compile the declaration and use its cycle. -/
  | compile

/-- The session that a command asks for, or the report why there is none. -/
def attempt (session : Session) : Command → Logged (Except Fault Session)
  | .configure config => pure (session.configure config)
  | .declare declaration => pure (.ok (session.declare declaration))
  | .compile => do
    let compiled ← session.compile
    return compiled.mapError CompileError.fault

/-- The session to go on with after an attempt, whatever an attempt reports when it fails. -/
def proceed {ε : Type} (session : Session) (outcome : Except ε Session) : Session :=
  match outcome with
  | .ok next => next
  | .error _ => session

/-- **Carries out a command.** -/
def execute (session : Session) (command : Command) : Logged Session := do
  let outcome ← session.attempt command
  return session.proceed outcome

/-- Carries out commands, one after another. -/
def run (session : Session) : List Command → Logged Session
  | [] => pure session
  | command :: commands => do
    let next ← session.execute command
    next.run commands

/-! ## One command

Two descriptions of the same. `execute_of_refused` is about any command that fails; `Step` lists
what the commands do when they do not. -/

/-- What a command can do to a session: nothing, or replace the one part that it is about. -/
inductive Step (session : Session) : Command → Session → Prop where
  /-- The command fails, whichever it is. -/
  | refused {command : Command} {fault : Fault}
      (h : (session.attempt command).value = .error fault) : Step session command session
  /-- The settings are such that an engine can run with them. -/
  | configured {config : Config} {engine : Engine} (h : Engine.ofConfig config = .ok engine) :
      Step session (.configure config) { session with engine }
  /-- A declaration is never looked at before it is compiled. -/
  | declared (declaration : Declaration) :
      Step session (.declare declaration) { session with declaration }
  /-- The declaration compiles under the engine of the session. -/
  | compiled {cycle : Cycle}
      (h : (session.engine.compile session.declaration).value = .ok cycle) :
      Step session .compile { session with cycle }

theorem value_execute (session : Session) (command : Command) :
    (session.execute command).value = session.proceed (session.attempt command).value := rfl

/-- **What fails leaves the session as it was.** -/
theorem execute_of_refused {session : Session} {command : Command} {fault : Fault}
    (h : (session.attempt command).value = .error fault) :
    (session.execute command).value = session := by
  rw [value_execute, h]
  rfl

/-- **A command does nothing else than a step says.** -/
theorem step_execute (session : Session) (command : Command) :
    Step session command (session.execute command).value := by
  cases hattempt : (session.attempt command).value with
  | error fault =>
    rw [execute_of_refused hattempt]
    exact .refused hattempt
  | ok next =>
    rw [value_execute, hattempt, proceed]
    -- the attempt has succeeded, and for two of the commands so has what it rests on
    cases command with
    | configure config =>
      simp only [attempt, Logged.value_pure, configure] at hattempt
      cases hengine : Engine.ofConfig config with
      | error fault =>
        rw [hengine] at hattempt
        exact absurd hattempt (by simp [Except.map])
      | ok engine =>
        rw [hengine] at hattempt
        rw [← Except.ok.inj hattempt]
        exact .configured hengine
    | declare declaration =>
      rw [← Except.ok.inj hattempt]
      exact .declared declaration
    | compile =>
      simp only [attempt, compile, Logged.value_bind, Logged.value_pure] at hattempt
      cases hcycle : (session.engine.compile session.declaration).value with
      | error error =>
        rw [hcycle] at hattempt
        cases hattempt
      | ok cycle =>
        rw [hcycle] at hattempt
        rw [← Except.ok.inj hattempt]
        exact .compiled hcycle

/-! ## Runs

Inductions on the commands, with the session free, since each command starts from what the one
before it left. -/

theorem value_run_cons (session : Session) (command : Command) (commands : List Command) :
    (session.run (command :: commands)).value =
      ((session.execute command).value.run commands).value := rfl

/-- **A run of commands that all fail leaves the session as it was.** Each is refused by the same
session, because those before it changed nothing. -/
theorem run_of_refused {session : Session} {commands : List Command}
    (h : ∀ command ∈ commands, ∃ fault, (session.attempt command).value = .error fault) :
    (session.run commands).value = session := by
  induction commands with
  | nil => rfl
  | cons command commands ih =>
    obtain ⟨⟨fault, hfault⟩, hrest⟩ := List.forall_mem_cons.mp h
    rw [value_run_cons, execute_of_refused hfault]
    exact ih hrest

/-- After a run the cycle in use is the one from before it, or what compiling gave after some of the
commands, with the engine and the declaration of that moment. The induction is on the commands; only
a step that compiles gives a new cycle, and what later steps put into use is later in the run. -/
theorem cycle_run (session : Session) (commands : List Command) :
    (session.run commands).value.cycle = session.cycle ∨
      ∃ before, before <+: commands ∧
        ((session.run before).value.engine.compile (session.run before).value.declaration).value =
          .ok (session.run commands).value.cycle := by
  induction commands generalizing session with
  | nil => exact .inl rfl
  | cons command commands ih =>
    rw [value_run_cons]
    rcases ih (session.execute command).value with hkept | ⟨before, hbefore, hcompile⟩
    -- the rest of the run keeps the cycle, so it is the one that the first command left
    · rw [hkept]
      have hstep := step_execute session command
      generalize (session.execute command).value = next at hstep
      cases hstep with
      | refused h => exact .inl rfl
      | configured h => exact .inl rfl
      | declared declaration => exact .inl rfl
      | compiled h => exact .inr ⟨[], List.nil_prefix, h⟩
    · refine .inr ⟨command :: before, ?_, hcompile⟩
      exact (List.prefix_append_right_inj [command]).mpr hbefore

/-- **Every cycle that comes into use was compiled,** by the engine and from the declaration that
the session had at some point of the run. The cycle of the start is no exception: it is what the
usual engine makes of the empty declaration. -/
theorem cycle_run_start (commands : List Command) :
    ∃ before, before <+: commands ∧
      ((run {} before).value.engine.compile (run {} before).value.declaration).value =
        .ok (run {} commands).value.cycle := by
  rcases cycle_run {} commands with hkept | hcompiled
  · rw [hkept]
    exact ⟨[], List.nil_prefix, rfl⟩
  · exact hcompiled

end Session

end EventCycle
