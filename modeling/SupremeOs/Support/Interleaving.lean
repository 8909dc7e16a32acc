import SupremeOs.Support.Machine

/-!
# Interleaved asynchronous calls

An asynchronous method of a single-threaded object runs from one await point
to the next without interruption; between two such segments any other segment
may run.  A `Program` lists these segments: `start` runs a request up to its
first await, `resume` runs a pending call from the await it is suspended at to
its next one.  The `machine` of a program performs the segments in an
arbitrary order, so its runs are all the interleavings at await points.

An invariant of such a machine has a part about the shared state and a part
about each pending call.  A segment has to establish both for its own call and
to leave the part of every other pending call intact: this is the rule
`holds_step`.
-/

namespace SupremeOs.Support

open List

/-- The segments of a set of asynchronous methods over one shared state. -/
structure Program (Shared Request Call Reply : Type*) where
  /-- Run a request up to its first await; the calls left pending are returned. -/
  start : Shared → Request → Shared × List Call
  /-- Continue a pending call with the reply it awaited. -/
  resume : Shared → Call → Reply → Option (Shared × List Call)

/-- A shared state together with the calls that are in flight. -/
structure Config (Shared Call : Type*) where
  shared : Shared
  pending : List Call

inductive Schedule (Request Reply : Type*) where
  /-- A caller makes a request. -/
  | call (request : Request)
  /-- The pending call at this position continues with this reply. -/
  | resume (index : Nat) (reply : Reply)

namespace Program

variable {Shared Request Call Reply : Type*}

def idle (shared : Shared) : Config Shared Call := ⟨shared, []⟩

/-- All interleavings of the segments of a program. -/
def machine (program : Program Shared Request Call Reply) :
    Machine (Config Shared Call) (Schedule Request Reply) where
  step
    | config, .call request =>
      let outcome := program.start config.shared request
      some ⟨outcome.1, config.pending ++ outcome.2⟩
    | config, .resume index reply =>
      match config.pending[index]? with
      | none => none
      | some call =>
        match program.resume config.shared call reply with
        | none => none
        | some (shared, more) =>
          some ⟨shared, config.pending.take index ++ more ++ config.pending.drop (index + 1)⟩

variable {program : Program Shared Request Call Reply}

variable {reply : Reply} {shared : Shared} {call : Call} {config : Config Shared Call}
    {request : Request} {invariant : Shared → Prop} {assertion : Shared → Call → Prop}

theorem step_call_eq_some {next : Config Shared Call} :
    program.machine.step config (.call request) = some next ↔
      next = ⟨(program.start config.shared request).1,
        config.pending ++ (program.start config.shared request).2⟩ := by
  simp only [machine, Option.some.injEq]
  exact eq_comm

theorem step_resume_eq_some {next : Config Shared Call} {index : Nat} :
    program.machine.step config (.resume index reply) = some next ↔ ∃ before call after shared more,
        config.pending = before ++ call :: after ∧ before.length = index ∧
        program.resume config.shared call reply = some (shared, more) ∧
        next = ⟨shared, before ++ more ++ after⟩ := by
  constructor
  · intro step
    simp only [machine] at step
    split at step
    · simp at step
    · rename_i call found
      split at step
      · simp at step
      · rename_i shared more resumed
        simp only [Option.some.injEq] at step
        rcases List.getElem?_eq_some_iff.mp found with ⟨bound, atIndex⟩
        refine ⟨config.pending.take index, call, config.pending.drop (index + 1),
          shared, more, ?_, ?_, resumed, step.symm⟩
        · rw [← atIndex, ← drop_eq_getElem_cons bound, take_append_drop]
        · exact length_take_of_le (Nat.le_of_lt bound)
  · rintro ⟨before, call, after, shared, more, split, rfl, resumed, rfl⟩
    simp [machine, split, resumed]

theorem getElem?_pending {before after : List Call}
    (split : config.pending = before ++ call :: after) :
    config.pending[before.length]? = some call := by
  simp [split]

theorem run_call (config : Config Shared Call) (request : Request)
    (rest : List (Schedule Request Reply)) :
    program.machine.run config (.call request :: rest) =
      program.machine.run ⟨(program.start config.shared request).1,
        config.pending ++ (program.start config.shared request).2⟩ rest := rfl

theorem mem_of_mem_pending {before after more : List Call} {other : Call}
    (member : other ∈ before ++ call :: after) (differs : other ≠ call) :
    other ∈ before ++ more ++ after := by
  simp only [mem_append, mem_cons] at member ⊢
  rcases member with left | same | right
  · exact .inl (.inl left)
  · exact absurd same differs
  · exact .inr right

theorem countP_pending (kind : Call → Bool) (before after more : List Call) (call : Call) :
    (before ++ more ++ after).countP kind + (if kind call then 1 else 0) =
      (before ++ call :: after).countP kind + more.countP kind := by
  simp only [countP_append, countP_cons]
  omega

def Holds (invariant : Shared → Prop) (assertion : Shared → Call → Prop)
    (config : Config Shared Call) : Prop :=
  invariant config.shared ∧ ∀ call ∈ config.pending, assertion config.shared call

theorem holds_idle (holds : invariant shared) : Holds invariant assertion (idle shared) := by
  exact ⟨holds, by simp [idle]⟩

/--
Every segment keeps the shared invariant, establishes the assertions of the
calls it leaves pending, and does not interfere with the other assertions.
-/
theorem holds_step {invariant : Shared → Prop} {assertion : Shared → Call → Prop}
    {guard : Config Shared Call → Schedule Request Reply → Prop}
    (onStart : ∀ config request, Holds invariant assertion config → guard config (.call request) →
      invariant (program.start config.shared request).1 ∧
        (∀ call ∈ (program.start config.shared request).2,
          assertion (program.start config.shared request).1 call) ∧ ∀ call ∈ config.pending,
          assertion (program.start config.shared request).1 call)
    (onResume : ∀ config before call after reply shared more, Holds invariant assertion config →
      config.pending = before ++ call :: after → guard config (.resume before.length reply) →
      program.resume config.shared call reply = some (shared, more) →
      invariant shared ∧ (∀ other ∈ more, assertion shared other) ∧
        ∀ other ∈ before ++ after, assertion shared other) :
    ∀ config label next, Holds invariant assertion config → guard config label →
      program.machine.step config label = some next → Holds invariant assertion next := by
  intro config label next holds met step
  cases label with
  | call request =>
    obtain rfl := step_call_eq_some.mp step
    rcases onStart config request holds met with ⟨kept, fresh, others⟩
    refine ⟨kept, ?_⟩
    intro call member
    rcases mem_append.mp member with old | new
    · exact others call old
    · exact fresh call new
  | resume index reply =>
    rcases step_resume_eq_some.mp step with
      ⟨before, call, after, shared, more, split, rfl, resumed, rfl⟩
    rcases onResume config before call after reply shared more holds split met resumed with
      ⟨kept, fresh, others⟩
    refine ⟨kept, ?_⟩
    intro other member
    simp only [mem_append] at member others
    rcases member with (left | middle) | right
    · exact others other (.inl left)
    · exact fresh other middle
    · exact others other (.inr right)

/-- A segment keeps the assertions of all calls, whichever are pending. -/
def Keeps (invariant : Shared → Prop) (assertion : Shared → Call → Prop) (shared : Shared)
    (outcome : Shared × List Call) : Prop :=
  (invariant outcome.1 ∧ ∀ call, assertion shared call → assertion outcome.1 call) ∧
    ∀ call ∈ outcome.2, assertion outcome.1 call

/-- The rule for segments that keep all assertions, if only calls that are allowed go on. -/
theorem holds_step_of_keeps {guard : Config Shared Call → Schedule Request Reply → Prop}
    (allowed : Shared → Call → Reply → Prop)
    (guarded : ∀ config index reply call, config.pending[index]? = some call →
      guard config (.resume index reply) → allowed config.shared call reply)
    (onStart : ∀ shared request, invariant shared →
      Keeps invariant assertion shared (program.start shared request))
    (onResume : ∀ shared call reply outcome, invariant shared → assertion shared call →
      allowed shared call reply → program.resume shared call reply = some outcome →
      Keeps invariant assertion shared outcome) :
    ∀ config label next, Holds invariant assertion config → guard config label →
      program.machine.step config label = some next → Holds invariant assertion next := by
  apply holds_step
  · intro config request holds _
    rcases onStart config.shared request holds.1 with ⟨⟨kept, others⟩, fresh⟩
    exact ⟨kept, fresh, fun call member => others call (holds.2 call member)⟩
  · intro config before call after reply shared more holds split met resumed
    have own : assertion config.shared call := holds.2 call (by simp [split])
    rcases onResume config.shared call reply (shared, more) holds.1 own
      (guarded config before.length reply call (getElem?_pending split) met) resumed with
      ⟨⟨kept, others⟩, fresh⟩
    refine ⟨kept, fresh, fun other member => others other (holds.2 other ?_)⟩
    rw [split]
    simp only [mem_append, mem_cons] at member ⊢
    exact member.imp_right .inr

/--
Each step is a call that is made while nothing is in flight and that has
returned when the next one is made; all it awaits settles with the same reply.
-/
def sequential (program : Program Shared Request Call Reply) (reply : Reply) :
    Machine Shared (Request × Nat) where
  step shared label :=
    match program.machine.run (idle shared)
        (.call label.1 :: List.replicate label.2 (.resume 0 reply)) with
    | some ⟨next, []⟩ => some next
    | some ⟨_, _ :: _⟩ | none => none

theorem step_sequential_eq_some {next : Shared} {count : Nat} :
    (program.sequential reply).step shared (request, count) = some next ↔
      program.machine.run (idle shared)
        (.call request :: List.replicate count (.resume 0 reply)) = some (idle next) := by
  simp only [sequential]
  split
  · rename_i after finished
    rw [finished]
    simp [idle]
  · rename_i after call rest unfinished
    rw [unfinished]
    simp [idle]
  · rename_i stuck
    rw [stuck]
    simp

/-- No operation awaits more than one thing at a time. -/
structure Single (program : Program Shared Request Call Reply) : Prop where
  start : ∀ shared request, (program.start shared request).2.length ≤ 1
  resume : ∀ shared call reply outcome, program.resume shared call reply = some outcome →
    outcome.2.length ≤ 1

/-- What the segments of one call establish and keep holds when it has returned. -/
theorem invariant_of_sequential (single : program.Single) {invariant : Config Shared Call → Prop}
    {next : Shared} {count : Nat}
    (started : invariant ⟨(program.start shared request).1, (program.start shared request).2⟩)
    (resumed : ∀ shared call outcome, invariant ⟨shared, [call]⟩ →
      program.resume shared call reply = some outcome → invariant ⟨outcome.1, outcome.2⟩)
    (step : (program.sequential reply).step shared (request, count) = some next) :
    invariant (idle next) := by
  rw [step_sequential_eq_some, run_call] at step
  have replies : program.machine.Guarded (fun _ label => label = .resume 0 reply)
      ⟨(program.start shared request).1, (program.start shared request).2⟩
      (List.replicate count (.resume 0 reply)) :=
    Machine.guarded_of_forall_mem fun label member _ => eq_of_mem_replicate member
  refine (@Machine.invariant_of_run _ _ _ _
    (fun config => config.pending.length ≤ 1 ∧ invariant config) ?_ _ _ _
    ⟨single.start shared request, started⟩ replies step).2
  rintro config label after ⟨short, holds⟩ rfl taken
  rcases step_resume_eq_some.mp taken with
    ⟨before, call, behind, onward, more, split, first, goesOn, rfl⟩
  obtain rfl := eq_nil_of_length_eq_zero first
  obtain rfl : behind = [] := by
    rw [split] at short
    exact eq_nil_of_length_eq_zero (by simpa using short)
  have alone : config = ⟨config.shared, [call]⟩ := by
    cases config
    simpa using split
  rw [alone] at holds
  simp only [nil_append, append_nil]
  exact ⟨single.resume _ _ _ _ goesOn, resumed _ _ _ holds goesOn⟩

end Program

end SupremeOs.Support
