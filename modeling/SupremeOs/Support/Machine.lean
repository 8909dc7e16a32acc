import Mathlib.Data.List.Basic

/-!
# Labelled machines, runs and guards

A `Machine` is a deterministic labelled transition function.  All the
nondeterminism of a system is put into its labels: which call is made, which
pending call continues, with what outcome.  A run is therefore determined by
its start and its list of labels, and can be evaluated.

`Guarded` says that every step of a run meets a condition on the state before
it, `Throughout` that a predicate holds in every state of the run.  The rules
below turn a statement about one step into a statement about every run.
-/

namespace SupremeOs.Support

/-- A labelled transition function; `none` means the label is not enabled. -/
structure Machine (State : Type*) (Label : Type*) where
  step : State → Label → Option State

namespace Machine

variable {State Label : Type*}

/-- Perform the labels in order. -/
def run (machine : Machine State Label) : State → List Label → Option State
  | state, [] => some state
  | state, label :: rest =>
    match machine.step state label with
    | some next => machine.run next rest
    | none => none

/-- Every step of the run meets `guard` in the state before it. -/
def Guarded (machine : Machine State Label) (guard : State → Label → Prop) :
    State → List Label → Prop
  | _, [] => True
  | state, label :: rest =>
    match machine.step state label with
    | some next => guard state label ∧ machine.Guarded guard next rest
    | none => True

/-- `property` holds in every state of the run, the first one included. -/
def Throughout (machine : Machine State Label) (property : State → Prop) : State → List Label → Prop
  | state, [] => property state
  | state, label :: rest =>
    property state ∧ match machine.step state label with
      | some next => machine.Throughout property next rest
      | none => True

/-- Every step of the run relates the state before it to the state after it. -/
def EachStep (machine : Machine State Label) (related : State → Label → State → Prop) :
    State → List Label → Prop
  | _, [] => True
  | state, label :: rest =>
    match machine.step state label with
    | some next => related state label next ∧ machine.EachStep related next rest
    | none => True

instance decidableGuarded (machine : Machine State Label)
    (guard : State → Label → Prop) [∀ state label, Decidable (guard state label)] :
    ∀ state labels, Decidable (machine.Guarded guard state labels)
  | _, [] => isTrue trivial
  | state, label :: rest =>
    match found : machine.step state label with
    | some next =>
      have := machine.decidableGuarded guard next rest
      decidable_of_iff (guard state label ∧ machine.Guarded guard next rest)
        (by simp only [Guarded, found])
    | none =>
      isTrue (by simp only [Guarded, found])

variable {machine : Machine State Label}
variable {guard : State → Label → Prop} {invariant property : State → Prop}

@[simp]
theorem run_nil (state : State) : machine.run state [] = some state := rfl

variable {start final : State} {labels : List Label}

theorem run_cons_eq_some {state : State} {label : Label} {rest : List Label} :
    machine.run state (label :: rest) = some final ↔ ∃ next, machine.step state label = some next ∧
        machine.run next rest = some final := by
  simp only [run]
  cases machine.step state label <;> simp

theorem guarded_cons {state next : State} {label : Label} {rest : List Label}
    (taken : machine.step state label = some next) :
    machine.Guarded guard state (label :: rest) ↔
      guard state label ∧ machine.Guarded guard next rest := by
  simp [Guarded, taken]

theorem guarded_of_forall_mem (every : ∀ label ∈ labels, ∀ state, guard state label) :
    machine.Guarded guard start labels := by
  induction labels generalizing start with
  | nil => trivial
  | cons label rest ih =>
    simp only [Guarded]
    cases machine.step start label with
    | none => trivial
    | some next =>
      exact ⟨every label (.head _) start, ih fun other member => every other (.tail _ member)⟩

theorem Guarded.and {other : State → Label → Prop}
    (left : machine.Guarded guard start labels) (right : machine.Guarded other start labels) :
    machine.Guarded (fun state label => guard state label ∧ other state label) start labels := by
  induction labels generalizing start with
  | nil => trivial
  | cons label rest ih =>
    simp only [Guarded] at left right ⊢
    cases step : machine.step start label with
    | none => trivial
    | some next =>
      simp only [step] at left right
      exact ⟨⟨left.1, right.1⟩, ih left.2 right.2⟩

theorem guarded_append {middle : State} {first second : List Label}
    (taken : machine.run start first = some middle) :
    machine.Guarded guard start (first ++ second) ↔
      machine.Guarded guard start first ∧ machine.Guarded guard middle second := by
  induction first generalizing start with
  | nil =>
    cases taken
    simp [Guarded]
  | cons label rest ih =>
    rcases run_cons_eq_some.mp taken with ⟨next, step, onward⟩
    rw [List.cons_append, guarded_cons step, guarded_cons step, ih onward, and_assoc]

theorem throughout_of_guarded (preserved : ∀ state label next, invariant state → guard state label →
      machine.step state label = some next → invariant next)
    {start : State} {labels : List Label}
    (holds : invariant start) (guarded : machine.Guarded guard start labels) :
    machine.Throughout invariant start labels := by
  induction labels generalizing start with
  | nil => exact holds
  | cons label rest ih =>
    refine ⟨holds, ?_⟩
    cases step : machine.step start label with
    | none => trivial
    | some next =>
      rw [guarded_cons step] at guarded
      exact ih (preserved start label next holds guarded.1 step) guarded.2

theorem throughout_of_step (preserved : ∀ state label next, invariant state →
      machine.step state label = some next → invariant next)
    (holds : invariant start) :
    machine.Throughout invariant start labels :=
  @throughout_of_guarded _ _ _ (fun _ _ => True) _
    (fun state label next sound _ => preserved state label next sound) _ _ holds
    (guarded_of_forall_mem fun _ _ _ => trivial)

/--
If, from a state that meets the invariant, a step that is as assumed leads to a
good state exactly when it meets the guard, then a run of such steps stays good
exactly when all of them meet the guard.
-/
theorem throughout_iff_guarded_of_assumed (invariant : State → Prop)
    (assumed : State → Label → Prop)
    (exact_step : ∀ state label next, invariant state → property state → assumed state label →
      machine.step state label = some next → (property next ↔ guard state label))
    (preserved : ∀ state label next, invariant state → property state → assumed state label →
      guard state label → machine.step state label = some next → invariant next)
    (holds : invariant start) (good : property start)
    (as_assumed : machine.Guarded assumed start labels) :
    machine.Throughout property start labels ↔ machine.Guarded guard start labels := by
  induction labels generalizing start with
  | nil => simp [Throughout, Guarded, good]
  | cons label rest ih =>
    simp only [Throughout, Guarded]
    cases step : machine.step start label with
    | none => simp [good]
    | some next =>
      rw [guarded_cons step] at as_assumed
      have here := exact_step start label next holds good as_assumed.1 step
      simp only [good, true_and]
      constructor
      · intro onward
        have goodNext : property next := by
          cases rest <;> simp only [Throughout] at onward
          · exact onward
          · exact onward.1
        have met := here.mp goodNext
        exact ⟨met, (ih (preserved start label next holds good as_assumed.1 met step)
          goodNext as_assumed.2).mp onward⟩
      · rintro ⟨met, onward⟩
        exact (ih (preserved start label next holds good as_assumed.1 met step)
          (here.mpr met) as_assumed.2).mpr onward

theorem throughout_iff_guarded (invariant : State → Prop)
    (exact_step : ∀ state label next, invariant state → property state →
      machine.step state label = some next → (property next ↔ guard state label))
    (preserved : ∀ state label next, invariant state → property state →
      guard state label → machine.step state label = some next → invariant next)
    (holds : invariant start) (good : property start) :
    machine.Throughout property start labels ↔ machine.Guarded guard start labels :=
  throughout_iff_guarded_of_assumed invariant (fun _ _ => True)
    (fun state label next sound fine _ => exact_step state label next sound fine)
    (fun state label next sound fine _ => preserved state label next sound fine)
    holds good (guarded_of_forall_mem fun _ _ _ => trivial)

theorem throughout_iff_guarded_of_step (exact_step : ∀ state label next, property state →
      machine.step state label = some next → (property next ↔ guard state label))
    (good : property start) :
    machine.Throughout property start labels ↔ machine.Guarded guard start labels :=
  throughout_iff_guarded (fun _ => True)
    (fun state label next _ => exact_step state label next)
    (fun _ _ _ _ _ _ _ => trivial) trivial good

theorem Throughout.mono {weaker : State → Prop}
    (throughout : machine.Throughout property start labels)
    (implies : ∀ state, property state → weaker state) :
    machine.Throughout weaker start labels := by
  induction labels generalizing start with
  | nil => exact implies start throughout
  | cons label rest ih =>
    simp only [Throughout] at throughout ⊢
    refine ⟨implies start throughout.1, ?_⟩
    cases step : machine.step start label with
    | none => trivial
    | some next =>
      simp only [step] at throughout
      exact ih throughout.2

theorem property_of_throughout (throughout : machine.Throughout property start labels)
    (taken : machine.run start labels = some final) :
    property final := by
  induction labels generalizing start with
  | nil =>
    simp only [run_nil, Option.some.injEq] at taken
    exact taken ▸ throughout
  | cons label rest ih =>
    rcases run_cons_eq_some.mp taken with ⟨next, step, taken⟩
    simp only [Throughout, step] at throughout
    exact ih throughout.2 taken

theorem invariant_of_run (preserved : ∀ state label next, invariant state → guard state label →
      machine.step state label = some next → invariant next)
    {start final : State} {labels : List Label}
    (holds : invariant start) (guarded : machine.Guarded guard start labels)
    (taken : machine.run start labels = some final) :
    invariant final :=
  property_of_throughout (throughout_of_guarded preserved holds guarded) taken

theorem eachStep_of_guarded {related : State → Label → State → Prop}
    (preserved : ∀ state label next, invariant state → guard state label →
      machine.step state label = some next → invariant next)
    (relates : ∀ state label next, invariant state → guard state label →
      machine.step state label = some next → related state label next)
    {start : State} {labels : List Label} (holds : invariant start)
    (guarded : machine.Guarded guard start labels) :
    machine.EachStep related start labels := by
  induction labels generalizing start with
  | nil => trivial
  | cons label rest ih =>
    simp only [EachStep]
    cases step : machine.step start label with
    | none => trivial
    | some next =>
      rw [guarded_cons step] at guarded
      exact ⟨relates start label next holds guarded.1 step,
        ih (preserved start label next holds guarded.1 step) guarded.2⟩

theorem eachStep_of_step {related : State → Label → State → Prop}
    (preserved : ∀ state label next, invariant state →
      machine.step state label = some next → invariant next)
    (relates : ∀ state label next, invariant state →
      machine.step state label = some next → related state label next)
    {start : State} {labels : List Label} (holds : invariant start) :
    machine.EachStep related start labels :=
  @eachStep_of_guarded _ _ _ (fun _ _ => True) _ _
    (fun state label next sound _ => preserved state label next sound)
    (fun state label next sound _ => relates state label next sound) _ _ holds
    (guarded_of_forall_mem fun _ _ _ => trivial)

/--
If the steps from states that meet an invariant are related exactly when they
meet the guard, all steps of a run are related exactly when all meet it.
-/
theorem eachStep_iff_guarded {related : State → Label → State → Prop}
    (preserved : ∀ state label next, invariant state →
      machine.step state label = some next → invariant next)
    (exact_step : ∀ state label next, invariant state →
      machine.step state label = some next → (related state label next ↔ guard state label))
    (holds : invariant start) :
    machine.EachStep related start labels ↔ machine.Guarded guard start labels := by
  induction labels generalizing start with
  | nil => exact Iff.rfl
  | cons label rest ih =>
    simp only [EachStep, Guarded]
    cases step : machine.step start label with
    | none => exact Iff.rfl
    | some next =>
      exact and_congr (exact_step start label next holds step)
        (ih (preserved start label next holds step))

theorem invariant_of_run_of_step (preserved : ∀ state label next, invariant state →
      machine.step state label = some next → invariant next)
    (holds : invariant start) (taken : machine.run start labels = some final) :
    invariant final :=
  @invariant_of_run _ _ _ (fun _ _ => True) _
    (fun state label next sound _ => preserved state label next sound) _ _ _ holds
    (guarded_of_forall_mem fun _ _ _ => trivial) taken

end Machine

namespace Machine

variable {State Label Record : Type*}

def recording (machine : Machine State Label) (note : State → Label → State → Record → Record) :
    Machine (State × Record) Label where
  step config label := (machine.step config.1 label).map fun next =>
    (next, note config.1 label next config.2)

variable {machine : Machine State Label} {note : State → Label → State → Record → Record}
variable {state : State} {record : Record} {labels : List Label}

theorem step_recording_eq_some {config after : State × Record} {label : Label} :
    (machine.recording note).step config label = some after ↔
      ∃ next, machine.step config.1 label = some next ∧
        (next, note config.1 label next config.2) = after :=
  Option.map_eq_some_iff

theorem recording_throughout_of_guarded {invariant : State → Record → Prop}
    {guard : State × Record → Label → Prop}
    (preserved : ∀ state record label next, invariant state record →
      guard (state, record) label → machine.step state label = some next →
      invariant next (note state label next record))
    (holds : invariant state record)
    (guarded : (machine.recording note).Guarded guard (state, record) labels) :
    (machine.recording note).Throughout (fun config => invariant config.1 config.2)
      (state, record) labels := by
  refine throughout_of_guarded ?_ holds guarded
  rintro ⟨before, noted⟩ label after sound met taken
  rcases step_recording_eq_some.mp taken with ⟨next, stepped, rfl⟩
  exact preserved before noted label next sound met stepped

end Machine

end SupremeOs.Support
