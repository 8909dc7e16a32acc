import SupremeOs.Automations.Service

/-!
# When edits take effect

After an edit of an automation has resolved, no trigger may start a version of
the automation from before that edit.  Two segments can break this.  A handler
that was suspended in an execution goes on with the automations it captured
when its event came in.  A reload can install a snapshot that was listed before
an edit which has resolved since.  In every run that contains neither, edits
take effect at once.
-/

namespace SupremeOs.Automations.AutomationService

open Support DomainModel List

/--
Every execution started with a version that is at least as new as the last
resolved edit of its automation, and that is enabled.
-/
def NoStaleStart (state : ServiceState) : Prop :=
  ∀ run ∈ state.started, run.settled ≤ run.stored.revision ∧ isActive run.stored.automation = true

/-- A snapshot has no active version from before a resolved edit. -/
def SnapshotFresh (state : ServiceState) (snapshot : List StoredAutomation) : Prop :=
  ∀ stored ∈ snapshot, isActive stored.automation = true →
    settledRevision state stored.automation.id ≤ stored.revision

def installsNext : Call → Option (List StoredAutomation)
  | .installing _ snapshot => some snapshot
  | _ => none

/--
A resumed call finds the automation it is about to start still loaded, and the
snapshot it is about to install fresh.
-/
def ResumesFresh (config : Config ServiceState Call) : Schedule Request Reply → Prop
  | .call _ => True
  | .resume index reply =>
    ∀ call ∈ config.pending[index]?,
      (∀ stored ∈ startsNext call reply, stored ∈ config.shared.automations) ∧
        ∀ snapshot ∈ installsNext call, SnapshotFresh config.shared snapshot

instance (state : ServiceState) : Decidable (NoStaleStart state) :=
  inferInstanceAs (Decidable (∀ run ∈ state.started, _))

instance (state : ServiceState) (snapshot : List StoredAutomation) :
    Decidable (SnapshotFresh state snapshot) := inferInstanceAs (Decidable (∀ stored ∈ snapshot, _))

instance (config : Config ServiceState Call) (label : Schedule Request Reply) :
    Decidable (ResumesFresh config label) := by
  unfold ResumesFresh
  split <;> infer_instance

/-- What is loaded is active and as new as the last resolved edit, and so was what started. -/
structure Current (state : ServiceState) : Prop where
  loaded : ∀ stored ∈ state.automations,
    settledRevision state stored.automation.id ≤ stored.revision ∧ isActive stored.automation = true
  started : NoStaleStart state

/-- An edit that has yet to resolve: no older version is in the store or the snapshot. -/
def EditKnown (state : ServiceState) : Call → Prop
  | .listing (.edit edit) =>
    edit.revision < state.revision ∧
      ∀ stored, state.store.get edit.id = some stored → edit.revision ≤ stored.revision
  | .installing (.edit edit) snapshot =>
    ∀ stored ∈ snapshot, stored.automation.id = edit.id → edit.revision ≤ stored.revision
  | _ => True

theorem current_constructed (store : AutomationStore) : Current (constructed store) :=
  ⟨by simp [constructed], by simp [NoStaleStart, constructed]⟩

variable {call : Call} {state : ServiceState}

theorem editKnown_of_plain (plain : Call.edit call = none) : EditKnown state call := by
  cases call with
  | listing reload => cases reload <;> simp [Call.edit] at plain; trivial
  | installing reload snapshot => cases reload <;> simp [Call.edit] at plain; trivial
  | _ => trivial

theorem EditKnown.mono {before after : ServiceState}
    (known : EditKnown before call) (later : before.revision ≤ after.revision)
    (kept : ∀ id stored, after.store.get id = some stored →
      before.store.get id = some stored ∨ before.revision ≤ stored.revision) :
    EditKnown after call := by
  cases call with
  | listing reload =>
    cases reload with
    | boot => trivial
    | edit edit =>
      refine ⟨Nat.lt_of_lt_of_le known.1 later, ?_⟩
      intro stored found
      rcases kept edit.id stored found with old | new
      · exact known.2 stored old
      · exact Nat.le_trans (Nat.le_of_lt known.1) new
  | installing reload snapshot =>
    cases reload with
    | boot => trivial
    | edit edit => exact known
  | _ => trivial

theorem Segment.current {state : ServiceState} {starts : Option StoredAutomation}
    {outcome : ServiceState × List Call} (segment : Segment state starts outcome)
    (current : Current state)
    (fresh : ∀ stored ∈ starts, stored ∈ state.automations) : Current outcome.1 := by
  constructor
  · intro stored member
    rw [segment.edits.automations] at member
    simp only [settledRevision, segment.edits.settled]
    exact current.loaded stored member
  · intro run member
    rcases segment.runs with same | ⟨stored, trigger, started, appended⟩
    · rw [same] at member
      exact current.started run member
    · rw [appended] at member
      rcases mem_append.mp member with old | new
      · exact current.started run old
      · rw [mem_singleton] at new
        subst new
        exact current.loaded stored (fresh stored started)

theorem Segment.editKnown {starts : Option StoredAutomation}
    {outcome : ServiceState × List Call} (segment : Segment state starts outcome)
    (known : EditKnown state call) : EditKnown outcome.1 call := by
  apply known.mono (Nat.le_of_eq segment.edits.revision.symm)
  intro id stored found
  rw [segment.edits.store] at found
  exact .inl found

theorem put_editKnown (pending : Put) (state : ServiceState)
    (known : EditKnown state call) : EditKnown (put pending state).1 call := by
  apply known.mono (Nat.le_succ _)
  intro id stored found
  simp only [put, AutomationStore.get_put] at found
  split at found
  · cases found
    exact .inr (Nat.le_refl _)
  · exact .inl found

theorem removeStored_editKnown (id : String) (state : ServiceState)
    (known : EditKnown state call) : EditKnown (removeStored id state).1 call := by
  apply known.mono (Nat.le_succ _)
  intro other stored found
  simp only [removeStored, AutomationStore.get_remove] at found
  split at found
  · cases found
  · exact .inl found

theorem put_known (pending : Put) (state : ServiceState) :
    ∀ call ∈ (put pending state).2, EditKnown (put pending state).1 call := by
  intro call member
  simp only [put, mem_singleton] at member
  subst member
  refine ⟨Nat.lt_succ_self _, ?_⟩
  intro stored found
  simp only [put, AutomationStore.get_put, if_true, Option.some.injEq] at found
  exact found ▸ Nat.le_refl _

theorem removeStored_known (id : String) (state : ServiceState) :
    ∀ call ∈ (removeStored id state).2, EditKnown (removeStored id state).1 call := by
  intro call member
  simp only [removeStored, mem_singleton] at member
  subst member
  refine ⟨Nat.lt_succ_self _, ?_⟩
  intro stored found
  simp [removeStored] at found

theorem listing_known {reload : Reload} (known : EditKnown state (.listing reload)) :
    EditKnown state (.installing reload state.store.list) := by
  cases reload with
  | boot => trivial
  | edit edit =>
    intro stored member owner
    apply known.2 stored
    rw [← owner]
    exact AutomationStore.get_of_mem_list member

theorem resolve_current {reload : Reload}
    {snapshot : List StoredAutomation} (current : Current state)
    (known : EditKnown state (.installing reload snapshot)) (fresh : SnapshotFresh state snapshot) :
    Current (resolve (setAutomations snapshot state) reload) := by
  cases reload with
  | boot =>
    refine ⟨?_, current.started⟩
    intro stored member
    rcases mem_filter.mp member with ⟨listed, active⟩
    exact ⟨fresh stored listed active, active⟩
  | edit edit =>
    refine ⟨?_, current.started⟩
    intro stored member
    rcases mem_filter.mp member with ⟨listed, active⟩
    refine ⟨?_, active⟩
    have before := fresh stored listed active
    show ((state.settled.set edit.id _).get stored.automation.id).getD 0 ≤ _
    rw [OrderedMap.get_set]
    split
    · rename_i owner
      rw [owner] at before
      exact Nat.max_le.mpr ⟨before, known stored listed owner⟩
    · exact before

theorem holds_step_of_fresh :
    ∀ config label next, Program.Holds Current EditKnown config → ResumesFresh config label →
      program.machine.step config label = some next → Program.Holds Current EditKnown next := by
  apply Program.holds_step
  · intro config request holds _
    rcases start_segment config.shared request with ⟨starts, loaded, segment⟩
    refine ⟨segment.current holds.1 loaded, ?_, ?_⟩
    · intro call member
      exact editKnown_of_plain (segment.calls call member)
    · intro call member
      exact segment.editKnown (holds.2 call member)
  · intro config before call after reply shared more holds split met resumed
    have known := holds.2 call (by simp [split])
    have others : ∀ other ∈ before ++ after, EditKnown config.shared other := by
      intro other member
      apply holds.2 other
      simp only [split, mem_append, mem_cons] at member ⊢
      tauto
    rcases met call (by simp [split]) with ⟨loaded, fresh⟩
    rcases resume_cases resumed with
      ⟨_, segment⟩ | ⟨pending, rfl, equal⟩ | ⟨id, rfl, equal⟩ | ⟨reload, rfl, equal⟩ |
        ⟨reload, snapshot, rfl, equal⟩
    · refine ⟨segment.current holds.1 loaded, ?_, ?_⟩
      · intro other member
        exact editKnown_of_plain (segment.calls other member)
      · intro other member
        exact segment.editKnown (others other member)
    · cases equal
      refine ⟨⟨holds.1.loaded, holds.1.started⟩, put_known pending config.shared, ?_⟩
      intro other member
      exact put_editKnown pending config.shared (others other member)
    · cases equal
      refine ⟨⟨holds.1.loaded, holds.1.started⟩, removeStored_known id config.shared, ?_⟩
      intro other member
      exact removeStored_editKnown id config.shared (others other member)
    · cases equal
      refine ⟨holds.1, ?_, others⟩
      intro other member
      rw [mem_singleton] at member
      subst member
      exact listing_known known
    · cases equal
      refine ⟨resolve_current holds.1 known (fresh snapshot rfl), by simp, ?_⟩
      intro other member
      apply (others other member).mono
      · cases reload <;> exact Nat.le_refl _
      · intro id stored found
        left
        cases reload <;> exact found

/--
In every run in which handlers go on to automations that are still loaded, and
reloads install fresh snapshots, no trigger starts an outdated version of an
automation.
-/
theorem edits_take_effect_of_fresh_resumes (store : AutomationStore)
    (labels : List (Schedule Request Reply))
    (fresh : program.machine.Guarded ResumesFresh (Program.idle (constructed store)) labels) :
    program.machine.Throughout (fun config => NoStaleStart config.shared)
      (Program.idle (constructed store)) labels :=
  (Machine.throughout_of_guarded holds_step_of_fresh
    (Program.holds_idle (current_constructed store)) fresh).mono
    fun _ holds => holds.1.started

namespace TwoReactions

def reacting (id : String) (actions : List AutomationAction) : Automation where
  id := id
  homeId := "home"
  name := id
  enabled := true
  triggers := [.keypadInput "hall" "top" .shortPress]
  conditions := []
  actions := actions
  engine := .supreme
  externalRef := none
  aiGenerated := false
  tags := []

/-- The first automation takes a minute. -/
def store : AutomationStore :=
  (AutomationStore.empty.put ⟨reacting "slow" [.delay 60000], 0⟩).put
    ⟨reacting "lights" [.sceneActivate "evening"], 0⟩

def press : Request := .event (.keypadInput ⟨"hall", "top", "07:30", .shortPress⟩)

/-- The button is pressed after the service has started. -/
def startAndPress : List (Schedule Request Reply) :=
  [.call .start, .resume 0 .completes, .resume 0 .completes, .call press]

end TwoReactions

/-- The lights are disabled after the button has been served, and it is pressed again. -/
theorem edit_between_presses_takes_effect :
    program.machine.Throughout (fun config => NoStaleStart config.shared)
      (Program.idle (constructed TwoReactions.store))
      (TwoReactions.startAndPress ++
        [.resume 0 .completes, .resume 0 .completes, .call (.setEnabled "lights" false),
          .resume 0 .completes, .resume 0 .completes, .resume 0 .completes,
          .resume 0 .completes, .call TwoReactions.press, .resume 0 .completes]) :=
  edits_take_effect_of_fresh_resumes TwoReactions.store _ (by decide)

/-- The lights are disabled while the first automation sleeps, and start after it. -/
theorem disabled_while_another_sleeps :
    ¬ ∀ (store : AutomationStore) (labels : List (Schedule Request Reply)),
      program.machine.Throughout (fun config => NoStaleStart config.shared)
        (Program.idle (constructed store)) labels := by
  intro claim
  have throughout := claim TwoReactions.store
    (TwoReactions.startAndPress ++
      [.call (.setEnabled "lights" false), .resume 1 .completes, .resume 1 .completes,
        .resume 1 .completes, .resume 1 .completes, .resume 0 .completes])
  have current := Machine.property_of_throughout throughout rfl
  revert current
  decide

end SupremeOs.Automations.AutomationService
