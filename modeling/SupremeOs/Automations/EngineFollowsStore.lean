import SupremeOs.Automations.EditsTakeEffect

/-!
# The engine and the store

When no operation of the service is in flight, the engine should have loaded
exactly the active automations of the store, and what an update patched should
be visible until another write touches it.  Every operation reads, writes, and
reloads the engine in separate steps, so an older snapshot can be installed
after a newer one, and a write can put an automation that was computed from an
outdated one.  In every run that contains neither, both properties hold.
-/

namespace SupremeOs.Automations

open Support DomainModel List

/-- The fields that an update can set. -/
inductive Field where
  | name
  | enabled
  | triggers
  | conditions
  | actions
  | engine
  | tags

def AutomationPatch.sets (patch : AutomationPatch) : Field → Bool
  | .name => patch.name.isSome
  | .enabled => patch.enabled.isSome
  | .triggers => patch.triggers.isSome
  | .conditions => patch.conditions.isSome
  | .actions => patch.actions.isSome
  | .engine => patch.engine.isSome
  | .tags => patch.tags.isSome

/-- Two automations have the same value in a field. -/
def Field.agrees (left right : Automation) : Field → Prop
  | .name => left.name = right.name
  | .enabled => left.enabled = right.enabled
  | .triggers => left.triggers = right.triggers
  | .conditions => left.conditions = right.conditions
  | .actions => left.actions = right.actions
  | .engine => left.engine = right.engine
  | .tags => left.tags = right.tags

instance (left right : Automation) : (field : Field) → Decidable (field.agrees left right) := by
  intro field
  unfold Field.agrees
  split <;> infer_instance

/-- The automation has the patch's value in a field that the patch sets. -/
def AutomationPatch.VisibleIn (patch : AutomationPatch) (automation : Automation)
    (field : Field) : Prop :=
  field.agrees (patch.applyTo automation) automation

theorem AutomationPatch.applyTo_visible (patch : AutomationPatch) (current : Automation)
    (field : Field) : patch.VisibleIn (patch.applyTo current) field := by
  cases field <;> simp only [VisibleIn, Field.agrees, applyTo]
  case name => cases patch.name <;> rfl
  case enabled => cases patch.enabled <;> rfl
  case triggers => cases patch.triggers <;> rfl
  case conditions => cases patch.conditions <;> rfl
  case actions => cases patch.actions <;> rfl
  case engine => cases patch.engine <;> rfl
  case tags => cases patch.tags <;> rfl

theorem AutomationPatch.visible_applyTo {patch earlier : AutomationPatch}
    {automation : Automation} {field : Field} (untouched : patch.sets field = false)
    (visible : earlier.VisibleIn automation field) :
    earlier.VisibleIn (patch.applyTo automation) field := by
  cases field <;>
    simp only [VisibleIn, Field.agrees, applyTo, sets, Option.isSome_eq_false_iff,
      Option.isNone_iff_eq_none] at untouched visible ⊢ <;>
    rw [untouched] <;> exact visible

def Write.touches (id : String) (field : Field) : Write → Bool
  | .created other => decide (other = id)
  | .patched other patch => decide (other = id) && patch.sets field
  | .removed other => decide (other = id)

namespace AutomationService

def loadedFrom (snapshot : List StoredAutomation) : List Automation :=
  (snapshot.filter fun stored => isActive stored.automation).map StoredAutomation.automation

/-- The stored automations that are enabled and run on this hub. -/
def activeIn (store : AutomationStore) : List Automation :=
  (store.list.map StoredAutomation.automation).filter isActive

/-- An operation of the service is pending, as opposed to the handling of an event. -/
def Call.isOperation : Call → Bool
  | .serving _ _ => false
  | .ticking _ _ _ _ _ _ _ => false
  | _ => true

/-- The engine has loaded exactly the active automations of the store. -/
def Follows (state : ServiceState) : Prop :=
  state.automations.map StoredAutomation.automation = activeIn state.store

variable (config : Config ServiceState Call)

/-- The engine follows the store whenever no operation is in flight. -/
def EngineFollows : Prop :=
  config.shared.loaded = true →
    (∀ call ∈ config.pending, Call.isOperation call = false) → Follows config.shared

/-- A field last touched by an update has the value that the update gave it. -/
def PatchesVisible (state : ServiceState) : Prop :=
  ∀ id field patch, state.written.find? (Write.touches id field) = some (.patched id patch) →
      ∃ stored, state.store.get id = some stored ∧ patch.VisibleIn stored.automation field

/-- A call that has yet to list the store, or that has listed what is in it now. -/
def WillReload (state : ServiceState) : Call → Prop
  | .putting _ => True
  | .removing _ => True
  | .listing _ => True
  | .installing _ snapshot => loadedFrom snapshot = activeIn state.store
  | _ => False

def ReloadsCurrent (index : Nat) (call : Call) : Prop :=
  ∀ snapshot ∈ installsNext call, loadedFrom snapshot = activeIn config.shared.store ∨
      ∃ other ∈ config.pending.eraseIdx index, WillReload config.shared other

/-- An update that is put results from the automation that is stored now. -/
def PutsCurrent (state : ServiceState) : Call → Prop
  | .putting (.patched current patch) =>
    ∀ stored ∈ state.store.get current.id, patch.applyTo stored.automation = patch.applyTo current
  | _ => True

def ResumesCurrent : Schedule Request Reply → Prop
  | .call _ => True
  | .resume index _ =>
    ∀ call ∈ config.pending[index]?,
      ReloadsCurrent config index call ∧ PutsCurrent config.shared call

instance (state : ServiceState) : (call : Call) → Decidable (WillReload state call) := by
  intro call
  unfold WillReload
  split <;> infer_instance

instance (state : ServiceState) : (call : Call) → Decidable (PutsCurrent state call) := by
  intro call
  unfold PutsCurrent
  split <;> infer_instance

instance (config : Config ServiceState Call) (label : Schedule Request Reply) :
    Decidable (ResumesCurrent config label) :=
  match label with
  | .call _ => isTrue trivial
  | .resume index _ =>
    inferInstanceAs (Decidable (∀ call ∈ config.pending[index]?,
      (∀ snapshot ∈ installsNext call, _ ∨ ∃ other ∈ config.pending.eraseIdx index, _) ∧
        PutsCurrent config.shared call))

theorem loadedFrom_list (store : AutomationStore) : loadedFrom store.list = activeIn store := by
  simp only [loadedFrom, activeIn, filter_map]
  rfl

/-- The engine follows the store, or a pending call will make it do so. -/
def Following : Prop :=
  config.shared.loaded = true →
    Follows config.shared ∨ ∃ call ∈ config.pending, WillReload config.shared call

theorem willReload_congr {left right : ServiceState} (same : left.store = right.store)
    (call : Call) : WillReload left call ↔ WillReload right call := by
  cases call <;> simp only [WillReload, same]

variable {state : ServiceState} {config : Config ServiceState Call}

theorem isOperation_of_willReload {call : Call}
    (reloads : WillReload state call) : Call.isOperation call = true := by
  cases call <;> first | rfl | exact reloads.elim

theorem Following.engineFollows (following : Following config) : EngineFollows config := by
  intro loaded idle
  rcases following loaded with follows | ⟨call, member, reloads⟩
  · exact follows
  · have busy := isOperation_of_willReload reloads
    rw [idle call member] at busy
    exact Bool.noConfusion busy

theorem Segment.following {state : ServiceState} {starts : Option StoredAutomation}
    {outcome : ServiceState × List Call} (segment : Segment state starts outcome)
    {pending left : List Call} (following : Following ⟨state, pending⟩)
    (keeps : ∀ call ∈ pending, WillReload state call → call ∈ left) :
    Following ⟨outcome.1, left⟩ := by
  intro loaded
  rw [segment.edits.loaded] at loaded
  rcases following loaded with follows | ⟨call, member, reloads⟩
  · left
    show outcome.1.automations.map _ = _
    rw [segment.edits.automations, segment.edits.store]
    exact follows
  · right
    exact ⟨call, keeps call member reloads, (willReload_congr segment.edits.store call).mpr reloads⟩

theorem following_of_new {before after : List Call} {call : Call}
    (reloads : WillReload state call) : Following ⟨state, before ++ [call] ++ after⟩ :=
  fun _ => .inr ⟨call, by simp, reloads⟩

theorem resolve_following {reload : Reload} {snapshot : List StoredAutomation} {left : List Call}
    (current : loadedFrom snapshot = activeIn state.store ∨
      ∃ other ∈ left, WillReload state other) :
    Following ⟨resolve (setAutomations snapshot state) reload, left⟩ := by
  have store : (resolve (setAutomations snapshot state) reload).store = state.store := by
    cases reload <;> rfl
  have automations : (resolve (setAutomations snapshot state) reload).automations =
      snapshot.filter fun stored => isActive stored.automation := by
    cases reload <;> rfl
  intro _
  rcases current with equal | ⟨other, member, reloads⟩
  · left
    simp only [Follows, store, automations]
    exact equal
  · right
    exact ⟨other, member, (willReload_congr store other).mpr reloads⟩

theorem patchesVisible_congr {left right : ServiceState} (store : left.store = right.store)
    (written : left.written = right.written) (visible : PatchesVisible right) :
    PatchesVisible left := by
  simp only [PatchesVisible, store, written]
  exact visible

theorem visible_of_untouched (visible : PatchesVisible state)
    {write : Write} {id : String} {field : Field} {patch : AutomationPatch}
    (untouched : Write.touches id field write = false)
    (last : (write :: state.written).find? (Write.touches id field) = some (.patched id patch)) :
    ∃ stored, state.store.get id = some stored ∧ patch.VisibleIn stored.automation field := by
  rw [find?_cons, untouched] at last
  exact visible id field patch last

theorem put_patchesVisible (pending : Put)
    (visible : PatchesVisible state) (current : PutsCurrent state (.putting pending)) :
    PatchesVisible (put pending state).1 := by
  intro id field earlier last
  show ∃ stored, (state.store.put _).get id = some stored ∧ _
  rw [AutomationStore.get_put]
  cases pending with
  | created automation =>
    by_cases owner : id = automation.id
    · -- A created automation shows no patch.
      simp [put, Put.write, Write.touches, owner] at last
    · have untouched : Write.touches id field (.created automation.id) = false := by
        simpa [Write.touches] using fun same => owner same.symm
      rw [if_neg (show id ≠ (Put.created automation).automation.id from owner)]
      exact visible_of_untouched visible untouched last
  | patched before patch =>
    cases touched : Write.touches id field (.patched before.id patch) with
    | true =>
      -- The write is the last one to touch the field, so its patch is the one in question.
      rw [put, Put.write, find?_cons, touched] at last
      simp only [Option.some.injEq, Write.patched.injEq] at last
      rcases last with ⟨rfl, rfl⟩
      exact ⟨_, if_pos rfl, patch.applyTo_visible before field⟩
    | false =>
      rcases visible_of_untouched visible touched last with ⟨stored, found, shown⟩
      by_cases owner : id = before.id
      · have untouched : patch.sets field = false := by
          simpa [Write.touches, owner] using touched
        refine ⟨⟨patch.applyTo before, state.revision⟩, if_pos owner, ?_⟩
        show earlier.VisibleIn (patch.applyTo before) field
        rw [← current stored (owner ▸ found)]
        exact AutomationPatch.visible_applyTo untouched shown
      · refine ⟨stored, ?_, shown⟩
        rw [if_neg (show id ≠ (Put.patched before patch).automation.id from owner), found]

theorem removeStored_patchesVisible (removed : String)
    (visible : PatchesVisible state) : PatchesVisible (removeStored removed state).1 := by
  intro id field patch last
  show ∃ stored, (state.store.remove removed).get id = some stored ∧ _
  rw [AutomationStore.get_remove]
  by_cases owner : id = removed
  · simp [removeStored, Write.touches, owner] at last
  · have untouched : Write.touches id field (.removed removed) = false := by
      simpa [Write.touches] using fun same : removed = id => owner same.symm
    rw [if_neg owner]
    exact visible_of_untouched visible untouched last

structure Serial (config : Config ServiceState Call) : Prop where
  following : Following config
  visible : PatchesVisible config.shared

theorem serial_constructed (store : AutomationStore) : Serial (Program.idle (constructed store)) :=
  ⟨fun loaded => Bool.noConfusion loaded, by simp [PatchesVisible, Program.idle, constructed]⟩

theorem serial_call {next : Config ServiceState Call} {request : Request} (serial : Serial config)
    (step : program.machine.step config (.call request) = some next) : Serial next := by
  cases Program.step_call_eq_some.mp step
  rcases start_segment config.shared request with ⟨starts, _, segment⟩
  constructor
  · apply segment.following serial.following
    intro call member _
    exact mem_append_left _ member
  · exact patchesVisible_congr segment.edits.store segment.edits.written serial.visible

theorem serial_resume {next : Config ServiceState Call} {index : Nat} {reply : Reply}
    (serial : Serial config) (current : ResumesCurrent config (.resume index reply))
    (step : program.machine.step config (.resume index reply) = some next) :
    Serial next := by
  rcases Program.step_resume_eq_some.mp step with
    ⟨before, call, after, shared, more, split, rfl, resumed, rfl⟩
  rcases config with ⟨state, pending⟩
  dsimp only at split resumed
  subst split
  rcases current call (by simp) with ⟨reloads, puts⟩
  rcases resume_cases resumed with
    ⟨quiet, segment⟩ | ⟨pending, rfl, equal⟩ | ⟨id, rfl, equal⟩ | ⟨reload, rfl, equal⟩ |
      ⟨reload, snapshot, rfl, equal⟩
  · constructor
    · apply segment.following serial.following
      intro other member will
      simp only [mem_append, mem_cons] at member ⊢
      rcases member with left | rfl | right
      · exact .inl (.inl left)
      · cases other <;> first | exact will.elim | cases quiet
      · exact .inr right
    · exact patchesVisible_congr segment.edits.store segment.edits.written serial.visible
  · cases equal
    exact ⟨following_of_new trivial, put_patchesVisible pending serial.visible puts⟩
  · cases equal
    exact ⟨following_of_new trivial, removeStored_patchesVisible id serial.visible⟩
  · cases equal
    exact ⟨following_of_new (loadedFrom_list _), serial.visible⟩
  · cases equal
    constructor
    · apply resolve_following
      have given := reloads snapshot rfl
      simpa [eraseIdx_append_of_length_le] using given
    · apply patchesVisible_congr _ _ serial.visible
      · cases reload <;> rfl
      · cases reload <;> rfl

theorem serial_step : ∀ config label next, Serial config → ResumesCurrent config label →
      program.machine.step config label = some next → Serial next := by
  intro config label next serial current step
  cases label with
  | call request => exact serial_call serial step
  | resume index reply => exact serial_resume serial current step

/--
In every run in which the last reload installs a current snapshot, and updates
put the result of patching what is stored, the engine follows the store and
every patch stays visible until another write touches its fields.
-/
theorem engine_follows_store_of_current_resumes (store : AutomationStore)
    (labels : List (Schedule Request Reply))
    (current : program.machine.Guarded ResumesCurrent (Program.idle (constructed store)) labels) :
    program.machine.Throughout
      (fun config => EngineFollows config ∧ PatchesVisible config.shared)
      (Program.idle (constructed store)) labels :=
  (Machine.throughout_of_guarded serial_step (serial_constructed store) current).mono
    fun _ serial => ⟨serial.following.engineFollows, serial.visible⟩

namespace OverlappingEdits

def naming (name : String) : AutomationPatch :=
  ⟨some name, none, none, none, none, none, none⟩

def tagging (tag : String) : AutomationPatch :=
  ⟨none, none, none, none, none, none, some [tag]⟩

def input (name : String) : CreateAutomationInput where
  homeId := "home"
  name := name
  triggers := [.keypadInput "hall" "top" .shortPress]
  conditions := none
  actions := [.sceneActivate "evening"]
  engine := none
  enabled := none
  aiGenerated := none
  tags := none

def boot : List (Schedule Request Reply) :=
  [.call .start, .resume 0 .completes, .resume 0 .completes]

end OverlappingEdits

/-- Two updates whose writes follow one another, while an event is served. -/
theorem updates_in_turn_follow : program.machine.Throughout
      (fun config => EngineFollows config ∧ PatchesVisible config.shared)
      (Program.idle (constructed TwoReactions.store))
      (TwoReactions.startAndPress ++ [.call (.update "lights" (OverlappingEdits.naming "night")),
          .resume 1 .completes, .resume 1 .completes,
          .call (.update "lights" (OverlappingEdits.tagging "hall")),
          .resume 2 .completes, .resume 2 .completes, .resume 1 .completes,
          .resume 2 .completes, .resume 1 .completes, .resume 1 .completes]) :=
  engine_follows_store_of_current_resumes TwoReactions.store _ (by decide)

/--
Of two overlapping creations, the one that listed the store first installs its
snapshot last; of two overlapping updates of disjoint fields, the second puts
the automation as it was before the first.
-/
theorem overlapping_edits_diverge :
    (¬ ∀ (store : AutomationStore) (labels : List (Schedule Request Reply)),
      program.machine.Throughout EngineFollows (Program.idle (constructed store)) labels) ∧
    ¬ ∀ (store : AutomationStore) (labels : List (Schedule Request Reply)),
      program.machine.Throughout (fun config => PatchesVisible config.shared)
        (Program.idle (constructed store)) labels := by
  constructor
  · intro claim
    have throughout := claim AutomationStore.empty
      (OverlappingEdits.boot ++ [.call (.create "a" (OverlappingEdits.input "a")),
          .call (.create "b" (OverlappingEdits.input "b")),
          .resume 0 .completes, .resume 0 .completes, .resume 1 .completes,
          .resume 1 .completes, .resume 1 .completes, .resume 0 .completes])
    have follows := Machine.property_of_throughout throughout rfl rfl (by decide)
    revert follows
    unfold Follows
    decide
  · intro claim
    have throughout := claim TwoReactions.store
      (OverlappingEdits.boot ++ [.call (.update "lights" (OverlappingEdits.naming "night")),
          .call (.update "lights" (OverlappingEdits.tagging "hall")),
          .resume 0 .completes, .resume 1 .completes, .resume 0 .completes,
          .resume 1 .completes])
    have visible := Machine.property_of_throughout throughout rfl
    rcases visible "lights" .name (OverlappingEdits.naming "night") rfl with
      ⟨stored, found, shown⟩
    cases found
    revert shown
    unfold AutomationPatch.VisibleIn
    decide

end AutomationService

end SupremeOs.Automations
