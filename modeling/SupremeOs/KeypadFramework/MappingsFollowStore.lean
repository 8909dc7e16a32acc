import SupremeOs.KeypadFramework.Service

/-!
# The mapping engine and the store

When nothing is in flight, the engine should walk over exactly the enabled
mappings of the store, apart from the memories of their firings.  There are two
writers of the engine's list: a reload replaces the list by a snapshot, and a
firing writes the mapping it was started with over the entry that has its id.
The hook of a firing is a third one, for the store.  In every run in which the
last reload installs a current snapshot, and a firing only ever writes over the
definition that it has itself, the engine follows the store.
-/

namespace SupremeOs.KeypadFramework.KeypadMappingService

open Support DomainModel List

def activeDefinitions (mappings : List StoredMapping) : List StoredMapping :=
  (mappings.map StoredMapping.definition).filter StoredMapping.enabled

variable (state : ServiceState)

/-- The engine has exactly the enabled mappings of the store, up to their memories. -/
def Follows : Prop :=
  state.mappings.map StoredMapping.definition = activeDefinitions state.store.list

/-- The engine follows the store whenever nothing is in flight. -/
def EngineFollows (config : Config ServiceState Call) : Prop :=
  config.shared.loaded = true → config.pending = [] → Follows config.shared

def WriteBack.KeepsDefinition (written : WriteBack) : Prop :=
  written.replaced.map StoredMapping.definition = some written.stored.definition

def NoDefinitionPutBack : Prop :=
  ∀ written ∈ state.writtenBack, written.KeepsDefinition

/-- A call that has yet to list the store, or that has listed what is in it now. -/
def WillReload : Call → Prop
  | .putting _ => True
  | .removing _ => True
  | .listing _ => True
  | .installing _ snapshot =>
    activeDefinitions snapshot = activeDefinitions state.store.list
  | _ => False

def installsNext : Call → Option (List StoredMapping)
  | .installing _ snapshot => some snapshot
  | _ => none

def ReloadsCurrent (config : Config ServiceState Call) (index : Nat) (call : Call) : Prop :=
  ∀ snapshot ∈ installsNext call,
    activeDefinitions snapshot = activeDefinitions config.shared.store.list ∨
      ∃ other ∈ config.pending.eraseIdx index, WillReload config.shared other

def engineEntry (stored : StoredMapping) : Option StoredMapping :=
  (state.mappings.findIdx? fun other => decide (other.id = stored.id)).bind
    fun index => state.mappings[index]?

def WritesOwnDefinition : Call → Reply → Prop
  | .firing firing, .remembers _ =>
    ∀ entry ∈ engineEntry state firing.stored, entry.definition = firing.stored.definition
  | .restoring _ stored, .completes =>
    (state.store.get stored.id).map StoredMapping.definition = some stored.definition
  | _, _ => True

def ResumesCurrent (config : Config ServiceState Call) : Schedule Request Reply → Prop
  | .call _ => True
  | .resume index reply =>
    ∀ call ∈ config.pending[index]?,
      ReloadsCurrent config index call ∧ WritesOwnDefinition config.shared call reply

instance (state : ServiceState) : (call : Call) → Decidable (WillReload state call) := by
  intro call
  unfold WillReload
  split <;> infer_instance

instance (state : ServiceState) :
    (call : Call) → (reply : Reply) → Decidable (WritesOwnDefinition state call reply) := by
  intro call reply
  unfold WritesOwnDefinition
  split <;> infer_instance

instance (config : Config ServiceState Call) (label : Schedule Request Reply) :
    Decidable (ResumesCurrent config label) :=
  match label with
  | .call _ => isTrue trivial
  | .resume index reply =>
    inferInstanceAs (Decidable (∀ call ∈ config.pending[index]?,
      (∀ snapshot ∈ installsNext call, _ ∨ ∃ other ∈ config.pending.eraseIdx index, _) ∧
        WritesOwnDefinition config.shared call reply))

theorem activeDefinitions_filter (mappings : List StoredMapping) :
    (mappings.filter StoredMapping.enabled).map StoredMapping.definition =
      activeDefinitions mappings := by
  simp only [activeDefinitions, filter_map]
  rfl

theorem writeBack_cases (stored : StoredMapping) (state : ServiceState) :
    writeBack stored state = state ∨ ∃ index entry, engineEntry state stored = some entry ∧
        state.mappings[index]? = some entry ∧ writeBack stored state = { state with
            mappings := state.mappings.set index stored
            writtenBack := state.writtenBack ++ [⟨some entry, stored⟩] } := by
  unfold writeBack engineEntry
  cases found : state.mappings.findIdx? fun other => decide (other.id = stored.id) with
  | none => exact .inl rfl
  | some index =>
    rcases findIdx?_eq_some_iff_getElem.mp found with ⟨bound, _, _⟩
    have entry := getElem?_eq_getElem bound
    exact .inr ⟨index, state.mappings[index], entry, entry, by dsimp only; rw [entry]⟩

variable {state : ServiceState} {stored : StoredMapping} {config : Config ServiceState Call}

theorem writeBack_definitions
    (own : ∀ entry ∈ engineEntry state stored, entry.definition = stored.definition) :
    (writeBack stored state).mappings.map StoredMapping.definition =
      state.mappings.map StoredMapping.definition := by
  rcases writeBack_cases stored state with same | ⟨index, entry, found, place, written⟩
  · rw [same]
  · rw [written]
    dsimp only
    rcases List.getElem?_eq_some_iff.mp place with ⟨bound, rfl⟩
    rw [map_set, ← own _ found]
    have kept := @set_getElem_self _ (state.mappings.map StoredMapping.definition) index
      (by simpa using bound)
    rwa [getElem_map] at kept

theorem writeBack_noDefinitionPutBack
    (own : ∀ entry ∈ engineEntry state stored, entry.definition = stored.definition)
    (kept : NoDefinitionPutBack state) : NoDefinitionPutBack (writeBack stored state) := by
  rcases writeBack_cases stored state with same | ⟨index, entry, found, _, written⟩
  · rw [same]
    exact kept
  · rw [written]
    intro last member
    rcases mem_append.mp member with old | new
    · exact kept last old
    · rw [mem_singleton] at new
      simp [new, WriteBack.KeepsDefinition, own entry found]

theorem restore_definitions (own : (state.store.get stored.id).map StoredMapping.definition =
      some stored.definition) :
    activeDefinitions (restore stored state).store.list = activeDefinitions state.store.list := by
  rcases Option.map_eq_some_iff.mp own with ⟨old, found, same⟩
  simp only [activeDefinitions, restore, KeyedStore.map_list_put _ found same]

theorem restore_noDefinitionPutBack
    (own : (state.store.get stored.id).map StoredMapping.definition = some stored.definition)
    (kept : NoDefinitionPutBack state) : NoDefinitionPutBack (restore stored state) := by
  intro last member
  rcases mem_append.mp member with old | new
  · exact kept last old
  · rw [mem_singleton] at new
    subst new
    exact own

structure SameMappings (before after : ServiceState) : Prop where
  store : activeDefinitions after.store.list = activeDefinitions before.store.list
  mappings : after.mappings.map StoredMapping.definition =
    before.mappings.map StoredMapping.definition
  loaded : after.loaded = before.loaded
  writtenBack : NoDefinitionPutBack before → NoDefinitionPutBack after

theorem SameMappings.rfl : SameMappings state state :=
  ⟨Eq.refl _, Eq.refl _, Eq.refl _, id⟩

theorem answer_sameMappings (state : ServiceState) (given : Answer) :
    SameMappings state (answer state given) :=
  ⟨rfl, rfl, rfl, id⟩

theorem putValidated_sameMappings (checked : Except Rejection StoredMapping)
    (state : ServiceState) : SameMappings state (putValidated checked state).1 := by
  cases checked with
  | ok stored => exact SameMappings.rfl
  | error rejection => exact answer_sameMappings state _

theorem start_sameMappings (schemas : Schemas) (state : ServiceState) (request : Request) :
    SameMappings state (start schemas state request).1 := by
  cases request with
  | create id input => exact putValidated_sameMappings _ state
  | _ => exact SameMappings.rfl

theorem afterGet_sameMappings (schemas : Schemas) (id : String) (current : StoredMapping)
    (state : ServiceState) (next : AfterGet) :
    SameMappings state (afterGet schemas id current state next).1 := by
  cases next with
  | update patch => exact putValidated_sameMappings _ state
  | remove => exact SameMappings.rfl

theorem applyBehaviorState_sameMappings (persists : Bool) {firing : MappingFiring}
    (next : KeypadMappingBehaviorState)
    (own : ∀ entry ∈ engineEntry state firing.stored, entry.definition = firing.stored.definition) :
    SameMappings state (applyBehaviorState persists firing next state).1 where
  store := by
    rcases writeBack_cases { firing.stored with behaviorState := next } state with
      same | ⟨_, _, _, _, written⟩
    · simp only [applyBehaviorState, same]
    · simp only [applyBehaviorState, written]
  mappings := writeBack_definitions own
  loaded := by
    rcases writeBack_cases { firing.stored with behaviorState := next } state with
      same | ⟨_, _, _, _, written⟩
    · simp only [applyBehaviorState, same]
    · simp only [applyBehaviorState, written]
  writtenBack := writeBack_noDefinitionPutBack own

theorem restore_sameMappings (own : (state.store.get stored.id).map StoredMapping.definition =
      some stored.definition) : SameMappings state (restore stored state) :=
  ⟨restore_definitions own, rfl, rfl, restore_noDefinitionPutBack own⟩

/-- Calls that do not belong to a reload change no mapping; the others do one thing each. -/
theorem resume_cases {schemas : Schemas} {persists : Bool}
    {call : Call} {reply : Reply} {outcome : ServiceState × List Call}
    (resumed : resume schemas persists state call reply = some outcome)
    (own : WritesOwnDefinition state call reply) :
    ((∀ other, ¬ WillReload other call) ∧ SameMappings state outcome.1) ∨
      (∃ stored, call = .putting stored ∧ outcome = put stored state) ∨
      (∃ id, call = .removing id ∧ outcome = removeStored id state) ∨
      (∃ reload, call = .listing reload ∧
        outcome = (state, [.installing reload state.store.list])) ∨
      ∃ reload snapshot, call = .installing reload snapshot ∧
        outcome = (resolve (setMappings snapshot state) reload, []) := by
  cases call with
  | putting stored =>
    cases reply <;> cases resumed
    exact .inr (.inl ⟨stored, rfl, rfl⟩)
  | removing id =>
    cases reply <;> cases resumed
    exact .inr (.inr (.inl ⟨id, rfl, rfl⟩))
  | listing reload =>
    cases reply <;> cases resumed
    exact .inr (.inr (.inr (.inl ⟨reload, rfl, rfl⟩)))
  | installing reload snapshot =>
    cases reply <;> cases resumed
    exact .inr (.inr (.inr (.inr ⟨reload, snapshot, rfl, rfl⟩)))
  | getting id next =>
    refine .inl ⟨fun _ => False.elim, ?_⟩
    cases reply <;> try cases resumed
    simp only [resume] at resumed
    split at resumed <;> cases resumed
    · exact answer_sameMappings state _
    · exact afterGet_sameMappings schemas id _ state next
  | firing firing =>
    refine .inl ⟨fun _ => False.elim, ?_⟩
    cases reply with
    | remembers next =>
      simp only [resume] at resumed
      split at resumed <;> cases resumed
      exact applyBehaviorState_sameMappings persists next own
    | _ => cases resumed; exact SameMappings.rfl
  | remembering firing next =>
    refine .inl ⟨fun _ => False.elim, ?_⟩
    cases reply <;> try cases resumed
    · simp only [resume] at resumed
      split at resumed <;> cases resumed <;> exact SameMappings.rfl
    · exact SameMappings.rfl
  | restoring firing stored =>
    refine .inl ⟨fun _ => False.elim, ?_⟩
    cases reply <;> cases resumed
    · exact restore_sameMappings own
    · exact SameMappings.rfl
  | performing firing =>
    refine .inl ⟨fun _ => False.elim, ?_⟩
    cases reply <;> cases resumed <;> exact SameMappings.rfl

/-- The engine follows the store, or a pending call will make it do so. -/
def Following (config : Config ServiceState Call) : Prop :=
  config.shared.loaded = true →
    Follows config.shared ∨ ∃ call ∈ config.pending, WillReload config.shared call

structure Serial (config : Config ServiceState Call) : Prop where
  following : Following config
  kept : NoDefinitionPutBack config.shared

theorem willReload_congr {before after : ServiceState}
    (same : activeDefinitions after.store.list = activeDefinitions before.store.list)
    (call : Call) : WillReload after call ↔ WillReload before call := by
  cases call <;> simp only [WillReload, same]

theorem Following.engineFollows (following : Following config) : EngineFollows config := by
  intro loaded idle
  rcases following loaded with follows | ⟨call, member, _⟩
  · exact follows
  · simp [idle] at member

theorem serial_constructed (store : MappingStore) : Serial (Program.idle (constructed store)) :=
  ⟨fun loaded => Bool.noConfusion loaded, fun _ member => (not_mem_nil member).elim⟩

theorem SameMappings.serial {state after : ServiceState} (same : SameMappings state after)
    {pending left : List Call} (serial : Serial ⟨state, pending⟩)
    (keeps : ∀ call ∈ pending, WillReload state call → call ∈ left) :
    Serial ⟨after, left⟩ := by
  refine ⟨fun loaded => ?_, same.writtenBack serial.kept⟩
  rw [same.loaded] at loaded
  rcases serial.following loaded with follows | ⟨call, member, reloads⟩
  · left
    show after.mappings.map _ = activeDefinitions after.store.list
    rw [same.mappings, same.store]
    exact follows
  · right
    exact ⟨call, keeps call member reloads, (willReload_congr same.store call).mpr reloads⟩

theorem following_of_new {before after : List Call} {call : Call}
    (reloads : WillReload state call) : Following ⟨state, before ++ [call] ++ after⟩ :=
  fun _ => .inr ⟨call, by simp, reloads⟩

theorem resolve_serial {reload : Reload} {snapshot : List StoredMapping} {left : List Call}
    (current : activeDefinitions snapshot = activeDefinitions state.store.list ∨
      ∃ other ∈ left, WillReload state other)
    (kept : NoDefinitionPutBack state) :
    Serial ⟨resolve (setMappings snapshot state) reload, left⟩ := by
  have store : (resolve (setMappings snapshot state) reload).store = state.store := by
    cases reload <;> rfl
  have mappings : (resolve (setMappings snapshot state) reload).mappings =
      snapshot.filter StoredMapping.enabled := by
    cases reload <;> rfl
  have writtenBack : (resolve (setMappings snapshot state) reload).writtenBack =
      state.writtenBack := by
    cases reload <;> rfl
  constructor
  · intro _
    rcases current with equal | ⟨other, member, reloads⟩
    · left
      simp only [Follows, store, mappings, activeDefinitions_filter, equal]
    · right
      exact ⟨other, member, (willReload_congr (by rw [store]) other).mpr reloads⟩
  · simp only [NoDefinitionPutBack, writtenBack]
    exact kept

variable {schemas : Schemas} {persists : Bool}

theorem serial_call {next : Config ServiceState Call} {request : Request} (serial : Serial config)
    (step : (program schemas persists).machine.step config (.call request) = some next) :
    Serial next := by
  cases Program.step_call_eq_some.mp step
  apply (start_sameMappings schemas config.shared request).serial serial
  intro call member _
  exact mem_append_left _ member

theorem serial_resume {next : Config ServiceState Call} {index : Nat} {reply : Reply}
    (serial : Serial config) (current : ResumesCurrent config (.resume index reply))
    (step : (program schemas persists).machine.step config (.resume index reply) = some next) :
    Serial next := by
  rcases Program.step_resume_eq_some.mp step with
    ⟨before, call, after, shared, more, split, rfl, resumed, rfl⟩
  rcases config with ⟨state, pending⟩
  dsimp only at split resumed
  subst split
  rcases current call (by simp) with ⟨reloads, own⟩
  rcases resume_cases resumed own with
    ⟨quiet, same⟩ | ⟨stored, rfl, equal⟩ | ⟨id, rfl, equal⟩ | ⟨reload, rfl, equal⟩ |
      ⟨reload, snapshot, rfl, equal⟩
  · apply same.serial serial
    intro other member will
    simp only [mem_append, mem_cons] at member ⊢
    rcases member with left | rfl | right
    · exact .inl (.inl left)
    · exact (quiet state will).elim
    · exact .inr right
  · cases equal
    exact ⟨following_of_new trivial, serial.kept⟩
  · cases equal
    exact ⟨following_of_new trivial, serial.kept⟩
  · cases equal
    exact ⟨following_of_new rfl, serial.kept⟩
  · cases equal
    apply resolve_serial _ serial.kept
    have given := reloads snapshot rfl
    simpa [eraseIdx_append_of_length_le] using given

theorem serial_step : ∀ config label next, Serial config → ResumesCurrent config label →
      (program schemas persists).machine.step config label = some next → Serial next := by
  intro config label next serial current step
  cases label with
  | call request => exact serial_call serial step
  | resume index reply => exact serial_resume serial current step

/--
In every run in which the last reload installs a current snapshot, and firings
write over their own definitions only, the engine follows the store and no
definition is put back.
-/
theorem engine_follows_mappings_of_current_resumes (schemas : Schemas) (persists : Bool)
    (store : MappingStore) (labels : List (Schedule Request Reply))
    (current : (program schemas persists).machine.Guarded ResumesCurrent
      (Program.idle (constructed store)) labels) :
    (program schemas persists).machine.Throughout
      (fun config => EngineFollows config ∧ NoDefinitionPutBack config.shared)
      (Program.idle (constructed store)) labels :=
  (Machine.throughout_of_guarded serial_step (serial_constructed store) current).mono
    fun _ serial => ⟨serial.following.engineFollows, serial.kept⟩

namespace FiringDuringUpdate

/-- A mapping that dims a lamp up and down in turn. -/
def dimmer : StoredMapping where
  id := "dimmer"
  homeId := "home"
  name := "old"
  enabled := true
  input := ⟨"hall", "top", .shortPress⟩
  conditions := []
  actions := []
  behavior := .alternate
  target := some ⟨"lamp", .brightness, 10, none⟩
  behaviorState := defaultBehaviorState
  constants := OrderedMap.empty

def store : MappingStore := KeyedStore.empty.put dimmer

/-- Only empty lists are ever parsed here. -/
def emptyLists : Schemas where
  conditions values := if values.isEmpty then some [] else none
  actions values := if values.isEmpty then some [] else none

def press : KeypadInputEvent := ⟨"hall", "top", "2026-01-01T00:00:00.000Z", .shortPress⟩

def rename : UpdateKeypadMappingInput :=
  ⟨some "new", none, none, none, none, none, none, none⟩

def boot : List (Schedule Request Reply) :=
  [.call .start, .resume 0 .completes, .resume 0 .completes]

/-- The button is pressed, and the mapping is renamed while the firing reads its device. -/
def labels : List (Schedule Request Reply) :=
  boot ++ [.call (.onInputEvent press), .call (.update "dimmer" rename),
      .resume 1 .completes, .resume 1 .completes, .resume 1 .completes,
      .resume 1 .completes, .resume 0 (.remembers ⟨some .up, 0⟩), .resume 0 .completes]

end FiringDuringUpdate

/-- A firing, its memory stored by the hook, and an update after it. -/
theorem firing_then_update_follow : (program FiringDuringUpdate.emptyLists true).machine.Throughout
      (fun config => EngineFollows config ∧ NoDefinitionPutBack config.shared)
      (Program.idle (constructed FiringDuringUpdate.store))
      (FiringDuringUpdate.boot ++ [.call (.onInputEvent FiringDuringUpdate.press),
          .resume 0 (.remembers ⟨some .up, 0⟩), .resume 0 .completes, .resume 0 .completes,
          .resume 0 .completes, .call (.update "dimmer" FiringDuringUpdate.rename),
          .resume 0 .completes, .resume 0 .completes, .resume 0 .completes,
          .resume 0 .completes]) :=
  engine_follows_mappings_of_current_resumes _ _ _ _ (by decide)

/--
A firing that waits for a device while its mapping is renamed puts the old
mapping back into the engine, and nothing is in flight any more.
-/
theorem firing_puts_definition_back :
    ¬ ∀ (schemas : Schemas) (persists : Bool) (store : MappingStore)
      (labels : List (Schedule Request Reply)), (program schemas persists).machine.Throughout
        (fun config => EngineFollows config ∧ NoDefinitionPutBack config.shared)
        (Program.idle (constructed store)) labels := by
  intro claim
  have throughout := claim FiringDuringUpdate.emptyLists false FiringDuringUpdate.store
    FiringDuringUpdate.labels
  have follows := (Machine.property_of_throughout throughout rfl).1 rfl rfl
  revert follows
  unfold Follows
  decide

end SupremeOs.KeypadFramework.KeypadMappingService
