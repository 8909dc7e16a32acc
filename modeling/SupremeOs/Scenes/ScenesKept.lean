import SupremeOs.DomainModel.Ids
import SupremeOs.Scenes.SceneService
import SupremeOs.Support.Histories
import SupremeOs.Support.Updates

/-!
# Imports neither duplicate nor clobber

One scene at most should come from a source, none should come back after its
removal unless an import begins later, and when nothing is in flight name and
steps should be what the last edit, forced import or creation has made them.

What an operation has found or read may have changed when it writes.  All this
holds as long as it writes what it would make of the scene that is stored by
then, and creates one only while there is still none and none was removed since
the import began.
-/

namespace SupremeOs.Scenes

open SupremeOs.Support SupremeOs.DomainModel List OrderedMap

namespace SceneRecord

/-- The name that the scene with this identifier is given. -/
def setsName (id : String) : SceneRecord → Option (Option String)
  | .created scene _ => if scene.id = id then some (some scene.name) else none
  | .changed other (.updated patch) => if other = id then patch.name.map some else none
  | .changed other (.imported input true) => if other = id then some (some input.name) else none
  | .changed _ (.imported _ false) | .changed _ .sourceMissing | .removed _ => none

def setsSteps (id : String) : SceneRecord → Option (Option (List SceneStep))
  | .created scene _ => if scene.id = id then some (some scene.steps) else none
  | .changed other (.updated patch) => if other = id then patch.steps.map some else none
  | .changed other (.imported input true) => if other = id then some (some input.steps) else none
  | .changed _ (.imported _ false) | .changed _ .sourceMissing | .removed _ => none

end SceneRecord

/-- Both scenes come from this source. -/
def Scene.SameSource (scene other : Scene) : Prop :=
  scene.source ≠ none ∧ scene.source = other.source

instance (scene other : Scene) : Decidable (scene.SameSource other) :=
  inferInstanceAs (Decidable (_ ∧ _))

structure ScenesKept (config : Config SceneService SceneCall) : Prop where
  unique : ∀ id scene other second, config.shared.scenes.get id = some scene →
    config.shared.scenes.get other = some second → scene.SameSource second → id = other
  gone : ∀ scene, .removed scene ∈ config.shared.history →
    config.shared.scenes.get scene.id = none
  /-- An import that creates a scene of the same source again has begun after the removal. -/
  returns : ∀ earlier removed between scene began later,
    config.shared.history = (earlier ++ .removed removed :: between) ++
      .created scene began :: later →
    scene.SameSource removed → earlier.length < began
  name : config.pending = [] → ∀ id scene, config.shared.scenes.get id = some scene →
    lastSet (SceneRecord.setsName id) none config.shared.history = some scene.name
  steps : config.pending = [] → ∀ id scene, config.shared.scenes.get id = some scene →
    lastSet (SceneRecord.setsSteps id) none config.shared.history = some scene.steps

def SceneRecord.removedScene : SceneRecord → Option Scene
  | .removed scene => some scene
  | .created _ _ | .changed _ _ => none

/--
A scene is created for a source while no stored one has it and no removal of
one was recorded since the import began; and a scene that is written back is
what the operation would make of the one that is stored now.
-/
def writesScene (newId : Nat → String) (service : SceneService) : SceneCall → Prop
  | .putNew input source began =>
    (∀ entry ∈ service.scenes.entries,
      ¬(input.scene (newId service.drawn) source).SameSource entry.2) ∧
    ∀ removed ∈ (service.history.drop began).filterMap SceneRecord.removedScene,
      ¬(input.scene (newId service.drawn) source).SameSource removed
  | .put scene change =>
    ((service.scenes.get scene.id).map fun existing => change.apply existing) = some scene
  | .findImported _ _ _ _ | .findMissing _ | .getUpdated _ _ | .getRemoved _ | .remove _ => True

instance (newId : Nat → String) (service : SceneService) :
    ∀ call, Decidable (writesScene newId service call) := by
  intro call
  unfold writesScene
  split <;> infer_instance

/-- The condition on the call that goes on. -/
def sceneGuard (newId : Nat → String) (config : Config SceneService SceneCall) :
    Schedule SceneRequest Unit → Prop
  | .call _ => True
  | .resume index _ => ∀ call ∈ config.pending[index]?, writesScene newId config.shared call

instance (newId : Nat → String) (config : Config SceneService SceneCall) :
    ∀ label, Decidable (sceneGuard newId config label) := by
  intro label
  unfold sceneGuard
  split <;> infer_instance

structure ScenesSound (newId : Nat → String) (service : SceneService) : Prop where
  keyed : ∀ id scene, service.scenes.get id = some scene → scene.id = id
  drawn : ∀ id scene, service.scenes.get id = some scene →
    ∃ number < service.drawn, newId number = id
  removedDrawn : ∀ scene, .removed scene ∈ service.history →
    ∃ number < service.drawn, newId number = scene.id
  unique : ∀ id scene other second, service.scenes.get id = some scene →
    service.scenes.get other = some second → scene.SameSource second → id = other
  gone : ∀ scene, .removed scene ∈ service.history → service.scenes.get scene.id = none
  returns : ∀ earlier removed between scene began later,
    service.history = (earlier ++ .removed removed :: between) ++ .created scene began :: later →
    scene.SameSource removed → earlier.length < began
  name : ∀ id scene, service.scenes.get id = some scene →
    lastSet (SceneRecord.setsName id) none service.history = some scene.name
  steps : ∀ id scene, service.scenes.get id = some scene →
    lastSet (SceneRecord.setsSteps id) none service.history = some scene.steps

theorem Scene.SameSource.symm {scene other : Scene} (same : scene.SameSource other) :
    other.SameSource scene :=
  ⟨same.2 ▸ same.1, same.2.symm⟩

namespace SceneChange

variable {change : SceneChange} {existing : Scene}

@[simp]
theorem apply_source : (change.apply existing).source = existing.source := by
  cases change with
  | imported input force =>
    simp only [apply]
    split <;> rfl
  | sourceMissing | updated patch => rfl

theorem apply_unforced (input : CreateSceneInput) :
    ((SceneChange.imported input false).apply existing).name = existing.name ∧
      ((SceneChange.imported input false).apply existing).steps = existing.steps := by
  simp only [apply]
  split
  · exact ⟨rfl, rfl⟩
  · rename_i unchanged
    simp only [Bool.not_false, Bool.true_and, Bool.or_eq_true, decide_eq_true_eq, not_or,
      not_not] at unchanged
    exact ⟨unchanged.1.symm, (stepsText_injective unchanged.2).symm⟩

theorem setsName_apply (change : SceneChange) (existing : Scene) (id : String) :
    (SceneRecord.setsName id (.changed id change)).getD (some existing.name) =
      some (change.apply existing).name := by
  cases change with
  | imported input force =>
    cases force with
    | true => simp [SceneRecord.setsName, apply]
    | false => simp [SceneRecord.setsName, (apply_unforced input).1]
  | sourceMissing => rfl
  | updated patch =>
    simp only [SceneRecord.setsName, if_true, apply]
    cases patch.name <;> rfl

theorem setsSteps_apply (change : SceneChange) (existing : Scene) (id : String) :
    (SceneRecord.setsSteps id (.changed id change)).getD (some existing.steps) =
      some (change.apply existing).steps := by
  cases change with
  | imported input force =>
    cases force with
    | true => simp [SceneRecord.setsSteps, apply]
    | false => simp [SceneRecord.setsSteps, (apply_unforced input).2]
  | sourceMissing => rfl
  | updated patch =>
    simp only [SceneRecord.setsSteps, if_true, apply]
    cases patch.steps <;> rfl

theorem sets_other {id other : String} (differs : other ≠ id) :
    SceneRecord.setsName id (.changed other change) = none ∧
      SceneRecord.setsSteps id (.changed other change) = none := by
  cases change with
  | imported input force =>
    cases force <;> simp [SceneRecord.setsName, SceneRecord.setsSteps, differs]
  | sourceMissing => exact ⟨rfl, rfl⟩
  | updated patch => simp [SceneRecord.setsName, SceneRecord.setsSteps, differs]

end SceneChange

section Steps

variable {newId : Nat → String} {service : SceneService}

theorem scenesSound_initial (newId : Nat → String) : ScenesSound newId SceneService.initial where
  keyed := fun id scene found => by simp [SceneService.initial] at found
  drawn := fun id scene found => by simp [SceneService.initial] at found
  removedDrawn := fun _ member => absurd member not_mem_nil
  unique := fun id scene _ _ found => by simp [SceneService.initial] at found
  gone := fun _ member => absurd member not_mem_nil
  returns := fun earlier removed between scene began later split => by
    simp [SceneService.initial] at split
  name := fun id scene found => by simp [SceneService.initial] at found
  steps := fun id scene found => by simp [SceneService.initial] at found

theorem ScenesSound.put (sound : ScenesSound newId service) {scene : Scene}
    {record : SceneRecord} {count : Nat}
    (grows : service.drawn ≤ count)
    (drawn : ∃ number < count, newId number = scene.id)
    (source : ∀ id other, service.scenes.get id = some other → id ≠ scene.id →
      ¬scene.SameSource other)
    (kept : ∀ removed, .removed removed ∈ service.history → removed.id ≠ scene.id)
    (noRemoval : ∀ removed, record ≠ .removed removed)
    (returns : ∀ created began, record = .created created began →
      ∀ earlier removed between, service.history = earlier ++ .removed removed :: between →
        created.SameSource removed → earlier.length < began)
    (name : lastSet (SceneRecord.setsName scene.id) none (service.history ++ [record]) =
      some scene.name)
    (steps : lastSet (SceneRecord.setsSteps scene.id) none (service.history ++ [record]) =
      some scene.steps)
    (others : ∀ id, id ≠ scene.id → record.setsName id = none ∧ record.setsSteps id = none) :
    ScenesSound newId
      { scenes := service.scenes.set scene.id scene
        drawn := count
        history := service.history ++ [record] } := by
  have removed : ∀ other, .removed other ∈ service.history ++ [record] →
      .removed other ∈ service.history := by
    intro other member
    rcases mem_append.mp member with earlier | last
    · exact earlier
    · exact absurd (mem_singleton.mp last).symm (noRemoval other)
  have more : ∀ id, (∃ number < service.drawn, newId number = id) →
      ∃ number < count, newId number = id := by
    rintro id ⟨number, below, same⟩
    exact ⟨number, Nat.lt_of_lt_of_le below grows, same⟩
  refine ⟨?_, ?_, fun other member => more _ (sound.removedDrawn other (removed other member)),
    ?_, ?_, ?_, ?_, ?_⟩
  · exact forall_get_set rfl fun id found _ at_id => sound.keyed id found at_id
  · exact forall_get_set drawn
      fun id found _ at_id => more id (sound.drawn id found at_id)
  · exact unique_set (fun _ _ => Scene.SameSource.symm) source sound.unique
  · intro other member
    have earlier := removed other member
    rw [get_set, if_neg (kept other earlier)]
    exact sound.gone other earlier
  · intro earlier old between created began later split same
    rcases concat_eq_append_cons.mp split with ⟨before, last, _⟩ | ⟨middle, rfl, before⟩
    · exact returns created began last earlier old between before same
    · exact sound.returns earlier old between created began middle before same
  · refine forall_get_set name fun id found differs at_id => ?_
    rw [lastSet_concat, (others id differs).1, Option.getD_none]
    exact sound.name id found at_id
  · refine forall_get_set steps fun id found differs at_id => ?_
    rw [lastSet_concat, (others id differs).2, Option.getD_none]
    exact sound.steps id found at_id

theorem ScenesSound.putChange (sound : ScenesSound newId service) {scene : Scene}
    {change : SceneChange} (current : writesScene newId service (.put scene change)) :
    ScenesSound newId (service.putChange scene change) := by
  rcases Option.map_eq_some_iff.mp current with ⟨old, found, same⟩
  have sameSource : scene.source = old.source := by
    rw [← same]
    exact SceneChange.apply_source
  apply sound.put (Nat.le_refl _)
  · exact sound.drawn scene.id old found
  · rintro id other at_id differs ⟨named, equal⟩
    refine differs (sound.unique id other scene.id old at_id found ⟨?_, ?_⟩)
    · rwa [← equal]
    · rw [← equal, sameSource]
  · intro removed member equal
    have gone := sound.gone removed member
    rw [equal, found] at gone
    cases gone
  · simp
  · simp
  · rw [lastSet_concat, sound.name scene.id old found, SceneChange.setsName_apply, same]
  · rw [lastSet_concat, sound.steps scene.id old found, SceneChange.setsSteps_apply, same]
  · intro id differs
    exact SceneChange.sets_other differs.symm

theorem ScenesSound.putNew (sound : ScenesSound newId service)
    (distinct : Function.Injective newId) {input : CreateSceneInput}
    {source : Option SceneSource} {began : Nat}
    (current : writesScene newId service (.putNew input source began)) :
    ScenesSound newId (service.putNew newId input source began) := by
  have fresh : ∀ id, (∃ number < service.drawn, newId number = id) → id ≠ newId service.drawn := by
    rintro _ ⟨number, below, rfl⟩ again
    have equal := distinct again
    omega
  apply sound.put (Nat.le_add_right _ 1)
  · exact ⟨service.drawn, Nat.lt_succ_self _, rfl⟩
  · intro id other found _
    exact current.1 (id, other) (get_eq_some_iff.mp found)
  · intro removed member
    exact fresh removed.id (sound.removedDrawn removed member)
  · simp
  · intro created began' equal earlier removed between split same
    simp only [SceneRecord.created.injEq] at equal
    obtain ⟨rfl, rfl⟩ := equal
    refine Nat.lt_of_not_le fun late => ?_
    refine current.2 removed ?_ same
    refine mem_filterMap.mpr ⟨.removed removed, ?_, rfl⟩
    rw [split, drop_append_of_le_length late]
    simp
  · simp [SceneRecord.setsName]
  · simp [SceneRecord.setsSteps]
  · intro id differs
    simp [SceneRecord.setsName, SceneRecord.setsSteps, differs.symm]

theorem ScenesSound.remove (sound : ScenesSound newId service) (id : String) :
    ScenesSound newId (service.remove id) := by
  unfold SceneService.remove
  split
  · exact sound
  · rename_i scene found
    have scene_id := sound.keyed id scene found
    have remains : ∀ query other, (service.scenes.delete id).get query = some other →
        service.scenes.get query = some other := by
      intro query other at_query
      rw [OrderedMap.get_delete] at at_query
      split at at_query
      · cases at_query
      · exact at_query
    have removed : ∀ other, .removed other ∈ service.history ++ [.removed scene] →
        .removed other ∈ service.history ∨ other = scene := by
      intro other member
      rcases mem_append.mp member with earlier | last
      · exact .inl earlier
      · exact .inr (SceneRecord.removed.inj (mem_singleton.mp last))
    refine
      { keyed := fun query other at_query => sound.keyed query other (remains query other at_query)
        drawn := fun query other at_query => sound.drawn query other (remains query other at_query)
        removedDrawn := ?_
        unique := fun query other second found at_query at_second =>
          sound.unique query other second found (remains query other at_query)
            (remains second found at_second)
        gone := ?_, returns := ?_, name := ?_, steps := ?_ }
    · intro other member
      rcases removed other member with earlier | rfl
      · exact sound.removedDrawn other earlier
      · exact scene_id ▸ sound.drawn id other found
    · intro other member
      rw [OrderedMap.get_delete]
      split
      · rfl
      · rename_i differs
        rcases removed other member with earlier | rfl
        · exact sound.gone other earlier
        · exact absurd scene_id differs
    · intro earlier old between created began later split same
      rcases concat_eq_append_cons.mp split with ⟨_, last, _⟩ | ⟨middle, rfl, before⟩
      · cases last
      · exact sound.returns earlier old between created began middle before same
    · intro query other at_query
      rw [lastSet_concat]
      exact sound.name query other (remains query other at_query)
    · intro query other at_query
      rw [lastSet_concat]
      exact sound.steps query other (remains query other at_query)

theorem ScenesSound.resume (sound : ScenesSound newId service)
    (distinct : Function.Injective newId) {call : SceneCall}
    (current : writesScene newId service call) :
    ScenesSound newId (service.resume newId call).1 := by
  cases call with
  | findImported input source force began =>
    simp only [SceneService.resume]
    split <;> exact sound
  | findMissing source =>
    simp only [SceneService.resume]
    split <;> exact sound
  | getUpdated id patch =>
    simp only [SceneService.resume]
    split <;> exact sound
  | getRemoved id =>
    simp only [SceneService.resume]
    split <;> exact sound
  | putNew input source began => exact sound.putNew distinct current
  | put scene change => exact sound.putChange current
  | remove id => exact sound.remove id

end Steps

theorem scenesSound_step {newId : Nat → String} (distinct : Function.Injective newId)
    {config next : Config SceneService SceneCall} {label : Schedule SceneRequest Unit}
    (sound : ScenesSound newId config.shared) (current : sceneGuard newId config label)
    (step : (sceneProgram newId).machine.step config label = some next) :
    ScenesSound newId next.shared := by
  cases label with
  | call request =>
    obtain rfl := Program.step_call_eq_some.mp step
    cases request <;> exact sound
  | resume index reply =>
    rcases Program.step_resume_eq_some.mp step with
      ⟨before, call, after, shared, more, split, rfl, resumed, rfl⟩
    simp only [sceneGuard, Program.getElem?_pending split, Option.mem_some_iff,
      forall_eq'] at current
    simp only [sceneProgram, Option.some.injEq] at resumed
    have kept := sound.resume distinct current
    rwa [resumed] at kept

def welcomeHome : CreateSceneInput where
  homeId := "home"
  name := "Welcome Home"
  scope := none
  roomId := none
  icon := none
  ownerUserId := none
  aiGenerated := none
  steps := []
  description := none
  phases := none

def renamedTo (name : String) : ScenePatch := ⟨some name, none, none, none, none, none, none⟩

end SupremeOs.Scenes
