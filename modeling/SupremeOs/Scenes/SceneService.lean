import SupremeOs.DomainModel.JsonText
import SupremeOs.Support.Interleaving

/-!
# The scene service

Scenes are kept in a store whose calls are atomic and take effect when the
operation that awaits them goes on.  An import looks for the scene of its
source and creates it if there is none; otherwise it marks it as stale or
replaces name and steps.  Updates and marks write back the whole scene they
have read.

`newId` is the sequence of identifiers that are handed out; the one of a new
scene is drawn when it is written.  Creations, changes and removals are
recorded in their order, a creation with the number of records there were when
its import began.
-/

namespace SupremeOs.Scenes

open SupremeOs.Support SupremeOs.DomainModel

/-- Values are compared by their texts. -/
instance : DecidableEq Json :=
  fun left right => decidable_of_iff (left.stringify = right.stringify)
    ⟨stringify_injective, congrArg Json.stringify⟩

inductive SceneScope where
  | room
  | home
deriving DecidableEq

inductive SyncStatus where
  | synced
  | stale
  | sourceMissing
deriving DecidableEq

structure SceneStep where
  deviceId : String
  capability : String
  values : List (String × Json)
deriving DecidableEq

structure Scene where
  id : String
  homeId : String
  name : String
  scope : SceneScope
  roomId : Option String
  ownerUserId : Option String
  icon : Option String
  aiGenerated : Bool
  steps : List SceneStep
  description : Option String
  phases : List (List Nat)
  sourceDriverId : Option String
  sourceSceneId : Option String
  imported : Bool
  syncStatus : Option SyncStatus
deriving DecidableEq

/-- The input of `create`; what is left out is `none`. -/
structure CreateSceneInput where
  homeId : String
  name : String
  scope : Option SceneScope
  roomId : Option String
  icon : Option String
  ownerUserId : Option String
  aiGenerated : Option Bool
  steps : List SceneStep
  description : Option String
  phases : Option (List (List Nat))

/-- A change by an installer; the description alone can be set to `null`. -/
structure ScenePatch where
  name : Option String
  scope : Option SceneScope
  roomId : Option String
  icon : Option String
  steps : Option (List SceneStep)
  description : Option (Option String)
  phases : Option (List (List Nat))

/-- Where an imported scene comes from. -/
structure SceneSource where
  driverId : String
  sceneId : String
deriving DecidableEq

def SceneStep.json (step : SceneStep) : Json :=
  .object [("deviceId", .text step.deviceId), ("capability", .text step.capability),
    ("values", .object step.values)]

/-- `JSON.stringify(steps)`. -/
def stepsText (steps : List SceneStep) : List Char :=
  (Json.array (steps.map SceneStep.json)).stringify

theorem stepsText_injective {left right : List SceneStep}
    (same : stepsText left = stepsText right) : left = right := by
  have items := Json.array.inj (stringify_injective same)
  refine List.map_injective_iff.mpr ?_ items
  rintro ⟨deviceId, capability, values⟩ ⟨_, _, _⟩ equal
  simp only [SceneStep.json, Json.object.injEq, List.cons.injEq, Prod.mk.injEq,
    Json.text.injEq, true_and, and_true] at equal
  obtain ⟨rfl, rfl, rfl⟩ := equal
  rfl

def Scene.source (scene : Scene) : Option SceneSource :=
  scene.sourceDriverId.bind fun driverId => scene.sourceSceneId.map fun sceneId =>
    ⟨driverId, sceneId⟩

/-- What an operation does to a scene it has found. -/
inductive SceneChange where
  | imported (input : CreateSceneInput) (force : Bool)
  | sourceMissing
  | updated (patch : ScenePatch)

/-- The scene that is written back. -/
def SceneChange.apply (existing : Scene) : SceneChange → Scene
  | .imported input force =>
    if !force && (existing.name ≠ input.name || stepsText existing.steps ≠ stepsText input.steps)
    then { existing with syncStatus := some .stale }
    else
      { existing with
        name := input.name
        roomId := input.roomId.or existing.roomId
        icon := input.icon.or existing.icon
        steps := input.steps
        syncStatus := some .synced }
  | .sourceMissing => { existing with syncStatus := some .sourceMissing }
  | .updated patch =>
    { existing with
      name := patch.name.getD existing.name
      scope := patch.scope.getD existing.scope
      roomId := patch.roomId.or existing.roomId
      icon := patch.icon.or existing.icon
      steps := patch.steps.getD existing.steps
      description := patch.description.getD existing.description
      phases := patch.phases.getD existing.phases }

def CreateSceneInput.scene (input : CreateSceneInput) (id : String)
    (source : Option SceneSource) : Scene where
  id := id
  homeId := input.homeId
  name := input.name
  scope := input.scope.getD .room
  roomId := input.roomId
  ownerUserId := input.ownerUserId
  icon := input.icon
  aiGenerated := input.aiGenerated.getD false
  steps := input.steps
  description := input.description
  phases := input.phases.getD []
  sourceDriverId := source.map SceneSource.driverId
  sourceSceneId := source.map SceneSource.sceneId
  imported := source.isSome
  syncStatus := if source.isSome then some .synced else none

inductive SceneRecord where
  /-- A scene is created, by an import that began after this many records. -/
  | created (scene : Scene) (began : Nat)
  | changed (id : String) (change : SceneChange)
  | removed (scene : Scene)

structure SceneService where
  scenes : OrderedMap String Scene
  /-- How many identifiers have been handed out. -/
  drawn : Nat
  history : List SceneRecord

inductive SceneRequest where
  /-- An installer's own scene has no source. -/
  | create (input : CreateSceneInput)
  | importScene (input : CreateSceneInput) (source : SceneSource) (force : Bool)
  | markSourceMissing (source : SceneSource)
  | update (id : String) (patch : ScenePatch)
  | remove (id : String)

inductive SceneCall where
  | findImported (input : CreateSceneInput) (source : SceneSource) (force : Bool) (began : Nat)
  | findMissing (source : SceneSource)
  | getUpdated (id : String) (patch : ScenePatch)
  | getRemoved (id : String)
  | putNew (input : CreateSceneInput) (source : Option SceneSource) (began : Nat)
  | put (scene : Scene) (change : SceneChange)
  | remove (id : String)

namespace SceneService

def initial : SceneService := ⟨OrderedMap.empty, 0, []⟩

def findBySource (service : SceneService) (source : SceneSource) : Option Scene :=
  service.scenes.values.find? fun scene =>
    scene.sourceDriverId = some source.driverId && scene.sourceSceneId = some source.sceneId

def start (service : SceneService) : SceneRequest → SceneService × List SceneCall
  | .create input => (service, [.putNew input none service.history.length])
  | .importScene input source force =>
    (service, [.findImported input source force service.history.length])
  | .markSourceMissing source => (service, [.findMissing source])
  | .update id patch => (service, [.getUpdated id patch])
  | .remove id => (service, [.getRemoved id])

def putChange (service : SceneService) (scene : Scene) (change : SceneChange) : SceneService :=
  { service with
    scenes := service.scenes.set scene.id scene
    history := service.history ++ [.changed scene.id change] }

def putNew (newId : Nat → String) (service : SceneService) (input : CreateSceneInput)
    (source : Option SceneSource) (began : Nat) : SceneService :=
  let scene := input.scene (newId service.drawn) source
  { scenes := service.scenes.set scene.id scene
    drawn := service.drawn + 1
    history := service.history ++ [.created scene began] }

def remove (service : SceneService) (id : String) : SceneService :=
  match service.scenes.get id with
  | none => service
  | some scene =>
    { service with
      scenes := service.scenes.delete id
      history := service.history ++ [.removed scene] }

def resume (newId : Nat → String) (service : SceneService) :
    SceneCall → SceneService × List SceneCall
  | .findImported input source force began =>
    match service.findBySource source with
    | none => (service, [.putNew input (some source) began])
    | some existing =>
      let change := SceneChange.imported input force
      (service, [.put (change.apply existing) change])
  | .findMissing source =>
    match service.findBySource source with
    | none => (service, [])
    | some existing =>
      (service, [.put (SceneChange.sourceMissing.apply existing) .sourceMissing])
  | .getUpdated id patch =>
    match service.scenes.get id with
    | none => (service, [])
    | some scene => (service, [.put ((SceneChange.updated patch).apply scene) (.updated patch)])
  | .getRemoved id =>
    match service.scenes.get id with
    | none => (service, [])
    | some _ => (service, [.remove id])
  | .putNew input source began => (service.putNew newId input source began, [])
  | .put scene change => (service.putChange scene change, [])
  | .remove id => (service.remove id, [])

end SceneService

/-- The operations of the service, segment by segment. -/
def sceneProgram (newId : Nat → String) : Program SceneService SceneRequest SceneCall Unit where
  start := SceneService.start
  resume service call _ := some (service.resume newId call)

end SupremeOs.Scenes
