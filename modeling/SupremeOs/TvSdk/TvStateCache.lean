import SupremeOs.DomainModel.JsValue
import SupremeOs.Support.Machine

/-!
# The state of a television as its sources report it

Several sources report what a television plays and which application is in
front.  The cache has one value for each of these two, and decides by the
revisions of the updates, and then by the ranks of their sources, whether a new
one takes the place of the one that it has.

An update may come without a revision.  The cache then gives it the next number
of a counter of its own, and compares that with the revisions of the sources.
-/

namespace SupremeOs.TvSdk

open DomainModel Support

structure OfferedUpdate (Value : Type) where
  value : Value
  source : String
  revision : Option JsNumber
  timestamp : String
deriving DecidableEq

structure SourcedUpdate (Value : Type) where
  value : Value
  source : String
  revision : JsNumber
  timestamp : String

def OfferedUpdate.withRevision {Value : Type} (update : OfferedUpdate Value) (revision : JsNumber) :
    SourcedUpdate Value :=
  ⟨update.value, update.source, revision, update.timestamp⟩

/-- The place of the source in the list; one that is not listed comes last. -/
def priorityRank (source : String) (priority : List String) : Nat := priority.idxOf source

variable {Value Media App : Type}

def shouldAccept (current : Option (SourcedUpdate Value)) (next : SourcedUpdate Value)
    (priority : List String) : Bool :=
  match current with
  | none => true
  | some current =>
    if current.revision.less next.revision then true
    else if next.revision.less current.revision then false
    else decide (priorityRank next.source priority < priorityRank current.source priority)

structure FieldGroup (Value : Type) where
  cached : Option (SourcedUpdate Value)
  revisionCounter : JsNumber

namespace FieldGroup

def empty : FieldGroup Value := ⟨none, .finite 0⟩

def revisionOf (group : FieldGroup Value) (update : OfferedUpdate Value) : JsNumber × JsNumber :=
  match update.revision with
  | some revision => (revision, group.revisionCounter)
  | none =>
    let counted := group.revisionCounter.add (.finite 1)
    (counted, counted)

def offer (group : FieldGroup Value) (update : OfferedUpdate Value) (priority : List String) :
    FieldGroup Value × Bool :=
  let (revision, counter) := group.revisionOf update
  let next := update.withRevision revision
  if shouldAccept group.cached next priority then (⟨some next, counter⟩, true)
  else (⟨group.cached, counter⟩, false)

end FieldGroup

structure TvStateCache (Media App : Type) where
  media : FieldGroup Media
  foregroundApp : FieldGroup App
  mediaSourcePriority : List String
  foregroundSourcePriority : List String

namespace TvStateCache

def empty (mediaSourcePriority foregroundSourcePriority : List String) : TvStateCache Media App :=
  ⟨FieldGroup.empty, FieldGroup.empty, mediaSourcePriority, foregroundSourcePriority⟩

variable (cache : TvStateCache Media App)

def offerMedia (update : OfferedUpdate Media) : TvStateCache Media App × Bool :=
  let (media, accepted) := cache.media.offer update cache.mediaSourcePriority
  ({ cache with media := media }, accepted)

def offerForegroundApp (update : OfferedUpdate App) : TvStateCache Media App × Bool :=
  let (foregroundApp, accepted) := cache.foregroundApp.offer update cache.foregroundSourcePriority
  ({ cache with foregroundApp := foregroundApp }, accepted)

def getMedia : Option Media :=
  cache.media.cached.map SourcedUpdate.value

def getForegroundApp : Option App :=
  cache.foregroundApp.cached.map SourcedUpdate.value

end TvStateCache

inductive CacheOffer (Media App : Type) where
  | media (update : OfferedUpdate Media)
  | foregroundApp (update : OfferedUpdate App)

structure CachedOffers (Media App : Type) where
  media : Option (OfferedUpdate Media)
  foregroundApp : Option (OfferedUpdate App)

/-- The update takes the place of the last accepted one if it is accepted. -/
def noteOffer (update : OfferedUpdate Value) (accepted : Bool)
    (held : Option (OfferedUpdate Value)) : Option (OfferedUpdate Value) :=
  if accepted then some update else held

variable (Media App) in
def tvStateCache : Machine (TvStateCache Media App × CachedOffers Media App)
    (CacheOffer Media App) :=
  Machine.recording
    { step := fun cache offer =>
        match offer with
        | .media update => some (cache.offerMedia update).1
        | .foregroundApp update => some (cache.offerForegroundApp update).1 }
    fun cache offer _ held =>
      match offer with
      | .media update =>
        { held with media := noteOffer update (cache.offerMedia update).2 held.media }
      | .foregroundApp update =>
        { held with
          foregroundApp := noteOffer update (cache.offerForegroundApp update).2
            held.foregroundApp }

def RanksHigher (priority : List String) (first second : String) : Prop :=
  priorityRank first priority < priorityRank second priority

instance (order : List String) (first second : String) :
    Decidable (RanksHigher order first second) := inferInstanceAs (Decidable (_ < _))

/--
An update may take the place of another one with a revision only if it has one
itself or its source ranks higher, and not with a lower revision, nor with the
same one unless its source ranks higher.
-/
def MayReplace (priority : List String) (held update : OfferedUpdate Value) : Prop :=
  match held.revision, update.revision with
  | none, _ => True
  | some _, none => RanksHigher priority update.source held.source
  | some old, some new =>
    new.less old = false ∧
      (new.strictEquals old = true → RanksHigher priority update.source held.source)

/-- If an update takes the place of another one, it may. -/
def ReplacesRightly (priority : List String) (held : Option (OfferedUpdate Value))
    (update : OfferedUpdate Value) (accepted : Bool) : Prop :=
  accepted = true → ∀ old ∈ held, MayReplace priority old update

def Arbitrates (before : TvStateCache Media App × CachedOffers Media App) :
    CacheOffer Media App → TvStateCache Media App × CachedOffers Media App → Prop
  | .media update, _ =>
    ReplacesRightly before.1.mediaSourcePriority before.2.media update
      (before.1.offerMedia update).2
  | .foregroundApp update, _ =>
    ReplacesRightly before.1.foregroundSourcePriority before.2.foregroundApp update
      (before.1.offerForegroundApp update).2

/--
The counter is above the revision of the cached update when a source that does
not rank higher offers one without a revision.
-/
def Overtakes (priority : List String) (counter : JsNumber) (held update : OfferedUpdate Value) :
    Prop :=
  update.revision = none ∧ ¬RanksHigher priority update.source held.source ∧
    ∃ revision ∈ held.revision, revision.less (counter.add (.finite 1)) = true

def NotOvertaking (before : TvStateCache Media App × CachedOffers Media App) :
    CacheOffer Media App → Prop
  | .media update => ∀ old ∈ before.2.media,
      ¬Overtakes before.1.mediaSourcePriority before.1.media.revisionCounter old update
  | .foregroundApp update => ∀ old ∈ before.2.foregroundApp,
      ¬Overtakes before.1.foregroundSourcePriority before.1.foregroundApp.revisionCounter old update

namespace FieldGroup

variable {group : FieldGroup Value} {held : Option (OfferedUpdate Value)}
variable {update old : OfferedUpdate Value} {priority : List String}

def Holds (group : FieldGroup Value) (held : Option (OfferedUpdate Value)) : Prop :=
  match group.cached, held with
  | none, none => True
  | some current, some update =>
    current = update.withRevision (update.revision.getD current.revision)
  | _, _ => False

theorem offer_accepted : (group.offer update priority).2 =
    shouldAccept group.cached (update.withRevision (group.revisionOf update).1) priority := by
  rw [offer]
  dsimp only
  split
  · rename_i accepted
    exact accepted.symm
  · rename_i refused
    exact (Bool.eq_false_iff.mpr refused).symm

theorem holds_offer (holds : group.Holds held) : (group.offer update priority).1.Holds
      (noteOffer update (group.offer update priority).2 held) := by
  rw [offer]
  dsimp only
  split
  · show update.withRevision (group.revisionOf update).1 =
      update.withRevision (update.revision.getD (group.revisionOf update).1)
    cases own : update.revision with
    | none => rfl
    | some revision => simp only [revisionOf, own, Option.getD_some]
  · exact holds

theorem shouldAccept_some {current next : SourcedUpdate Value} :
    shouldAccept (some current) next priority = true ↔ current.revision.less next.revision = true ∨
        (next.revision.less current.revision = false ∧
          RanksHigher priority next.source current.source) := by
  rw [shouldAccept]
  by_cases above : current.revision.less next.revision = true
  · simp [above]
  · by_cases below : next.revision.less current.revision = true
    · simp [above, below]
    · simp [above, below, RanksHigher]

theorem mayReplace_of_accepted {current : SourcedUpdate Value} {revision new : JsNumber}
    (carried : old.revision = some revision) (own : update.revision = some new)
    (same : current = old.withRevision revision)
    (accepted : shouldAccept (some current) (update.withRevision new) priority = true) :
    MayReplace priority old update := by
  subst same
  rw [MayReplace, carried, own]
  rcases shouldAccept_some.mp accepted with above | ⟨notBelow, higher⟩
  · refine ⟨JsNumber.less_asymm above, fun equal => ?_⟩
    have same : new = revision := (of_decide_eq_true equal).2
    rw [same] at above
    exact absurd above (JsNumber.less_irrefl revision)
  · exact ⟨notBelow, fun _ => higher⟩

theorem mayReplace_iff_of_none {current : SourcedUpdate Value} {revision : JsNumber}
    (carried : old.revision = some revision) (own : update.revision = none)
    (same : current = old.withRevision revision) :
    (shouldAccept (some current)
        (update.withRevision (group.revisionCounter.add (.finite 1))) priority = true →
      MayReplace priority old update) ↔ ¬Overtakes priority group.revisionCounter old update := by
  subst same
  rw [MayReplace, carried, own, shouldAccept_some]
  constructor
  · rintro rightly ⟨_, lower, counted, member, above⟩
    cases carried.symm.trans member
    exact lower (rightly (.inl above))
  · intro within accepted
    by_contra lower
    rcases accepted with above | ⟨_, higher⟩
    · exact within ⟨own, lower, revision, carried, above⟩
    · exact lower higher

theorem Holds.current (holds : group.Holds (some old)) : ∃ current, group.cached = some current ∧
      current = old.withRevision (old.revision.getD current.revision) := by
  unfold Holds at holds
  split at holds
  · rename_i none
    cases none
  · rename_i current update cached same
    cases same
    exact ⟨current, cached, holds⟩
  · exact holds.elim

/-- An update that is accepted is a proper one, but for a counter that has gone too far. -/
theorem replacesRightly_iff (holds : group.Holds held) :
    ReplacesRightly priority held update (group.offer update priority).2 ↔
      ∀ old ∈ held, ¬Overtakes priority group.revisionCounter old update := by
  rw [ReplacesRightly, offer_accepted, forall_comm]
  refine forall_congr' fun old => ?_
  rw [forall_comm]
  refine forall_congr' fun member => ?_
  obtain rfl := Option.mem_def.mp member
  obtain ⟨current, cached, same⟩ := holds.current
  rw [cached]
  cases carried : old.revision with
  | none =>
    constructor
    · rintro _ ⟨_, _, revision, found, _⟩
      rw [carried] at found
      cases found
    · intro _ _
      rw [MayReplace, carried]
      trivial
  | some revision =>
    rw [carried, Option.getD_some] at same
    cases own : update.revision with
    | none =>
      rw [revisionOf, own]
      exact mayReplace_iff_of_none carried own same
    | some new =>
      rw [revisionOf, own]
      constructor
      · rintro _ ⟨none, _⟩
        rw [own] at none
        cases none
      · exact fun _ => mayReplace_of_accepted carried own same

end FieldGroup

/-- Both groups hold what was offered. -/
def InStep (config : TvStateCache Media App × CachedOffers Media App) : Prop :=
  config.1.media.Holds config.2.media ∧ config.1.foregroundApp.Holds config.2.foregroundApp

variable {config after : TvStateCache Media App × CachedOffers Media App}
variable {offer : CacheOffer Media App}

theorem inStep_empty {mediaSourcePriority foregroundSourcePriority : List String} :
    InStep ((TvStateCache.empty mediaSourcePriority foregroundSourcePriority, ⟨none, none⟩) :
      TvStateCache Media App × CachedOffers Media App) :=
  ⟨trivial, trivial⟩

theorem InStep.step (inStep : InStep config)
    (taken : (tvStateCache Media App).step config offer = some after) : InStep after := by
  rcases Machine.step_recording_eq_some.mp taken with ⟨cache, stepped, rfl⟩
  cases offer with
  | media update =>
    cases stepped
    exact ⟨FieldGroup.holds_offer inStep.1, inStep.2⟩
  | foregroundApp update =>
    cases stepped
    exact ⟨inStep.1, FieldGroup.holds_offer inStep.2⟩

theorem arbitrates_iff_notOvertaking (inStep : InStep config) :
    Arbitrates config offer after ↔ NotOvertaking config offer := by
  cases offer with
  | media update => exact FieldGroup.replacesRightly_iff inStep.1
  | foregroundApp update => exact FieldGroup.replacesRightly_iff inStep.2

/-- In a run of offers everything is replaced rightly exactly if the counters never go too far. -/
theorem arbitration_exact_iff (mediaSourcePriority foregroundSourcePriority : List String)
    (offers : List (CacheOffer Media App)) :
    (tvStateCache Media App).EachStep Arbitrates
        (TvStateCache.empty mediaSourcePriority foregroundSourcePriority, ⟨none, none⟩) offers ↔
      (tvStateCache Media App).Guarded NotOvertaking
        (TvStateCache.empty mediaSourcePriority foregroundSourcePriority, ⟨none, none⟩) offers := by
  refine Machine.eachStep_iff_guarded ?_ ?_ inStep_empty
  · intro config offer after inStep taken
    exact inStep.step taken
  · intro config offer after inStep _
    exact arbitrates_iff_notOvertaking inStep

/-- Two polls without revisions push out what the agent reported with its first revision. -/
theorem polls_overtake_agent : ¬(tvStateCache String String).EachStep Arbitrates
      (TvStateCache.empty ["agent", "poll"] [], ⟨none, none⟩)
      [.media ⟨"title", "agent", some (.finite 1), "t1"⟩, .media ⟨"old", "poll", none, "t2"⟩,
        .media ⟨"older", "poll", none, "t3"⟩] := by
  rintro ⟨_, _, third, _⟩
  have higher : RanksHigher ["agent", "poll"] "poll" "agent" :=
    third (by decide +kernel) ⟨"title", "agent", some (.finite 1), "t1"⟩ (by decide +kernel)
  exact absurd higher (by decide)

end SupremeOs.TvSdk
