import SupremeOs.Security.SecurityService

/-!
# The panel survives a restart

When every write has completed, and when a `flush` has resolved that no call
has followed, a service that is made anew should load the panels as they are in
memory.

Each transition starts a write of its own and writes may complete in any order,
so an older write of a home can replace a newer one; and `flush` waits for one
write only.
-/

namespace SupremeOs.Security

open Support List OrderedMap

section Survival

variable (sha256Hex : String → String)

namespace Deployment

def restarted (deployment : Deployment) (pin : Option String) (homeId : String) : SecurityService :=
  (SecurityService.create sha256Hex pin).hydrate homeId (deployment.stored.get homeId)

/--
What a new service loads for a home is its panel.  Where nothing is loaded, the
panel is none or the one that is made at first sight.
-/
def Survives (deployment : Deployment) (homeId : String) : Prop :=
  ∀ pin, match (deployment.restarted sha256Hex pin homeId).panels.get homeId with
    | some loaded => deployment.service.panels.get homeId = some loaded
    | none => ∀ state, deployment.service.panels.get homeId = some state →
        state = SecurityState.seed homeId state.lastChangedAt

end Deployment

structure PanelsSurvive (deployment : Deployment) : Prop where
  settled : deployment.saves = OrderedMap.empty → ∀ homeId, deployment.Survives sha256Hex homeId
  flushed : ∀ flush ∈ deployment.flushed, flush.calls = deployment.calls →
    ∀ homeId, deployment.Survives sha256Hex homeId

end Survival

/--
A write completes while the newest write of its home is in flight or is itself
the newest; and a flush that no call has followed resolves when the newest
write of every home has completed.
-/
def newestLast (deployment : Deployment) : SecurityLabel → Prop
  | .saved number => ∀ state ∈ deployment.saves.get number,
      ∃ newest ∈ deployment.newest.get state.homeId, deployment.saves.has newest = true
  | .flushed flush => flush.calls = deployment.calls →
      ∀ newest ∈ deployment.newest.values, deployment.saves.has newest = false
  | .call _ _ | .flush => True

instance (deployment : Deployment) : ∀ label, Decidable (newestLast deployment label) := by
  intro label
  unfold newestLast
  split <;> infer_instance

structure WritesSound (deployment : Deployment) : Prop where
  numbered : ∀ number state, deployment.saves.get number = some state → number < deployment.nextSave
  newestOld : ∀ homeId number, deployment.newest.get homeId = some number →
    number < deployment.nextSave
  known : ∀ number state, deployment.saves.get number = some state →
    deployment.newest.get state.homeId ≠ none
  /-- The newest write of a home is of its panel. -/
  current : ∀ homeId number state, deployment.newest.get homeId = some number →
    deployment.saves.get number = some state →
    state.homeId = homeId ∧ deployment.service.panels.get homeId = some state
  /-- When it has completed, the panel is stored. -/
  written : ∀ homeId number, deployment.newest.get homeId = some number →
    deployment.saves.get number = none →
    ∃ state, deployment.service.panels.get homeId = some state ∧
      deployment.stored.get homeId = some state
  untouched : ∀ homeId, deployment.newest.get homeId = none →
    deployment.service.panels.get homeId = deployment.stored.get homeId ∨
      (deployment.stored.get homeId = none ∧
        ∃ now, deployment.service.panels.get homeId = some (SecurityState.seed homeId now))
  flushing : ∀ flush ∈ deployment.flushing, flush.calls ≤ deployment.calls
  flushed : ∀ flush ∈ deployment.flushed, flush.calls ≤ deployment.calls ∧
    (flush.calls = deployment.calls → ∀ homeId number,
      deployment.newest.get homeId = some number → deployment.saves.get number = none)

section Steps

variable {sha256Hex : String → String} {deployment next : Deployment}

theorem restarted_get (pin : Option String) (homeId : String) :
    (deployment.restarted sha256Hex pin homeId).panels.get homeId =
      deployment.stored.get homeId := by
  rw [Deployment.restarted]
  cases deployment.stored.get homeId with
  | none => exact OrderedMap.get_empty homeId
  | some state => exact (get_set ..).trans (if_pos rfl)

variable {homeId : String}

section

variable (sound : WritesSound deployment)

include sound

theorem WritesSound.survives (quiet : ∀ number, deployment.newest.get homeId = some number →
      deployment.saves.get number = none) : deployment.Survives sha256Hex homeId := by
  intro pin
  rw [restarted_get]
  cases newest : deployment.newest.get homeId with
  | some number =>
    rcases sound.written homeId number newest (quiet number newest) with ⟨state, panel, stored⟩
    simp only [stored]
    exact panel
  | none =>
    rcases sound.untouched homeId newest with same | ⟨absent, now, panel⟩
    · cases stored : deployment.stored.get homeId with
      | some state => exact same.trans stored
      | none =>
        intro state panel
        rw [same, stored] at panel
        cases panel
    · simp only [absent]
      intro state found
      cases panel.symm.trans found
      rfl

theorem WritesSound.panelsSurvive :
    PanelsSurvive sha256Hex deployment := by
  refine ⟨?_, ?_⟩
  · intro settled homeId
    apply sound.survives
    intro number _
    rw [settled, OrderedMap.get_empty]
  · intro flush resolved still homeId
    exact sound.survives fun number newest =>
      (sound.flushed flush resolved).2 still homeId number newest

theorem WritesSound.getState (homeId now : String) :
    WritesSound (deployment.getState homeId now).2 := by
  rw [Deployment.getState]
  cases found : deployment.service.panels.get homeId with
  | some state => exact sound
  | none =>
    have fresh : deployment.newest.get homeId = none := by
      by_contra present
      rcases Option.ne_none_iff_exists'.mp present with ⟨number, newest⟩
      cases pending : deployment.saves.get number with
      | some state =>
        have panel := (sound.current homeId number state newest pending).2
        rw [found] at panel
        cases panel
      | none =>
        rcases sound.written homeId number newest pending with ⟨state, panel, _⟩
        rw [found] at panel
        cases panel
    have panels : ∀ query, (deployment.setPanel (SecurityState.seed homeId now)).service.panels.get
        query = if query = homeId then some (SecurityState.seed homeId now)
          else deployment.service.panels.get query :=
      fun query => get_set ..
    have away : ∀ query number, deployment.newest.get query = some number → query ≠ homeId := by
      rintro query number newest rfl
      rw [fresh] at newest
      cases newest
    refine ⟨sound.numbered, sound.newestOld, sound.known, ?_, ?_, ?_, sound.flushing, sound.flushed⟩
    · intro query number state newest pending
      rw [panels, if_neg (away query number newest)]
      exact sound.current query number state newest pending
    · intro query number newest done
      rw [panels, if_neg (away query number newest)]
      exact sound.written query number newest done
    · intro query newest
      rw [panels]
      split
      · rename_i same
        subst same
        refine .inr ⟨?_, now, rfl⟩
        rcases sound.untouched query newest with same | ⟨absent, _⟩
        · exact same.symm.trans found
        · exact absent
      · exact sound.untouched query newest

theorem WritesSound.transition
    (unflushed : ∀ flush ∈ deployment.flushed, flush.calls < deployment.calls)
    (homeId : String) (mode : SecurityMode) (triggered : Bool) (userId : Option String)
    (now : String) : WritesSound (deployment.transition homeId mode triggered userId now) := by
  have panels : ∀ query, (deployment.transition homeId mode triggered userId
      now).service.panels.get query =
        if query = homeId then some ⟨homeId, mode, triggered, userId, now⟩
        else deployment.service.panels.get query :=
    fun query => get_set ..
  have newest : ∀ query, (deployment.transition homeId mode triggered userId now).newest.get query =
      if query = homeId then some deployment.nextSave else deployment.newest.get query :=
    fun query => get_set ..
  have saves : ∀ number, (deployment.transition homeId mode triggered userId now).saves.get number =
      if number = deployment.nextSave then some ⟨homeId, mode, triggered, userId, now⟩
      else deployment.saves.get number :=
    fun number => get_set ..
  -- the older writes of other homes keep their numbers
  have old : ∀ query number, deployment.newest.get query = some number →
      number ≠ deployment.nextSave :=
    fun query number found => Nat.ne_of_lt (sound.newestOld query number found)
  refine ⟨?_, ?_, ?_, ?_, ?_, ?_, sound.flushing, ?_⟩
  · intro number state pending
    rw [saves] at pending
    split at pending
    · rename_i same
      rw [same]
      exact Nat.lt_succ_self _
    · exact Nat.lt_succ_of_lt (sound.numbered number state pending)
  · intro query number found
    rw [newest] at found
    split at found
    · cases found
      exact Nat.lt_succ_self _
    · exact Nat.lt_succ_of_lt (sound.newestOld query number found)
  · intro number state pending
    rw [newest]
    split
    · simp
    · rename_i away
      rw [saves] at pending
      split at pending
      · cases pending
        exact absurd rfl away
      · exact sound.known number state pending
  · intro query number state found pending
    rw [newest] at found
    rw [panels]
    split at found
    · rename_i same
      cases found
      rw [saves, if_pos rfl] at pending
      cases pending
      rw [if_pos same]
      exact ⟨same.symm, rfl⟩
    · rename_i away
      rw [saves, if_neg (old query number found)] at pending
      rw [if_neg away]
      exact sound.current query number state found pending
  · intro query number found done
    rw [newest] at found
    rw [panels]
    split at found
    · cases found
      rw [saves, if_pos rfl] at done
      cases done
    · rename_i away
      rw [saves, if_neg (old query number found)] at done
      rw [if_neg away]
      exact sound.written query number found done
  · intro query found
    rw [newest] at found
    rw [panels]
    split at found
    · cases found
    · rename_i away
      rw [if_neg away]
      exact sound.untouched query found
  · intro flush resolved
    have before := unflushed flush resolved
    exact ⟨Nat.le_of_lt before, fun same => absurd same (Nat.ne_of_lt before)⟩

end

theorem perform_trigger_of_some (now : String) {state : SecurityState}
    (found : deployment.service.panels.get homeId = some state) :
    deployment.perform sha256Hex now (.trigger homeId) =
      if state.mode = .disarmed ∨ state.triggered = true then deployment
      else deployment.transition homeId state.mode true none now := by
  simp only [Deployment.perform, Deployment.getState, found]

theorem perform_trigger_of_none (now : String)
    (absent : deployment.service.panels.get homeId = none) :
    deployment.perform sha256Hex now (.trigger homeId) = (deployment.getState homeId now).2 := by
  simp [Deployment.perform, Deployment.getState, absent, SecurityState.seed]

theorem WritesSound.perform (sound : WritesSound deployment) (now : String) (call : PanelCall) :
    WritesSound { deployment.perform sha256Hex now call with calls := deployment.calls + 1 } := by
  -- with the call counted, the flushes that have resolved are past
  have counted : WritesSound { deployment with calls := deployment.calls + 1 } := by
    refine ⟨sound.numbered, sound.newestOld, sound.known, sound.current, sound.written,
      sound.untouched, fun flush member => Nat.le_succ_of_le (sound.flushing flush member), ?_⟩
    intro flush member
    have before := (sound.flushed flush member).1
    refine ⟨Nat.le_succ_of_le before, fun same => ?_⟩
    simp only at same
    omega
  have past : ∀ flush ∈ deployment.flushed, flush.calls < deployment.calls + 1 :=
    fun flush member => Nat.lt_succ_of_le (sound.flushed flush member).1
  cases call with
  | arm homeId mode userId pin =>
    rw [Deployment.perform]
    split
    · exact counted.transition past homeId mode.val false userId now
    · exact counted
  | disarm homeId userId pin =>
    rw [Deployment.perform]
    split
    · exact counted.transition past homeId .disarmed false userId now
    · exact counted
  | trigger homeId =>
    cases found : deployment.service.panels.get homeId with
    | some state =>
      rw [perform_trigger_of_some now found]
      split
      · exact counted
      · exact counted.transition past homeId state.mode true none now
    | none =>
      rw [perform_trigger_of_none now found]
      have seen := counted.getState homeId now
      simp only [Deployment.getState, found] at seen ⊢
      exact seen

theorem WritesSound.completeSave (sound : WritesSound deployment) {number : Nat}
    {state : SecurityState} (pending : deployment.saves.get number = some state)
    (inTurn : ∃ newest ∈ deployment.newest.get state.homeId, deployment.saves.has newest = true) :
    WritesSound (deployment.completeSave number state) := by
  rcases inTurn with ⟨newest, isNewest, inFlight⟩
  rcases has_iff.mp inFlight with ⟨panel, found⟩
  have saves : ∀ query, (deployment.completeSave number state).saves.get query =
      if query = number then none else deployment.saves.get query :=
    fun query => OrderedMap.get_delete ..
  have stored : ∀ query, (deployment.completeSave number state).stored.get query =
      if query = state.homeId then some state else deployment.stored.get query :=
    fun query => get_set ..
  have still : ∀ query other, (deployment.completeSave number state).saves.get query = some other →
      deployment.saves.get query = some other := by
    intro query other kept
    rw [saves] at kept
    split at kept
    · cases kept
    · exact kept
  refine ⟨fun query other kept => sound.numbered query other (still query other kept),
    sound.newestOld, fun query other kept => sound.known query other (still query other kept),
    fun homeId query other isNewest kept =>
      sound.current homeId query other isNewest (still query other kept), ?_, ?_,
    sound.flushing, ?_⟩
  · intro homeId query isLast done
    rw [saves] at done
    rw [stored]
    by_cases same : query = number
    · -- the newest write of the home is the one that completes
      subst same
      rcases sound.current homeId query state isLast pending with ⟨named, held⟩
      rw [if_pos named.symm]
      exact ⟨state, held, rfl⟩
    · rw [if_neg same] at done
      rw [if_neg]
      · exact sound.written homeId query isLast done
      · rintro rfl
        cases isLast.symm.trans isNewest
        rw [done] at found
        cases found
  · intro homeId fresh
    rw [stored, if_neg]
    · exact sound.untouched homeId fresh
    · rintro rfl
      exact sound.known number state pending fresh
  · intro flush resolved
    rcases sound.flushed flush resolved with ⟨before, quiet⟩
    refine ⟨before, fun same homeId query isLast => ?_⟩
    rw [saves]
    split
    · rfl
    · exact quiet same homeId query isLast

theorem writesSound_step {label : SecurityLabel} (sound : WritesSound deployment)
    (inTurn : newestLast deployment label)
    (taken : (securityMachine sha256Hex).step deployment label = some next) :
    WritesSound next := by
  cases label with
  | call call now =>
    cases taken
    exact sound.perform now call
  | saved number =>
    rcases Option.map_eq_some_iff.mp taken with ⟨state, pending, rfl⟩
    exact sound.completeSave pending (inTurn state pending)
  | flush =>
    cases taken
    refine ⟨sound.numbered, sound.newestOld, sound.known, sound.current, sound.written,
      sound.untouched, ?_, sound.flushed⟩
    intro flush member
    rcases mem_append.mp member with old | new
    · exact sound.flushing flush old
    · obtain rfl := mem_singleton.mp new
      exact Nat.le_refl _
  | flushed flush =>
    simp only [securityMachine] at taken
    split at taken
    · rename_i awaited
      cases taken
      refine ⟨sound.numbered, sound.newestOld, sound.known, sound.current, sound.written,
        sound.untouched, fun other member => sound.flushing other (mem_of_mem_erase member),
        ?_⟩
      intro other member
      rcases mem_append.mp member with old | new
      · exact sound.flushed other old
      · rw [mem_singleton.mp new]
        refine ⟨sound.flushing flush awaited.1, fun still homeId number isNewest => ?_⟩
        have done := inTurn still number (mem_values_iff.mpr ⟨homeId, isNewest⟩)
        simpa [OrderedMap.has] using done
    · cases taken

end Steps

theorem writesSound_booted (pinHash : Option String) (stored : OrderedMap String SecurityState) :
    WritesSound (Deployment.booted pinHash stored) where
  numbered := fun number state pending => by cases pending
  newestOld := fun homeId number newest => by cases newest
  known := fun number state pending => by cases pending
  current := fun homeId number state newest => by cases newest
  written := fun homeId number newest => by cases newest
  untouched := fun homeId _ => .inl rfl
  flushing := fun flush member => absurd member not_mem_nil
  flushed := fun flush member => absurd member not_mem_nil

/-- The home is armed at night and triggered, and both writes complete in turn. -/
def armedNight : List SecurityLabel :=
  [.call (.arm "home" ⟨.armedNight, by decide⟩ (some "ann") none) "22:00", .flush,
    .saved 0, .flushed ⟨some 0, 1⟩, .call (.trigger "home") "23:00", .saved 1]

/-- The home is disarmed and armed again, and the second write is the first to complete. -/
def disarmedLate : List SecurityLabel :=
  [.call (.disarm "home" (some "ann") none) "08:00",
    .call (.arm "home" ⟨.armedAway, by decide⟩ (some "ann") none) "08:01", .saved 1, .saved 0]

end SupremeOs.Security
