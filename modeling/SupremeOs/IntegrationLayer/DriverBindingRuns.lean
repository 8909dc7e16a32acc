import SupremeOs.IntegrationLayer.DriverBinding

/-!
# Overlapping binds and unbinds

`bind` and `unbind` of the binding engine and `unbindDevice` of the router,
interleaved at their await points.  A driver's `bind` takes as long as it
likes.  With a persistence store every lifecycle write waits for the store;
without one it happens at once.

The last part determines in which runs a device that is unbound, or has no
record, is owned by no driver.
-/

namespace SupremeOs.IntegrationLayer

open Support DomainModel List Option

namespace DriverBindingRuns

inductive Request where
  | bind (binding : ProtocolBinding) (provider : String)
  | unbind (deviceId : DeviceId)
  /-- The router's `unbindDevice`. -/
  | unbindDevice (deviceId : DeviceId)

inductive Reply where
  | resolved
  | rejected (thrown : Thrown)

/-- Where an operation goes on; `remove` tells `unbindDevice` from `unbind`. -/
inductive Point where
  | assigned (binding : ProtocolBinding) (provider : String)
  | binding (binding : ProtocolBinding) (provider : String)
  | hostBound (deviceId : DeviceId)
  | hostFailed (deviceId : DeviceId) (thrown : Thrown)
  | bound (deviceId : DeviceId)
  | online (deviceId : DeviceId)
  | failed (deviceId : DeviceId)
  | unbound (deviceId : DeviceId) (remove : Bool)

def Point.deviceId : Point → DeviceId
  | .assigned target _ => target.deviceId
  | .binding target _ => target.deviceId
  | .hostBound deviceId => deviceId
  | .hostFailed deviceId _ => deviceId
  | .bound deviceId => deviceId
  | .online deviceId => deviceId
  | .failed deviceId => deviceId
  | .unbound deviceId _ => deviceId

/-- The awaits at which an operation is suspended. -/
inductive Call where
  /-- The call before has returned. -/
  | ready (point : Point)
  /-- `assign` or `transition` waits for the store and then goes on at a point. -/
  | storing (record : DeviceProviderRecord) (point : Point)
  /-- The adapter's `bind` waits for the driver's. -/
  | driverBinding (binding : ProtocolBinding) (driver : NativeProtocolDriver)
  /-- `unbind` waits for the adapter's `unbindDevice`. -/
  | releasing (deviceId : DeviceId) (remove : Bool)
  /-- `remove` waits for the store. -/
  | removing (deviceId : DeviceId)

/-- The end of `assign` and `transition`. -/
def storeRecord (persistent : Bool) (sil : SilState) (record : DeviceProviderRecord)
    (point : Point) : SilState × List Call :=
  if persistent then (sil, [.storing record point])
  else ({ sil with registry := sil.registry.write record }, [.ready point])

/-- A transition; where it throws, so does the operation it belongs to. -/
def transitionTo (persistent : Bool) (sil : SilState) (next : DeviceLifecycleState)
    (point : Point) : SilState × List Call :=
  match sil.registry.transitionRecord point.deviceId next with
  | .error _ => (sil, [])
  | .ok record => storeRecord persistent sil record point

def continueAt (persistent : Bool) (sil : SilState) : Point → SilState × List Call
  | .assigned binding provider =>
    transitionTo persistent sil .binding (.binding binding provider)
  | .binding binding provider =>
    match sil.native.adapter.driverFor provider with
    | none =>
      (sil, [.ready (.hostFailed binding.deviceId (SilState.notConfigured provider))])
    | some driver => (sil, [.driverBinding binding driver])
  | .hostBound deviceId => transitionTo persistent sil .bound (.bound deviceId)
  | .hostFailed deviceId _ => transitionTo persistent sil .error (.failed deviceId)
  | .bound deviceId => transitionTo persistent sil .online (.online deviceId)
  | .online _ => (sil, [])
  | .failed _ => (sil, [])
  | .unbound deviceId remove =>
    if remove then
      if persistent then (sil, [.removing deviceId])
      else ({ sil with registry := sil.registry.delete deviceId }, [])
    else (sil, [])

/-- The first segment of `unbind`. -/
def unbindFrom (sil : SilState) (deviceId : DeviceId) (remove : Bool) : SilState × List Call :=
  if sil.registry.stateOf deviceId = none ∨ sil.registry.stateOf deviceId = some .unbound then
    (sil, if remove then [.ready (.unbound deviceId remove)] else [])
  else
    ({ sil with native := sil.native.releaseDevice deviceId }, [.releasing deviceId remove])

def startCall (persistent : Bool) (sil : SilState) : Request → SilState × List Call
  | .bind binding provider =>
    match sil.registry.get binding.deviceId with
    | some _ => continueAt persistent sil (.assigned binding provider)
    | none =>
      storeRecord persistent sil
        (ProviderRegistry.assignRecord binding.deviceId provider)
        (.assigned binding provider)
  | .unbind deviceId => unbindFrom sil deviceId false
  | .unbindDevice deviceId => unbindFrom sil deviceId true

def resumeCall (persistent : Bool) (sil : SilState) : Call → Reply → Option (SilState × List Call)
  | .ready point, .resolved => some (continueAt persistent sil point)
  | .ready _, .rejected _ => none
  | .storing record point, .resolved =>
    some ({ sil with registry := sil.registry.write record }, [.ready point])
  | .driverBinding binding driver, .resolved =>
    some ({ sil with native := sil.native.ownDevice binding.deviceId driver },
      [.ready (.hostBound binding.deviceId)])
  | .driverBinding binding _, .rejected thrown =>
    some (sil, [.ready (.hostFailed binding.deviceId thrown)])
  | .releasing deviceId remove, .resolved =>
    some (transitionTo persistent sil .unbound (.unbound deviceId remove))
  | .removing deviceId, .resolved =>
    some ({ sil with registry := sil.registry.delete deviceId }, [])
  -- What the store or the driver's `unbind` throws ends the operation.
  | _, .rejected _ => some (sil, [])

def program (persistent : Bool) : Program SilState Request Call Reply :=
  ⟨startCall persistent, resumeCall persistent⟩

/-- Records as they are after boot, and an engine without a bound device. -/
structure BootState where
  sil : SilState
  unowned : sil.native.adapter.ownerByDevice = .empty
  keyed : ∀ deviceId record, sil.registry.get deviceId = some record → record.deviceId = deviceId

def IsReleased (sil : SilState) (deviceId : DeviceId) : Prop :=
  sil.registry.stateOf deviceId = none ∨ sil.registry.stateOf deviceId = some .unbound

instance (sil : SilState) (deviceId : DeviceId) : Decidable (IsReleased sil deviceId) :=
  inferInstanceAs (Decidable (_ ∨ _))

variable (config : Config SilState Call)

/-- When no call is in flight, no driver owns a device that is released. -/
def ReleasesOwners : Prop :=
  config.pending = [] → ∀ deviceId, IsReleased config.shared deviceId →
    config.shared.native.adapter.ownerByDevice.get deviceId = none

/-- The call belongs to an unbind that is yet to write `unbound` or to remove the record. -/
def Call.releases (deviceId : DeviceId) : Call → Bool
  | .releasing other _ => decide (other = deviceId)
  | .storing _ (.unbound other _) => decide (other = deviceId)
  | .ready (.unbound other remove) => remove && decide (other = deviceId)
  | .removing other => decide (other = deviceId)
  | _ => false

/--
The call may end well: the device of a driver's `bind` is not released and no
unbind of it is in flight, and the device of an `assign` has no owner.
-/
def Call.EndsHeld : Call → Prop
  | .driverBinding binding _ =>
    ¬ IsReleased config.shared binding.deviceId ∧
      ∀ call ∈ config.pending, call.releases binding.deviceId = false
  | .storing record (.assigned _ _) =>
    config.shared.native.adapter.ownerByDevice.get record.deviceId = none
  | _ => True

instance decidableEndsHeld (config : Config SilState Call) :
    ∀ call : Call, Decidable (call.EndsHeld config)
  | .driverBinding _ _ => inferInstanceAs (Decidable (_ ∧ _))
  | .storing _ (.assigned _ _) => inferInstanceAs (Decidable (_ = _))
  | .storing _ (.binding _ _) | .storing _ (.hostBound _) | .storing _ (.hostFailed _ _)
  | .storing _ (.bound _) | .storing _ (.online _) | .storing _ (.failed _)
  | .storing _ (.unbound _ _) | .ready _ | .releasing _ _ | .removing _ => isTrue trivial

/-- Every driver's `bind` and every store call of an `assign` that ends well is held. -/
def BindsHeld : Schedule Request Reply → Prop
  | .resume index .resolved => ∀ call ∈ config.pending[index]?, call.EndsHeld config
  | _ => True

instance decidableBindsHeld (config : Config SilState Call) :
    ∀ label, Decidable (BindsHeld config label) := by
  intro label
  unfold BindsHeld
  split <;> infer_instance

def HoldsFirmly : Prop :=
  ∀ deviceId, config.shared.native.adapter.ownerByDevice.get deviceId ≠ none →
    ¬ IsReleased config.shared deviceId ∧ ∀ call ∈ config.pending, call.releases deviceId = false

variable {sil : SilState} {point : Point} {record : DeviceProviderRecord}
    {outcome : SilState × List Call} {config : Config SilState Call} {next : DeviceLifecycleState}
    {binding : ProtocolBinding}

theorem HoldsFirmly.releasesOwners (firm : HoldsFirmly config) : ReleasesOwners config := by
  intro _ deviceId released
  by_contra owned
  exact (firm deviceId owned).1 released

/-- The state whose store a point comes after. -/
def Point.written : Point → Option DeviceLifecycleState
  | .assigned _ _ => some .unbound
  | .binding _ _ => some .binding
  | .hostBound _ => none
  | .hostFailed _ _ => none
  | .bound _ => some .bound
  | .online _ => some .online
  | .failed _ => some .error
  | .unbound _ _ => some .unbound

/-- Every record is stored under its own device. -/
def Keyed (sil : SilState) : Prop :=
  ∀ deviceId record, sil.registry.get deviceId = some record → record.deviceId = deviceId

/-- A pending store writes the state and the device that its point belongs to. -/
def Call.Consistent : Call → Prop
  | .storing record point =>
    record.deviceId = point.deviceId ∧ point.written = some record.state
  | _ => True

def LeavesConsistent (outcome : SilState × List Call) : Prop :=
  Keyed outcome.1 ∧ ∀ call ∈ outcome.2, call.Consistent

theorem Keyed.write (keyed : Keyed sil) (record : DeviceProviderRecord) :
    Keyed { sil with registry := sil.registry.write record } := by
  intro deviceId found stored
  simp only [ProviderRegistry.get_write] at stored
  split at stored
  · rename_i same
    exact (some.inj stored) ▸ same.symm
  · exact keyed deviceId found stored

theorem Keyed.delete (keyed : Keyed sil) (removed : DeviceId) :
    Keyed { sil with registry := sil.registry.delete removed } := by
  intro deviceId found stored
  simp only [ProviderRegistry.get_delete] at stored
  split at stored
  · simp at stored
  · exact keyed deviceId found stored

theorem leavesConsistent_storeRecord (persistent : Bool) (keyed : Keyed sil)
    (same : record.deviceId = point.deviceId) (written : point.written = some record.state) :
    LeavesConsistent (storeRecord persistent sil record point) := by
  simp only [storeRecord]
  split
  · refine ⟨keyed, ?_⟩
    simp only [mem_singleton, forall_eq]
    exact ⟨same, written⟩
  · refine ⟨keyed.write record, ?_⟩
    simp [Call.Consistent]

theorem leavesConsistent_transitionTo (persistent : Bool) (keyed : Keyed sil)
    (written : point.written = some next) :
    LeavesConsistent (transitionTo persistent sil next point) := by
  simp only [transitionTo]
  split
  · exact ⟨keyed, by simp⟩
  · rename_i record checked
    rcases ProviderRegistry.transitionRecord_eq_ok_iff.mp checked with
      ⟨current, found, _, rfl⟩
    exact leavesConsistent_storeRecord persistent keyed (keyed _ current found) written

theorem leavesConsistent_continueAt (persistent : Bool) (keyed : Keyed sil) (point : Point) :
    LeavesConsistent (continueAt persistent sil point) := by
  cases point with
  | binding target provider =>
    simp only [continueAt]
    split <;> exact ⟨keyed, by simp [Call.Consistent]⟩
  | unbound deviceId remove =>
    simp only [continueAt]
    split
    · split
      · exact ⟨keyed, by simp [Call.Consistent]⟩
      · exact ⟨keyed.delete deviceId, by simp⟩
    · exact ⟨keyed, by simp⟩
  | online deviceId => exact ⟨keyed, by simp [continueAt]⟩
  | failed deviceId => exact ⟨keyed, by simp [continueAt]⟩
  | assigned target provider => exact leavesConsistent_transitionTo persistent keyed rfl
  | hostBound deviceId => exact leavesConsistent_transitionTo persistent keyed rfl
  | hostFailed deviceId thrown => exact leavesConsistent_transitionTo persistent keyed rfl
  | bound deviceId => exact leavesConsistent_transitionTo persistent keyed rfl

theorem leavesConsistent_unbindFrom (keyed : Keyed sil) (deviceId : DeviceId) (remove : Bool) :
    LeavesConsistent (unbindFrom sil deviceId remove) := by
  simp only [unbindFrom]
  split
  · refine ⟨keyed, ?_⟩
    cases remove <;> simp [Call.Consistent]
  · exact ⟨keyed, by simp [Call.Consistent]⟩

theorem leavesConsistent_startCall (persistent : Bool) (keyed : Keyed sil) (request : Request) :
    LeavesConsistent (startCall persistent sil request) := by
  cases request with
  | bind binding provider =>
    simp only [startCall]
    split
    · exact leavesConsistent_continueAt persistent keyed _
    · exact leavesConsistent_storeRecord persistent keyed rfl rfl
  | unbind deviceId => exact leavesConsistent_unbindFrom keyed deviceId false
  | unbindDevice deviceId => exact leavesConsistent_unbindFrom keyed deviceId true

theorem leavesConsistent_resumeCall {persistent : Bool}
    (keyed : Keyed sil) {call : Call} {reply : Reply}
    (resumed : resumeCall persistent sil call reply = some outcome) :
    LeavesConsistent outcome := by
  cases reply with
  | rejected thrown =>
    cases call <;> simp only [resumeCall, some.injEq, reduceCtorEq] at resumed <;>
      (subst resumed; exact ⟨keyed, by simp [Call.Consistent]⟩)
  | resolved =>
    cases call with
    | ready point =>
      cases resumed
      exact leavesConsistent_continueAt persistent keyed point
    | storing record point =>
      cases resumed
      exact ⟨keyed.write record, by simp [Call.Consistent]⟩
    | driverBinding binding driver =>
      cases resumed
      exact ⟨keyed, by simp [Call.Consistent]⟩
    | releasing deviceId remove =>
      cases resumed
      exact leavesConsistent_transitionTo persistent keyed rfl
    | removing deviceId =>
      cases resumed
      exact ⟨keyed.delete deviceId, by simp⟩

theorem consistent_step (persistent : Bool) (config : Config SilState Call)
    (label : Schedule Request Reply) (next : Config SilState Call)
    (consistent : Program.Holds Keyed (fun _ => Call.Consistent) config)
    (step : (program persistent).machine.step config label = some next) :
    Program.Holds Keyed (fun _ => Call.Consistent) next := by
  have rule := @Program.holds_step _ _ _ _ (program persistent) Keyed
    (fun _ => Call.Consistent) (fun _ _ => True)
  refine rule ?_ ?_ config label next consistent trivial step
  · intro config request holds _
    rcases leavesConsistent_startCall persistent holds.1 request with ⟨keyed, fresh⟩
    exact ⟨keyed, fresh, holds.2⟩
  · intro config before call after reply shared more holds split _ resumed
    rcases leavesConsistent_resumeCall holds.1 resumed with ⟨keyed, fresh⟩
    refine ⟨keyed, fresh, ?_⟩
    intro other member
    apply holds.2
    rw [split]
    simp only [mem_append, mem_cons] at member ⊢
    tauto

def IsOwned (sil : SilState) (deviceId : DeviceId) : Prop :=
  sil.native.adapter.ownerByDevice.get deviceId ≠ none

/--
A segment that gives no device a new owner, releases no device that keeps its
owner, and leaves no call behind that will.
-/
def Calm (sil : SilState) (outcome : SilState × List Call) : Prop :=
  ∀ deviceId, IsOwned outcome.1 deviceId → IsOwned sil deviceId ∧
      (¬ IsReleased sil deviceId → ¬ IsReleased outcome.1 deviceId) ∧
      ∀ call ∈ outcome.2, call.releases deviceId = false

theorem HoldsFirmly.of_calm (firm : HoldsFirmly config) (calm : Calm config.shared outcome)
    {pending : List Call} (origin : ∀ call ∈ pending, call ∈ config.pending ∨ call ∈ outcome.2) :
    HoldsFirmly ⟨outcome.1, pending⟩ := by
  intro deviceId owned
  rcases calm deviceId owned with ⟨before, kept, fresh⟩
  rcases firm deviceId before with ⟨held, quiet⟩
  refine ⟨kept held, ?_⟩
  intro call member
  rcases origin call member with old | new
  · exact quiet call old
  · exact fresh call new

theorem calm_same {more : List Call} (quiet : ∀ deviceId, IsOwned sil deviceId →
      ∀ call ∈ more, call.releases deviceId = false) :
    Calm sil (sil, more) :=
  fun deviceId owned => ⟨owned, id, quiet deviceId owned⟩

theorem isReleased_write {deviceId : DeviceId} :
    IsReleased { sil with registry := sil.registry.write record } deviceId ↔
      if deviceId = record.deviceId then record.state = .unbound
      else IsReleased sil deviceId := by
  simp only [IsReleased, ProviderRegistry.stateOf_write]
  split <;> simp

/-- The device of the point has no owner, or the point is not part of an unbind. -/
def Harmless (sil : SilState) (point : Point) (next : DeviceLifecycleState) : Prop :=
  IsOwned sil point.deviceId → next ≠ .unbound ∧ ∀ deviceId remove, point ≠ .unbound deviceId remove

theorem releases_of_harmless (harmless : Harmless sil point record.state)
    {deviceId : DeviceId} (owned : IsOwned sil deviceId) :
    (Call.storing record point).releases deviceId = false ∧
      (Call.ready point).releases deviceId = false := by
  cases point with
  | unbound other remove =>
    have differs : other ≠ deviceId := by
      rintro rfl
      exact (harmless owned).2 other remove rfl
    simp [Call.releases, differs]
  | _ => exact ⟨rfl, rfl⟩

theorem calm_write (same : record.deviceId = point.deviceId)
    (harmless : Harmless sil point record.state) :
    Calm sil ({ sil with registry := sil.registry.write record }, [.ready point]) := by
  intro deviceId owned
  refine ⟨owned, ?_, ?_⟩
  · rw [isReleased_write]
    intro held
    split
    · rename_i here
      exact (harmless (by rw [← same, ← here]; exact owned)).1
    · exact held
  · simp only [mem_singleton, forall_eq]
    exact (releases_of_harmless harmless owned).2

theorem calm_storeRecord (persistent : Bool) (same : record.deviceId = point.deviceId)
    (harmless : Harmless sil point record.state) :
    Calm sil (storeRecord persistent sil record point) := by
  simp only [storeRecord]
  split
  · apply calm_same
    intro deviceId owned
    simp only [mem_singleton, forall_eq]
    exact (releases_of_harmless harmless owned).1
  · exact calm_write same harmless

theorem calm_transitionTo (persistent : Bool) (keyed : Keyed sil)
    (harmless : Harmless sil point next) :
    Calm sil (transitionTo persistent sil next point) := by
  simp only [transitionTo]
  split
  · exact calm_same (by simp)
  · rename_i record checked
    rcases ProviderRegistry.transitionRecord_eq_ok_iff.mp checked with
      ⟨current, found, _, rfl⟩
    exact calm_storeRecord persistent (keyed _ current found) harmless

theorem calm_delete {deviceId : DeviceId} (unowned : ¬ IsOwned sil deviceId) :
    Calm sil ({ sil with registry := sil.registry.delete deviceId }, []) := by
  intro other owned
  have differs : other ≠ deviceId := by
    rintro rfl
    exact unowned owned
  refine ⟨owned, ?_, by simp⟩
  simp only [IsReleased, ProviderRegistry.stateOf_delete, if_neg differs]
  exact id

/-- Going on is calm, if the device of an unbind has no owner. -/
theorem calm_continueAt (persistent : Bool) (keyed : Keyed sil)
    (unowned : ∀ deviceId, point = .unbound deviceId true → ¬ IsOwned sil deviceId) :
    Calm sil (continueAt persistent sil point) := by
  have harmless (next : DeviceLifecycleState) (point : Point) (proper : next ≠ .unbound)
      (other : ∀ deviceId remove, point ≠ .unbound deviceId remove) :
      Harmless sil point next := fun _ => ⟨proper, other⟩
  cases point with
  | binding target provider =>
    simp only [continueAt]
    split <;> exact calm_same (by simp [Call.releases])
  | unbound deviceId remove =>
    cases remove with
    | false => exact calm_same (by simp)
    | true =>
      have free := unowned deviceId rfl
      simp only [continueAt, if_true]
      split
      · apply calm_same
        intro other owned
        have differs : deviceId ≠ other := by
          rintro rfl
          exact free owned
        simp [Call.releases, differs]
      · exact calm_delete free
  | online deviceId => exact calm_same (by simp)
  | failed deviceId => exact calm_same (by simp)
  | assigned target provider =>
    exact calm_transitionTo persistent keyed (harmless _ _ (by decide) (by simp))
  | hostBound deviceId =>
    exact calm_transitionTo persistent keyed (harmless _ _ (by decide) (by simp))
  | hostFailed deviceId thrown =>
    exact calm_transitionTo persistent keyed (harmless _ _ (by decide) (by simp))
  | bound deviceId =>
    exact calm_transitionTo persistent keyed (harmless _ _ (by decide) (by simp))

theorem calm_unbindFrom (deviceId : DeviceId) (remove : Bool)
    (held : IsOwned sil deviceId → ¬ IsReleased sil deviceId) :
    Calm sil (unbindFrom sil deviceId remove) := by
  simp only [unbindFrom]
  split
  · rename_i released
    apply calm_same
    intro other owned
    have differs : deviceId ≠ other := by
      rintro rfl
      exact held owned released
    cases remove <;> simp [Call.releases, differs]
  · intro other owned
    have differs : other ≠ deviceId := by
      rintro rfl
      exact owned (by simp [NativeWorld.releaseDevice])
    have before : IsOwned sil other := by
      simpa [IsOwned, NativeWorld.releaseDevice, differs] using owned
    refine ⟨before, id, ?_⟩
    have unequal : ¬ deviceId = other := fun equal => differs equal.symm
    simp [Call.releases, unequal]

theorem calm_startCall (persistent : Bool) (keyed : Keyed sil) (request : Request)
    (held : ∀ deviceId, IsOwned sil deviceId → ¬ IsReleased sil deviceId) :
    Calm sil (startCall persistent sil request) := by
  cases request with
  | bind binding provider =>
    simp only [startCall]
    split
    · exact calm_continueAt persistent keyed (by simp)
    · rename_i absent
      apply calm_storeRecord persistent rfl
      intro owned
      refine absurd ?_ (held _ owned)
      exact .inl (by
        show (sil.registry.get binding.deviceId).map _ = none
        rw [absent]
        rfl)
  | unbind deviceId => exact calm_unbindFrom deviceId false (held deviceId)
  | unbindDevice deviceId => exact calm_unbindFrom deviceId true (held deviceId)

/-- The only segments that are not always calm are the two that `BindsHeld` speaks of. -/
theorem calm_resumeCall {persistent : Bool} (keyed : Keyed sil)
    {call : Call} (consistent : call.Consistent) {reply : Reply}
    (quiet : ∀ deviceId, IsOwned sil deviceId → call.releases deviceId = false)
    (notBinding : ∀ binding driver, reply = .resolved → call ≠ .driverBinding binding driver)
    (notAssigning : ∀ record binding provider, reply = .resolved →
      call ≠ .storing record (.assigned binding provider))
    (resumed : resumeCall persistent sil call reply = some outcome) :
    Calm sil outcome := by
  cases reply with
  | rejected thrown =>
    cases call <;> simp only [resumeCall, some.injEq, reduceCtorEq] at resumed <;>
      (subst resumed; exact calm_same (by simp [Call.releases]))
  | resolved =>
    cases call with
    | ready point =>
      cases resumed
      apply calm_continueAt persistent keyed
      rintro deviceId rfl owned
      simpa [Call.releases] using quiet deviceId owned
    | storing record point =>
      cases resumed
      rcases consistent with ⟨same, written⟩
      apply calm_write same
      intro owned
      cases point with
      | assigned binding provider =>
        exact (notAssigning record binding provider rfl rfl).elim
      | unbound deviceId remove =>
        simpa [Call.releases, Point.deviceId] using quiet _ owned
      | hostBound deviceId => simp [Point.written] at written
      | hostFailed deviceId thrown => simp [Point.written] at written
      | _ =>
        refine ⟨?_, by simp⟩
        rw [← some.inj written]
        decide
    | driverBinding binding driver => exact (notBinding binding driver rfl rfl).elim
    | releasing deviceId remove =>
      cases resumed
      apply calm_transitionTo persistent keyed
      intro owned
      simpa [Call.releases, Point.deviceId] using quiet _ owned
    | removing deviceId =>
      cases resumed
      apply calm_delete
      intro owned
      simpa [Call.releases] using quiet _ owned

theorem holdsFirmly_driverBinding_iff {before after : List Call} {driver : NativeProtocolDriver}
    (firm : HoldsFirmly ⟨sil, before ++ .driverBinding binding driver :: after⟩) :
    HoldsFirmly ⟨{ sil with native := sil.native.ownDevice binding.deviceId driver },
        before ++ [.ready (.hostBound binding.deviceId)] ++ after⟩ ↔
      ¬ IsReleased sil binding.deviceId ∧ ∀ call ∈ before ++ .driverBinding binding driver :: after,
          call.releases binding.deviceId = false := by
  constructor
  · intro held
    rcases held binding.deviceId (by simp [NativeWorld.ownDevice]) with ⟨bound, quiet⟩
    refine ⟨bound, ?_⟩
    intro call member
    simp only [mem_append, mem_cons] at member
    rcases member with old | rfl | old
    · exact quiet call (by simp [old])
    · rfl
    · exact quiet call (by simp [old])
  · rintro ⟨bound, quiet⟩ deviceId owned
    by_cases here : deviceId = binding.deviceId
    · subst here
      refine ⟨bound, ?_⟩
      intro call member
      simp only [mem_append, mem_singleton] at member
      rcases member with (old | rfl) | old
      · exact quiet call (by simp [old])
      · rfl
      · exact quiet call (by simp [old])
    · have ownedBefore : sil.native.adapter.ownerByDevice.get deviceId ≠ none := by
        simpa [NativeWorld.ownDevice, here] using owned
      rcases firm deviceId ownedBefore with ⟨held, others⟩
      refine ⟨held, ?_⟩
      intro call member
      simp only [mem_append, mem_singleton] at member
      rcases member with (old | rfl) | old
      · exact others call (by simp [old])
      · rfl
      · exact others call (by simp [old])

theorem holdsFirmly_assigning_iff {before after : List Call} {provider : String}
    (same : record.deviceId = binding.deviceId) (unbound : record.state = .unbound)
    (firm : HoldsFirmly ⟨sil, before ++ .storing record (.assigned binding provider) :: after⟩) :
    HoldsFirmly ⟨{ sil with registry := sil.registry.write record },
        before ++ [.ready (.assigned binding provider)] ++ after⟩ ↔
      sil.native.adapter.ownerByDevice.get record.deviceId = none := by
  constructor
  · intro held
    by_contra owned
    apply (held record.deviceId owned).1
    rw [isReleased_write, if_pos rfl]
    exact unbound
  · intro unowned
    have calm : Calm sil ({ sil with registry := sil.registry.write record },
        [.ready (.assigned binding provider)]) := by
      apply calm_write same
      intro owned
      exact (owned (by rw [← unowned, same]; rfl)).elim
    apply firm.of_calm calm
    intro call member
    simp only [mem_append, mem_cons, not_mem_nil, or_false] at member ⊢
    tauto

theorem holdsFirmly_step_iff (persistent : Bool) (config : Config SilState Call)
    (label : Schedule Request Reply) (next : Config SilState Call)
    (consistent : Program.Holds Keyed (fun _ => Call.Consistent) config) (firm : HoldsFirmly config)
    (step : (program persistent).machine.step config label = some next) :
    HoldsFirmly next ↔ BindsHeld config label := by
  cases label with
  | call request =>
    obtain rfl := Program.step_call_eq_some.mp step
    refine iff_of_true (firm.of_calm ?_ ?_) trivial
    · exact calm_startCall persistent consistent.1 request
        fun deviceId owned => (firm deviceId owned).1
    · intro call member
      exact mem_append.mp member
  | resume index reply =>
    rcases Program.step_resume_eq_some.mp step with
      ⟨before, call, after, shared, more, split, rfl, resumed, rfl⟩
    have found : config.pending[before.length]? = some call := by
      simp [split]
    have member : call ∈ config.pending := by
      simp [split]
    -- Every other segment is calm.
    have otherwise (notBinding : ∀ binding driver, reply = .resolved →
          call ≠ .driverBinding binding driver)
        (notAssigning : ∀ record binding provider, reply = .resolved →
          call ≠ .storing record (.assigned binding provider)) :
        HoldsFirmly ⟨shared, before ++ more ++ after⟩ := by
      apply firm.of_calm (calm_resumeCall consistent.1 (consistent.2 call member)
        (fun deviceId owned => (firm deviceId owned).2 call member) notBinding
        notAssigning resumed)
      intro other among
      rw [split]
      simp only [mem_append, mem_cons] at among ⊢
      tauto
    cases reply with
    | rejected thrown => exact iff_of_true (otherwise (by simp) (by simp)) trivial
    | resolved =>
      simp only [BindsHeld, found, Option.mem_def, some.injEq, forall_eq']
      cases call with
      | driverBinding binding driver =>
        rcases config with ⟨sil, pending⟩
        subst split
        rcases Prod.mk.inj (some.inj resumed) with ⟨rfl, rfl⟩
        exact holdsFirmly_driverBinding_iff firm
      | storing record point =>
        cases point with
        | assigned binding provider =>
          rcases config with ⟨sil, pending⟩
          subst split
          rcases Prod.mk.inj (some.inj resumed) with ⟨rfl, rfl⟩
          rcases consistent.2 _ member with ⟨same, written⟩
          exact holdsFirmly_assigning_iff same (some.inj written).symm firm
        | _ => exact iff_of_true (otherwise (by simp) (by simp)) trivial
      | ready point => exact iff_of_true (otherwise (by simp) (by simp)) trivial
      | releasing deviceId remove =>
        exact iff_of_true (otherwise (by simp) (by simp)) trivial
      | removing deviceId => exact iff_of_true (otherwise (by simp) (by simp)) trivial

theorem holdsFirmly_iff_bindsHeld (persistent : Bool) (boot : BootState)
    (labels : List (Schedule Request Reply)) :
    (program persistent).machine.Throughout HoldsFirmly (Program.idle boot.sil) labels ↔
      (program persistent).machine.Guarded BindsHeld (Program.idle boot.sil) labels := by
  apply Machine.throughout_iff_guarded
    (Program.Holds Keyed fun _ => Call.Consistent) (holdsFirmly_step_iff persistent)
  · intro config label next consistent _ _ step
    exact consistent_step persistent config label next consistent step
  · exact Program.holds_idle boot.keyed
  · intro deviceId owned
    exact (owned (by simp [Program.idle, boot.unowned])).elim

/--
Over every interleaving of `bind`, `unbind` and `unbindDevice` in which every
bind is held: whenever nothing is in flight, a device that is unbound or has
no record is owned by no driver.
-/
theorem releasesOwners_of_bindsHeld (persistent : Bool) (boot : BootState)
    (labels : List (Schedule Request Reply))
    (held : (program persistent).machine.Guarded BindsHeld (Program.idle boot.sil) labels) :
    (program persistent).machine.Throughout ReleasesOwners (Program.idle boot.sil)
      labels :=
  ((holdsFirmly_iff_bindsHeld persistent boot labels).mpr held).mono
    fun _ firm => firm.releasesOwners

def oneDriverBoot : BootState where
  sil := ⟨.empty, .create [⟨0, "knx", false, true⟩] .empty .empty⟩
  unowned := rfl
  keyed := by simp

/-- A device that is bound and unbound again, without any overlap. -/
theorem releasesOwners_bind_unbind :
    (program false).machine.Throughout ReleasesOwners (Program.idle oneDriverBoot.sil)
      [.call (.bind ⟨"device-1", .onoff, "1/1/1", none⟩ "knx"), .resume 0 .resolved,
        .resume 0 .resolved, .resume 0 .resolved, .resume 0 .resolved,
        .resume 0 .resolved, .resume 0 .resolved,
        .call (.unbind "device-1"), .resume 0 .resolved, .resume 0 .resolved] :=
  releasesOwners_of_bindsHeld false oneDriverBoot _ (by decide)

/--
A device is unbound while the driver's `bind` is pending.  The driver becomes
its owner all the same, and the transition to `bound` that throws comes later.
-/
theorem unbound_device_is_owned :
    ¬ (program false).machine.Throughout ReleasesOwners (Program.idle oneDriverBoot.sil)
      [.call (.bind ⟨"device-1", .onoff, "1/1/1", none⟩ "knx"), .resume 0 .resolved,
        .resume 0 .resolved, .call (.unbind "device-1"), .resume 1 .resolved,
        .resume 1 .resolved, .resume 0 .resolved, .resume 0 .resolved] := by
  intro throughout
  have releases := Machine.property_of_throughout throughout rfl
  have unowned := releases rfl "device-1" (by decide)
  revert unowned
  decide

end DriverBindingRuns

end SupremeOs.IntegrationLayer
