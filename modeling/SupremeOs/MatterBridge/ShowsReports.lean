import Mathlib.Data.Fintype.Basic
import SupremeOs.MatterBridge.Indexes
import SupremeOs.MatterBridge.ReportHistory

/-!
# Matter shows what was reported last

Once nothing is under way, an exposed endpoint shows of each capability that it
declares the state that was read or reported last, unless just the write of
that state was rejected.  The driver does so in every run in which no state is
lost: none is skipped that the server has not taken, none is ignored that a
shown endpoint declares, and none is read for an endpoint that the server has
already and shows otherwise.
-/

namespace SupremeOs.MatterBridge

open Support DomainModel List OrderedMap Option

namespace ReportingBridge

variable (bridge : ReportingBridge)

def Idle : Prop :=
  bridge.waiting.entries = [] ∧ bridge.writes.length = 0

def shows (endpointNumber : Nat) (kind : CapabilityKind) : Option BridgedState :=
  (bridge.endpoints.get endpointNumber).bind fun attributes => attributes.get kind

/-- The attributes are those of the last state, except where its own write was rejected. -/
def Reflects (shown : Option BridgedState) : Moment → Prop
  | .read _ _ state => shown = state
  | .reported _ _ (.written true) => True
  | .reported _ state _ => shown = some state
  | .exposed _ => True

/-- Every exposed endpoint shows of its capabilities what was read or reported last. -/
def Shown : Prop :=
  ∀ deviceId endpointNumber, bridge.driver.endpointByDevice.get deviceId = some endpointNumber →
    ∀ kind, declares bridge.driver endpointNumber kind = true →
      ∀ moment ∈ mostRecent bridge.history deviceId kind,
        Reflects (bridge.shows endpointNumber kind) moment

def WritesAgain (before : ReportingBridge) (label : ReportLabel) (after : ReportingBridge) : Prop :=
  match label with
  | .reported deviceId state _ =>
    ∀ endpointNumber ∈ before.driver.endpointByDevice.get deviceId,
      declares before.driver endpointNumber state.kind = true →
        lastRejected deviceId state before.history = true → ∃ rejected, after.history =
            .reported deviceId state (.written rejected) :: before.history
  | .exposeDevice _ _ | .start | .serverStarted _ _ | .stateRead _ _ | .endpointAdded _ _
  | .nameUpdated _ _ | .settled _ => True

/-- What an attribute will show when the writes under way have ended. -/
def willShow (endpointNumber : Nat) (kind : CapabilityKind) : Option BridgedState :=
  match bridge.writes.reverse.find? fun write =>
      !write.rejects && decide (write.endpointNumber = endpointNumber ∧ write.state.kind = kind)
  with
  | some write => some write.state
  | none => bridge.shows endpointNumber kind

/-- A state that would be skipped is one that the server takes or has taken. -/
def NotSkippedWrongly (deviceId : String) (state : BridgedState) (endpointNumber : Nat) : Prop :=
  bridge.driver.lastReported.get endpointNumber = some state.serialized →
    lastRejected deviceId state bridge.history = false

/-- What was read for an endpoint that the server has already is what it shows or will show. -/
def NotReadInVain (number : Nat) (turn : Turn) (initialState : Option BridgedState) : Prop :=
  bridge.endpoints.has turn.mapping.endpointNumber = true → ∀ state ∈ initialState,
      bridge.willShow turn.mapping.endpointNumber state.kind = some state ∨
        reportedSince number turn.deviceId state.kind bridge.history = true

/-- The last state of none of the capabilities that become declared was ignored. -/
def NothingMissed (number : Nat) (turn : Turn) : Prop :=
  ∀ kind, declares (bridge.track number turn).driver turn.mapping.endpointNumber kind = true →
    ∀ moment ∈ mostRecent (bridge.track number turn).history turn.deviceId kind,
      ignoredReport moment = false

def NothingLost : ReportLabel → Prop
  | .exposeDevice _ _ =>
    ∀ mapping ∈ bridge.driver.store.list, mapping.endpointNumber + 1 < 2 ^ 53
  | .reported deviceId state _ =>
    ∀ endpointNumber ∈ bridge.driver.endpointByDevice.get deviceId,
      declares bridge.driver endpointNumber state.kind = true →
        0 < bridge.listeners ∧ bridge.NotSkippedWrongly deviceId state endpointNumber
  | .endpointAdded number none =>
    match bridge.waiting.get number with
    | some (.adding turn initialState) =>
      turn.control = none → bridge.NotReadInVain number turn initialState ∧
          (turn.rest.isSome = true → bridge.NothingMissed number turn)
    | _ => True
  | .nameUpdated number none =>
    match bridge.waiting.get number with
    | some (.naming turn) => bridge.NothingMissed number turn
    | _ => True
  | .endpointAdded _ (some _) | .nameUpdated _ (some _) | .start | .serverStarted _ _
  | .stateRead _ _ | .settled _ => True

instance : Fintype CapabilityKind :=
  Fintype.ofList [.onoff, .brightness, .color, .temperature, .position, .media, .lock, .fan,
    .vacuum, .sensor, .remote, .display] fun kind => by cases kind <;> decide

instance (bridge : ReportingBridge) (deviceId : String) (state : BridgedState)
    (endpointNumber : Nat) :
    Decidable (bridge.NotSkippedWrongly deviceId state endpointNumber) :=
  inferInstanceAs (Decidable (_ → _))

instance (bridge : ReportingBridge) (number : Nat) (turn : Turn)
    (initialState : Option BridgedState) :
    Decidable (bridge.NotReadInVain number turn initialState) := inferInstanceAs (Decidable (_ → _))

instance (bridge : ReportingBridge) (number : Nat) (turn : Turn) :
    Decidable (bridge.NothingMissed number turn) := inferInstanceAs (Decidable (∀ _, _))

instance decidableNothingLost (bridge : ReportingBridge) :
    ∀ label, Decidable (bridge.NothingLost label)
  | .exposeDevice _ _ => inferInstanceAs (Decidable (∀ mapping ∈ bridge.driver.store.list, _))
  | .reported deviceId _ _ =>
    inferInstanceAs (Decidable (∀ endpointNumber ∈ bridge.driver.endpointByDevice.get deviceId, _))
  | .endpointAdded number none =>
    match found : bridge.waiting.get number with
    | some (.adding turn initialState) =>
      decidable_of_iff (turn.control = none → bridge.NotReadInVain number turn initialState ∧
            (turn.rest.isSome = true → bridge.NothingMissed number turn))
        (by rw [NothingLost, found])
    | none | some .starting | some (.reading _ _) | some (.naming _) =>
      isTrue (by rw [NothingLost, found]; trivial)
  | .nameUpdated number none =>
    match found : bridge.waiting.get number with
    | some (.naming turn) =>
      decidable_of_iff (bridge.NothingMissed number turn) (by rw [NothingLost, found])
    | none | some .starting | some (.reading _ _) | some (.adding _ _) =>
      isTrue (by rw [NothingLost, found]; trivial)
  | .endpointAdded _ (some _) | .nameUpdated _ (some _) | .start | .serverStarted _ _
  | .stateRead _ _ | .settled _ => isTrue trivial

/-- A mapping of a turn is still recorded, with its number. -/
def Listed (store : MatterEndpointStore) (mapping : MatterEndpointMapping) : Prop :=
  ∃ found, store.get mapping.key = some found ∧ found.endpointNumber = mapping.endpointNumber ∧
      namedControl found.controlId = namedControl mapping.controlId

structure TurnListed (store : MatterEndpointStore) (turn : Turn) : Prop where
  own : Listed store turn.mapping
  device : turn.deviceId = turn.mapping.deviceId
  control : turn.rest = none → namedControl turn.mapping.controlId = none
  rest : ∀ mapping ∈ turn.rest.getD [], Listed store mapping

def ReadShown (number : Nat) (turn : Turn) : Prop :=
  ∀ state, .read number turn.deviceId (some state) ∈ bridge.history →
    bridge.willShow turn.mapping.endpointNumber state.kind = some state ∨
      reportedSince number turn.deviceId state.kind bridge.history = true

/-- What is known of a call that waits. -/
def Awaits (number : Nat) : Waiting → Prop
  | .starting => True
  | .reading turn _ =>
    TurnListed bridge.driver.store turn ∧
      ∀ deviceId state, .read number deviceId state ∉ bridge.history
  | .adding turn initialState =>
    TurnListed bridge.driver.store turn ∧
      ∀ deviceId state, .read number deviceId state ∈ bridge.history →
        deviceId = turn.deviceId ∧ state = initialState
  | .naming turn =>
    TurnListed bridge.driver.store turn ∧
      (∀ deviceId state, .read number deviceId state ∈ bridge.history → deviceId = turn.deviceId) ∧
      bridge.endpoints.has turn.mapping.endpointNumber = true ∧ bridge.ReadShown number turn

structure Kept (bridge : ReportingBridge) : Prop where
  sound : MatterBridgeDriver.Sound 0 bridge.driver
  typed : ∀ deviceId number, bridge.driver.endpointByDevice.get deviceId = some number →
    (bridge.driver.deviceTypeByEndpoint.get number).isSome = true
  present : ∀ deviceId number, bridge.driver.endpointByDevice.get deviceId = some number →
    bridge.endpoints.has number = true
  written : ∀ write ∈ bridge.writes, bridge.endpoints.has write.endpointNumber = true
  past : ∀ moment ∈ bridge.history, ∀ turn ∈ Moment.turn moment, turn < bridge.nextTurn
  waiting : ∀ number waits, bridge.waiting.get number = some waits →
    number < bridge.nextTurn ∧ .exposed number ∉ bridge.history ∧ bridge.Awaits number waits
  /-- What was handed over last is shown, unless it was rejected. -/
  slot : ∀ number text, bridge.driver.lastReported.get number = some text →
    ∃ deviceId state, bridge.driver.endpointByDevice.get deviceId = some number ∧
      text = state.serialized ∧ (lastRejected deviceId state bridge.history = false →
        bridge.willShow number state.kind = some state)
  reported : ∀ deviceId kind state handled,
    newestReport deviceId kind bridge.history = some (state, handled) →
      handled = .skipped ∨ handled = .written false →
        ∃ number, bridge.driver.endpointByDevice.get deviceId = some number ∧
          bridge.willShow number kind = some state
  read : ∀ deviceId kind turn state,
    mostRecent bridge.history deviceId kind = some (.read turn deviceId (some state)) →
      ∃ number, bridge.driver.endpointByDevice.get deviceId = some number ∧
        bridge.willShow number kind = some state
  noticed : ∀ deviceId number kind, bridge.driver.endpointByDevice.get deviceId = some number →
      declares bridge.driver number kind = true →
        ∀ moment ∈ mostRecent bridge.history deviceId kind, ignoredReport moment = false

/-! ### What will be shown -/

section WillShow

variable {bridge : ReportingBridge} {number : Nat} {kind : CapabilityKind}

theorem willShow_write (write : AttributeWrite) (number : Nat) (kind : CapabilityKind) :
    { bridge with writes := bridge.writes ++ [write] }.willShow number kind =
      if write.rejects = false ∧ write.endpointNumber = number ∧ write.state.kind = kind then
        some write.state
      else bridge.willShow number kind := by
  rw [willShow, reverse_append, reverse_singleton, singleton_append, find?_cons]
  by_cases mine : write.rejects = false ∧ write.endpointNumber = number ∧ write.state.kind = kind
  · rw [if_pos mine, mine.1, decide_eq_true mine.2]
    rfl
  · rw [if_neg mine]
    have skipped : (!write.rejects &&
        decide (write.endpointNumber = number ∧ write.state.kind = kind)) = false := by
      rw [Bool.eq_false_iff]
      intro both
      rw [Bool.and_eq_true, Bool.not_eq_true', decide_eq_true_iff] at both
      exact mine both
    rw [skipped]
    rfl

variable {added : Nat} {endpoints : OrderedMap Nat Attributes} {initialState : Option BridgedState}

theorem shows_apply {write : AttributeWrite} (there : endpoints.has write.endpointNumber = true) :
    ((write.apply endpoints).get number).bind (fun attributes => attributes.get kind) =
      if write.endpointNumber = number ∧ write.state.kind = kind then some write.state
      else (endpoints.get number).bind fun attributes => attributes.get kind := by
  rcases has_iff.mp there with ⟨attributes, found⟩
  rw [AttributeWrite.apply, found]
  rw [get_set]
  by_cases own : number = write.endpointNumber
  · subst own
    rw [if_pos rfl, found, bind_some, bind_some, get_set]
    by_cases same : kind = write.state.kind
    · rw [if_pos same, if_pos ⟨rfl, same.symm⟩]
    · rw [if_neg same, if_neg fun both => same both.2.symm]
  · rw [if_neg own, if_neg fun both => own both.1.symm]

/-- A write that ends changes nothing about what will be shown. -/
theorem willShow_settle {write : AttributeWrite} {index : Nat}
    (stands : bridge.writes[index]? = some write)
    (turn : (write.rejects || (bridge.writes.take index).all AttributeWrite.rejects) = true)
    (there : bridge.endpoints.has write.endpointNumber = true) :
    (bridge.settle write index).willShow number kind = bridge.willShow number kind := by
  have split : bridge.writes =
      bridge.writes.take index ++ write :: bridge.writes.drop (index + 1) := by
    conv_lhs => rw [← take_append_drop index bridge.writes, drop_eq_getElem?_toList_append, stands]
    rfl
  let earlier := bridge.writes.take index
  let later := bridge.writes.drop (index + 1)
  let wanted : AttributeWrite → Bool := fun write =>
    !write.rejects && decide (write.endpointNumber = number ∧ write.state.kind = kind)
  have before : bridge.willShow number kind = match (later.reverse.find? wanted).or
          ((if wanted write then some write else none).or (earlier.reverse.find? wanted)) with
      | some write => some write.state
      | none => bridge.shows number kind := by
    rw [willShow, split, reverse_append, reverse_cons, append_assoc,
      find?_append, find?_append, find?_singleton]
  have after : (bridge.settle write index).willShow number kind =
      match (later.reverse.find? wanted).or (earlier.reverse.find? wanted) with
      | some write => some write.state
      | none => (bridge.settle write index).shows number kind := by
    rw [willShow, settle]
    rw [eraseIdx_eq_take_drop_succ, reverse_append, find?_append]
  rw [before, after]
  by_cases rejects : write.rejects = true
  · have unwanted : wanted write = false := by simp [wanted, rejects]
    have same : (bridge.settle write index).shows number kind = bridge.shows number kind := by
      rw [shows, settle, if_pos rejects]
      rfl
    rw [unwanted, same]
    rfl
  · have none_earlier : earlier.reverse.find? wanted = none := by
      rw [find?_eq_none]
      intro write member
      have all := all_eq_true.mp ((Bool.or_eq_true_iff.mp turn).resolve_left rejects)
      simp [wanted, all write (mem_reverse.mp member)]
    have applied : (bridge.settle write index).shows number kind =
        if write.endpointNumber = number ∧ write.state.kind = kind then some write.state
        else bridge.shows number kind := by
      rw [shows, settle, if_neg rejects]
      exact shows_apply there
    rw [none_earlier, applied]
    cases later.reverse.find? wanted with
    | some latest => rfl
    | none =>
      by_cases mine : write.endpointNumber = number ∧ write.state.kind = kind
      · have isWanted : wanted write = true := by simp [wanted, rejects, mine]
        rw [isWanted, if_pos mine]
        rfl
      · have unwanted : wanted write = false := by
          simp only [wanted, decide_eq_false mine, Bool.and_false]
        rw [unwanted, if_neg mine]
        rfl

theorem has_addEndpoint : (addEndpoint endpoints added initialState).has number = true ↔
      endpoints.has number = true ∨ number = added := by
  rw [addEndpoint]
  split
  · rename_i there
    refine ⟨.inl, ?_⟩
    rintro (was | rfl)
    · exact was
    · exact there
  · by_cases same : number = added <;> simp [OrderedMap.has, same]

section

variable (written : ∀ write ∈ bridge.writes, bridge.endpoints.has write.endpointNumber = true)

include written

theorem willShow_absent (absent : ¬bridge.endpoints.has number = true) :
    (bridge.writes.reverse.find? fun write => !write.rejects &&
        decide (write.endpointNumber = number ∧ write.state.kind = kind)) = none ∧
      bridge.endpoints.get number = none := by
  constructor
  · rw [find?_eq_none]
    intro write member
    have other : ¬(write.endpointNumber = number ∧ write.state.kind = kind) := by
      rintro ⟨rfl, -⟩
      exact absent (written write (mem_reverse.mp member))
    rw [decide_eq_false other, Bool.and_false]
    exact Bool.false_ne_true
  · rw [OrderedMap.has, isSome_iff_ne_none, not_not] at absent
    exact absent

theorem willShow_addEndpoint {state : BridgedState}
    (shown : bridge.willShow number kind = some state) :
    { bridge with
        endpoints := addEndpoint bridge.endpoints added initialState }.willShow number kind =
      some state := by
  by_cases there : bridge.endpoints.has added = true
  · rw [addEndpoint, if_pos there]
    exact shown
  · by_cases same : number = added
    · subst same
      rcases @willShow_absent bridge number kind written there with ⟨unwritten, nowhere⟩
      rw [willShow, unwritten, shows, nowhere] at shown
      cases shown
    · rw [← shown, willShow, willShow, shows, shows, addEndpoint, if_neg there]
      rw [get_set, if_neg same]

theorem willShow_added {state : BridgedState} (absent : ¬bridge.endpoints.has added = true) :
    { bridge with
        endpoints := addEndpoint bridge.endpoints added (some state) }.willShow added state.kind =
      some state := by
  rw [willShow, (willShow_absent written absent).1, shows, addEndpoint, if_neg absent]
  rw [get_set, if_pos rfl, initialAttributes, bind_some, get_set, if_pos rfl]

end

end WillShow

section Steps

variable {bridge next : ReportingBridge} {number : Nat} {turn : Turn} {waits : Waiting}

/-- Nothing has changed but what is waited for and what is recorded of the endpoints. -/
structure SameShown (before after : ReportingBridge) : Prop where
  endpointByDevice : after.driver.endpointByDevice = before.driver.endpointByDevice
  deviceType : after.driver.deviceTypeByEndpoint = before.driver.deviceTypeByEndpoint
  kinds : after.driver.capabilityKindsByEndpoint = before.driver.capabilityKindsByEndpoint
  lastReported : after.driver.lastReported = before.driver.lastReported
  endpoints : after.endpoints = before.endpoints
  writes : after.writes = before.writes
  history : after.history = before.history

theorem SameShown.willShow (same : SameShown bridge next) : next.willShow = bridge.willShow := by
  funext number kind
  rw [ReportingBridge.willShow, ReportingBridge.willShow, shows, shows, same.endpoints, same.writes]

theorem SameShown.declares (same : SameShown bridge next) :
    declares next.driver = declares bridge.driver := by
  funext number kind
  rw [ReportingBridge.declares, ReportingBridge.declares, same.kinds, same.deviceType]

theorem Awaits.later (awaits : bridge.Awaits number waits)
    (listed : ∀ turn, TurnListed bridge.driver.store turn → TurnListed next.driver.store turn)
    (reads : ∀ deviceId state, .read number deviceId state ∈ next.history →
      .read number deviceId state ∈ bridge.history)
    (there : ∀ added, bridge.endpoints.has added = true → next.endpoints.has added = true)
    (shown : ∀ turn, TurnListed bridge.driver.store turn → bridge.ReadShown number turn →
      next.ReadShown number turn) : next.Awaits number waits := by
  cases waits with
  | starting => trivial
  | reading turn _ =>
    exact ⟨listed turn awaits.1, fun deviceId state inside =>
      awaits.2 deviceId state (reads deviceId state inside)⟩
  | adding turn _ =>
    exact ⟨listed turn awaits.1, fun deviceId state inside =>
      awaits.2 deviceId state (reads deviceId state inside)⟩
  | naming turn =>
    rcases awaits with ⟨stands, own, added, wasShown⟩
    exact ⟨listed turn stands, fun deviceId state inside =>
      own deviceId state (reads deviceId state inside), there _ added, shown turn stands wasShown⟩

theorem Awaits.ofSame (awaits : bridge.Awaits number waits) (same : SameShown bridge next)
    (listed : ∀ turn, TurnListed bridge.driver.store turn → TurnListed next.driver.store turn) :
    next.Awaits number waits := by
  refine awaits.later listed ?_ ?_ fun turn _ => ?_
  · rw [same.history]
    exact fun _ _ inside => inside
  · rw [same.endpoints]
    exact fun _ added => added
  · rw [ReadShown, ReadShown, same.history, same.willShow]
    exact fun shown => shown

section

variable (kept : Kept bridge)

include kept

theorem Kept.ofSame (same : SameShown bridge next)
    (sound : MatterBridgeDriver.Sound 0 next.driver) (turns : bridge.nextTurn ≤ next.nextTurn)
    (waiting : ∀ number waits, next.waiting.get number = some waits →
      number < next.nextTurn ∧ .exposed number ∉ bridge.history ∧ next.Awaits number waits) :
    Kept next := by
  refine ⟨sound, ?_, ?_, ?_, ?_, ?_, ?_, ?_, ?_, ?_⟩
  · rw [same.endpointByDevice, same.deviceType]
    exact kept.typed
  · rw [same.endpointByDevice, same.endpoints]
    exact kept.present
  · rw [same.writes, same.endpoints]
    exact kept.written
  · rw [same.history]
    exact fun moment member turn mine =>
      Nat.lt_of_lt_of_le (kept.past moment member turn mine) turns
  · rw [same.history]
    exact waiting
  · rw [same.lastReported, same.endpointByDevice, same.history, same.willShow]
    exact kept.slot
  · rw [same.endpointByDevice, same.history, same.willShow]
    exact kept.reported
  · rw [same.endpointByDevice, same.history, same.willShow]
    exact kept.read
  · rw [same.endpointByDevice, same.history, same.declares]
    exact kept.noticed

theorem Kept.done (number : Nat) : Kept (bridge.done number) := by
  have same : SameShown bridge (bridge.done number) := ⟨rfl, rfl, rfl, rfl, rfl, rfl, rfl⟩
  refine kept.ofSame same kept.sound (Nat.le_refl _) fun other waits found => ?_
  have found' := (OrderedMap.get_delete bridge.waiting number other).symm.trans found
  split at found'
  · cases found'
  · rcases kept.waiting other waits found' with ⟨less, notYet, awaits⟩
    exact ⟨less, notYet, awaits.ofSame same fun _ listed => listed⟩

theorem Kept.wait (awaits : bridge.Awaits bridge.nextTurn waits) :
    Kept (bridge.wait waits) := by
  have same : SameShown bridge (bridge.wait waits) := ⟨rfl, rfl, rfl, rfl, rfl, rfl, rfl⟩
  refine kept.ofSame same kept.sound (Nat.le_succ _) fun other held found => ?_
  have found' := (get_set bridge.waiting bridge.nextTurn other waits).symm.trans found
  split at found'
  · rename_i new
    subst new
    cases found'
    refine ⟨Nat.lt_succ_self _, fun already => ?_, awaits.ofSame same fun _ listed => listed⟩
    exact Nat.lt_irrefl _ (kept.past _ already _ rfl)
  · rcases kept.waiting other held found' with ⟨less, notYet, old⟩
    exact ⟨Nat.lt_succ_of_lt less, notYet, old.ofSame same fun _ listed => listed⟩

theorem Kept.read_turn {turns : Nat} {state : Option BridgedState}
    (later : bridge.nextTurn ≤ turns) (below : number < turns)
    (notYet : .exposed number ∉ bridge.history)
    (unread : ∀ deviceId state, .read number deviceId state ∉ bridge.history)
    (listed : TurnListed bridge.driver.store turn) :
    Kept { bridge with
      waiting := bridge.waiting.set number (.adding turn state)
      nextTurn := turns
      history := .read number turn.deviceId state :: bridge.history } := by
  refine ⟨kept.sound, kept.typed, kept.present, kept.written, ?_, ?_, kept.slot, kept.reported,
    fun deviceId kind turn state found => ?_, fun deviceId number kind shown declared => ?_⟩
  · intro moment member turn mine
    rcases mem_cons.mp member with rfl | older
    · cases mine
      exact below
    · exact Nat.lt_of_lt_of_le (kept.past moment older turn mine) later
  · intro other waits found
    have found' := (get_set bridge.waiting number other _).symm.trans found
    split at found'
    · rename_i same
      subst same
      cases found'
      refine ⟨below, fun already => ?_, listed, fun deviceId state inside => ?_⟩
      · rcases mem_cons.mp already with same | older
        · cases same
        · exact notYet older
      · rcases mem_cons.mp inside with same | older
        · injection same with _ own read
          exact ⟨own, read⟩
        · exact absurd older (unread deviceId state)
    · rename_i different
      rcases kept.waiting other waits found' with ⟨less, notExposed, awaits⟩
      refine ⟨Nat.lt_of_lt_of_le less later, fun already => ?_, ?_⟩
      · rcases mem_cons.mp already with same | older
        · cases same
        · exact notExposed older
      · refine awaits.later (fun _ stands => stands) (fun deviceId state inside => ?_)
          (fun _ added => added) fun turn _ shown state inside => ?_
        · rcases mem_cons.mp inside with same | older
          · injection same with numbers
            exact absurd numbers different
          · exact older
        · rcases mem_cons.mp inside with same | older
          · injection same with numbers
            exact absurd numbers different
          · refine (shown state older).imp_right fun since => ?_
            rw [reportedSince, if_neg fun same => different same.symm]
            exact since
  · rw [mostRecent_read notYet] at found
    exact kept.read deviceId kind turn state found
  · rw [mostRecent_read notYet]
    exact kept.noticed deviceId number kind shown declared

theorem Kept.beginTurn (listed : TurnListed bridge.driver.store turn) :
    Kept (bridge.beginTurn turn) := by
  have unread (deviceId : String) (state : Option BridgedState) :
      .read bridge.nextTurn deviceId state ∉ bridge.history :=
    fun already => Nat.lt_irrefl _ (kept.past _ already _ rfl)
  have notYet : .exposed bridge.nextTurn ∉ bridge.history :=
    fun already => Nat.lt_irrefl _ (kept.past _ already _ rfl)
  rw [ReportingBridge.beginTurn]
  split
  · exact kept.wait ⟨listed, unread⟩
  · exact kept.read_turn (Nat.le_succ _) (Nat.lt_succ_self _) notYet unread listed

variable {types : MatterDeviceTypeRegistry}

theorem Kept.continueStart {mappings : List MatterEndpointMapping}
    (listed : ∀ mapping ∈ mappings, Listed bridge.driver.store mapping) :
    Kept (bridge.continueStart types mappings) := by
  induction mappings with
  | nil =>
    refine kept.ofSame ⟨rfl, rfl, rfl, rfl, rfl, rfl, rfl⟩
      (kept.sound.ofSame rfl rfl rfl rfl rfl) (Nat.le_refl _) fun number waits found => ?_
    rcases kept.waiting number waits found with ⟨less, notYet, awaits⟩
    exact ⟨less, notYet, awaits.ofSame ⟨rfl, rfl, rfl, rfl, rfl, rfl, rfl⟩ fun _ stands => stands⟩
  | cons first rest ih =>
    have others : ∀ mapping ∈ rest, Listed bridge.driver.store mapping :=
      fun mapping member => listed mapping (.tail _ member)
    rw [ReportingBridge.continueStart]
    split
    · exact ih others
    · refine kept.beginTurn ⟨listed first (.head _), rfl, fun none => ?_, others⟩
      cases none

theorem Kept.leave (listed : TurnListed bridge.driver.store turn) :
    Kept (bridge.leave types turn) := by
  have rest := listed.rest
  rw [ReportingBridge.leave]
  split
  · exact kept
  · rename_i mappings left
    rw [left] at rest
    exact kept.continueStart rest

end

open MatterBridgeDriver in
theorem TurnListed.resolves {store after : MatterEndpointStore} {deviceId : SupremeId "dev"}
    {controlId : Option String} {deviceTypeId : JsNumber} {mapping : MatterEndpointMapping}
    (resolves : Resolves store deviceId controlId deviceTypeId after mapping)
    (listed : TurnListed store turn) : TurnListed after turn := by
  have grown {other : MatterEndpointMapping} (was : Listed store other) : Listed after other := by
    rcases was with ⟨found, stands, number, control⟩
    by_cases here : other.key = matterEndpointKey deviceId.text controlId
    · rw [here] at stands
      have kept := resolves.kept found stands
      exact ⟨mapping, here ▸ resolves.here, kept.1.trans number,
        (congrArg namedControl kept.2.2.2).trans control⟩
    · exact ⟨found, (resolves.elsewhere other.key here).trans stands, number, control⟩
  exact ⟨grown listed.own, listed.device, listed.control,
    fun other member => grown (listed.rest other member)⟩

open MatterBridgeDriver in
theorem Kept.resolves {store : MatterEndpointStore} {deviceId : SupremeId "dev"}
    {controlId : Option String} {deviceTypeId : JsNumber} {mapping : MatterEndpointMapping}
    (kept : Kept bridge) (room : MatterBridgeDriver.Sound 1 bridge.driver)
    (resolves : Resolves bridge.driver.store deviceId controlId deviceTypeId store mapping) :
    Kept { bridge with driver := { bridge.driver with store := store } } := by
  refine kept.ofSame ⟨rfl, rfl, rfl, rfl, rfl, rfl, rfl⟩ (room.resolves resolves)
    (Nat.le_refl _) fun number waits found => ?_
  rcases kept.waiting number waits found with ⟨less, notYet, awaits⟩
  exact ⟨less, notYet, awaits.ofSame ⟨rfl, rfl, rfl, rfl, rfl, rfl, rfl⟩
    fun _ stands => stands.resolves resolves⟩

open MatterBridgeDriver in
theorem Kept.exposeDevice (kept : Kept bridge) {device : BridgedDevice} {rejected : Option String}
    (room : ∀ mapping ∈ bridge.driver.store.list, mapping.endpointNumber + 1 < 2 ^ 53) :
    Kept (bridge.exposeDevice types device rejected) := by
  have one : MatterBridgeDriver.Sound 1 bridge.driver :=
    ⟨kept.sound.indexes, kept.sound.named, kept.sound.distinct, by decide, fun _ => room⟩
  rw [ReportingBridge.exposeDevice]
  split
  · exact kept
  · rename_i deviceType _
    rcases @resolved_cases bridge.driver device.id none deviceType.id device.name
      (device.capabilities.map fun capability => capability.kind.literal) rejected with
      ⟨after, mapping, resolves, ended⟩
    have grown := kept.resolves one resolves
    dsimp only
    rcases ended with accepted | ⟨_, -, thrown⟩
    · rw [accepted]
      dsimp only
      split
      · exact grown
      · have owner := grown.sound.owner_of_get resolves.here
        have key := MatterEndpointStore.key_of_get resolves.here
        refine grown.beginTurn ⟨⟨mapping, key ▸ resolves.here, rfl, rfl⟩, owner.1.symm,
          fun _ => owner.2, fun _ none => ?_⟩
        cases none
    · rw [thrown]
      exact grown

variable {rejected : Option String} {store : MatterEndpointStore}

theorem listed_of_mem {mapping : MatterEndpointMapping}
    (member : mapping ∈ store.list) : Listed store mapping :=
  ⟨mapping, MatterBridgeDriver.mem_list_iff.mp member, rfl, rfl⟩

theorem Kept.addEndpoint (kept : Kept bridge) {added : Nat} {initialState : Option BridgedState} :
    Kept { bridge with
      endpoints := MatterBridge.addEndpoint bridge.endpoints added initialState } := by
  have there (number : Nat) (was : bridge.endpoints.has number = true) :
      (MatterBridge.addEndpoint bridge.endpoints added initialState).has number = true :=
    has_addEndpoint.mpr (.inl was)
  refine ⟨kept.sound, kept.typed, fun deviceId number shown => there number
      (kept.present deviceId number shown), fun write member => there _ (kept.written write member),
    kept.past, fun number waits found => ?_, fun number text stands => ?_,
    fun deviceId kind state handled newest became => ?_, fun deviceId kind turn state found => ?_,
    kept.noticed⟩
  · rcases kept.waiting number waits found with ⟨less, notYet, awaits⟩
    refine ⟨less, notYet, awaits.later (fun _ stands => stands) (fun _ _ inside => inside) there
      fun turn _ shown state inside => ?_⟩
    exact (shown state inside).imp_left (willShow_addEndpoint kept.written)
  · rcases kept.slot number text stands with ⟨deviceId, state, shown, same, visible⟩
    exact ⟨deviceId, state, shown, same, fun accepted =>
      willShow_addEndpoint kept.written (visible accepted)⟩
  · rcases kept.reported deviceId kind state handled newest became with ⟨number, shown, visible⟩
    exact ⟨number, shown, willShow_addEndpoint kept.written visible⟩
  · rcases kept.read deviceId kind turn state found with ⟨number, shown, visible⟩
    exact ⟨number, shown, willShow_addEndpoint kept.written visible⟩

theorem Kept.readShown (kept : Kept bridge) {initialState : Option BridgedState}
    (reads : ∀ deviceId state, .read number deviceId state ∈ bridge.history →
      deviceId = turn.deviceId ∧ state = initialState)
    (inVain : bridge.NotReadInVain number turn initialState) :
    { bridge with
      endpoints := MatterBridge.addEndpoint bridge.endpoints turn.mapping.endpointNumber
        initialState }.ReadShown number turn := by
  intro state inside
  rcases reads turn.deviceId (some state) inside with ⟨-, rfl⟩
  by_cases there : bridge.endpoints.has turn.mapping.endpointNumber = true
  · exact (inVain there state rfl).imp_left (willShow_addEndpoint kept.written)
  · exact .inl (willShow_added kept.written there)

theorem Kept.naming (kept : Kept bridge) (below : number < bridge.nextTurn)
    (notYet : .exposed number ∉ bridge.history) (awaits : bridge.Awaits number (.naming turn)) :
    Kept (bridge.goOn number (.naming turn)) := by
  have same : SameShown bridge (bridge.goOn number (.naming turn)) :=
    ⟨rfl, rfl, rfl, rfl, rfl, rfl, rfl⟩
  refine kept.ofSame same kept.sound (Nat.le_refl _) fun other held found => ?_
  have found' := (get_set bridge.waiting number other _).symm.trans found
  split at found'
  · rename_i here
    subst here
    cases found'
    exact ⟨below, notYet, awaits.ofSame same fun _ stands => stands⟩
  · rcases kept.waiting other held found' with ⟨less, notExposed, old⟩
    exact ⟨less, notExposed, old.ofSame same fun _ stands => stands⟩

structure OwnRecord (bridge : ReportingBridge) (turn : Turn) (found : MatterEndpointMapping) :
    Prop where
  stands : bridge.driver.store.get turn.mapping.key = some found
  number : found.endpointNumber = turn.mapping.endpointNumber
  control : namedControl found.controlId = namedControl turn.mapping.controlId

theorem Kept.owner (kept : Kept bridge) {deviceId : String} {found : MatterEndpointMapping}
    (own : OwnRecord bridge turn found) (owned : turn.deviceId = turn.mapping.deviceId)
    (shown : bridge.driver.endpointByDevice.get deviceId = some turn.mapping.endpointNumber) :
    deviceId = turn.deviceId ∧ namedControl turn.mapping.controlId = none := by
  rcases kept.sound.indexes.devicesRecorded deviceId _ shown with
    ⟨held, standing, numbered, device⟩
  have keys := kept.sound.distinct deviceId turn.mapping.key held found standing own.stands
    (numbered.trans own.number.symm)
  subst keys
  cases standing.symm.trans own.stands
  rw [own.control, isSome_eq_false_iff, isNone_iff_eq_none] at device
  exact ⟨(MatterBridgeDriver.key_of_device device).trans owned.symm, device⟩

theorem Kept.device_unique (kept : Kept bridge) {deviceId other : String}
    (shown : bridge.driver.endpointByDevice.get deviceId = some number)
    (shownToo : bridge.driver.endpointByDevice.get other = some number) : deviceId = other := by
  rcases (kept.sound.indexes.devices deviceId number).mp shown with ⟨held, stands, rfl⟩
  rcases (kept.sound.indexes.devices other number).mp shownToo with ⟨found, standing, rfl⟩
  exact some.inj (stands.symm.trans standing)

theorem TurnListed.ofDevice (listed : TurnListed store turn)
    (control : turn.control = none) : namedControl turn.mapping.controlId = none := by
  rw [Turn.control] at control
  cases rest : turn.rest with
  | none => exact listed.control rest
  | some _ =>
    rw [rest] at control
    exact control

theorem declares_congr {before after : MatterBridgeDriver} {endpoint : Nat}
    (kinds : after.capabilityKindsByEndpoint.get endpoint =
      before.capabilityKindsByEndpoint.get endpoint)
    (deviceType : after.deviceTypeByEndpoint.get endpoint =
      before.deviceTypeByEndpoint.get endpoint) (kind : CapabilityKind) :
    declares after endpoint kind = declares before endpoint kind := by
  rw [declares, declares, kinds, deviceType]

theorem Kept.trackDevice (kept : Kept bridge) (listed : TurnListed bridge.driver.store turn)
    (control : turn.control = none) (below : number < bridge.nextTurn)
    (reads : ∀ deviceId state, .read number deviceId state ∈ bridge.history →
      deviceId = turn.deviceId)
    (there : bridge.endpoints.has turn.mapping.endpointNumber = true)
    (shown : bridge.ReadShown number turn) (missed : bridge.NothingMissed number turn) :
    Kept ((bridge.track number turn).done number) := by
  rcases listed.own with ⟨found, stands, numbered, sameControl⟩
  have own : OwnRecord bridge turn found := ⟨stands, numbered, sameControl⟩
  have device := listed.ofDevice control
  have key : turn.mapping.key = turn.deviceId :=
    (MatterBridgeDriver.key_of_device device).trans listed.device.symm
  rw [NothingMissed, track, control] at missed
  rw [track, control]
  let driver := bridge.driver.trackDevice turn.mapping turn.deviceId turn.deviceType
  have endpoint (deviceId : String) : driver.endpointByDevice.get deviceId =
      if deviceId = turn.deviceId then some turn.mapping.endpointNumber
      else bridge.driver.endpointByDevice.get deviceId := get_set _ _ _ _
  have stays (deviceId : String) (endpointNumber : Nat)
      (was : bridge.driver.endpointByDevice.get deviceId = some endpointNumber) :
      driver.endpointByDevice.get deviceId = some endpointNumber := by
    rw [endpoint]
    split
    · rename_i same
      subst same
      rcases kept.sound.indexes.devicesRecorded _ _ was with ⟨held, standing, rightNumber, -⟩
      cases (key ▸ stands).symm.trans standing
      rw [← rightNumber, numbered]
    · exact was
  refine ⟨?_, fun deviceId other entered => ?_, fun deviceId other entered => ?_, kept.written,
    fun moment inside ending of => ?_, fun other waits waiting => ?_, fun other text reported => ?_,
    fun deviceId kind state handled newest became => ?_, fun deviceId kind ended state latest => ?_,
    fun deviceId other kind entered declared => ?_⟩
  · have tracked := @MatterBridgeDriver.Sound.trackDevice bridge.driver 0 turn.deviceId kept.sound
      found turn.deviceType (key ▸ stands) (sameControl.trans device)
    refine tracked.ofSame rfl ?_ ?_ rfl rfl
    · exact congrArg (fun number => bridge.driver.exposedDevices.set number turn.deviceId)
        numbered.symm
    · exact congrArg (fun number => bridge.driver.endpointByDevice.set turn.deviceId number)
        numbered.symm
  · have typed : (driver.deviceTypeByEndpoint.get other).isSome = true := by
      have types : driver.deviceTypeByEndpoint.get other =
          if other = turn.mapping.endpointNumber then some turn.deviceType
          else bridge.driver.deviceTypeByEndpoint.get other := get_set _ _ _ _
      rw [types]
      split
      · rfl
      · rename_i elsewhere
        have entered' := (endpoint deviceId).symm.trans entered
        split at entered'
        · exact absurd (some.inj entered').symm elsewhere
        · exact kept.typed deviceId other entered'
    exact typed
  · have entered' := (endpoint deviceId).symm.trans entered
    split at entered'
    · exact some.inj entered' ▸ there
    · exact kept.present deviceId other entered'
  · rcases mem_cons.mp inside with rfl | older
    · cases of
      exact below
    · exact kept.past moment older ending of
  · have waiting' := (OrderedMap.get_delete bridge.waiting number other).symm.trans waiting
    split at waiting'
    · cases waiting'
    · rename_i different
      rcases kept.waiting other waits waiting' with ⟨less, notYet, awaits⟩
      refine ⟨less, fun already => ?_, awaits.later (fun _ stands => stands)
        (fun deviceId state inside => ?_) (fun _ added => added) fun turn _ wasShown state inside =>
          ?_⟩
      · rcases mem_cons.mp already with same | older
        · injection same with same
          exact different same
        · exact notYet older
      · exact (mem_cons.mp inside).resolve_left fun same => by cases same
      · exact wasShown state ((mem_cons.mp inside).resolve_left fun same => by cases same)
  · rcases kept.slot other text reported with ⟨deviceId, state, entered, same, visible⟩
    exact ⟨deviceId, state, stays deviceId other entered, same, visible⟩
  · rcases kept.reported deviceId kind state handled newest became with ⟨other, entered, visible⟩
    exact ⟨other, stays deviceId other entered, visible⟩
  · by_cases ofTurn : ended = number
    · subst ofTurn
      have recent := recent_of_mostRecentOf latest
      cases recent with
      | read _ _ ofKind _ inside last =>
        have inside' := (mem_cons.mp inside).resolve_left fun same => by cases same
        obtain rfl := reads deviceId (some state) inside'
        subst ofKind
        refine ⟨turn.mapping.endpointNumber, (endpoint _).trans (if_pos rfl), ?_⟩
        refine (shown state inside').resolve_right fun since => ?_
        exact Bool.noConfusion (last.symm.trans since)
    · have before := mostRecent_exposed_before latest ofTurn
      rcases kept.read deviceId kind ended state before with ⟨other, entered, visible⟩
      exact ⟨other, stays deviceId other entered, visible⟩
  · by_cases mine : deviceId = turn.deviceId
    · subst mine
      have number_eq := (endpoint turn.deviceId).symm.trans entered
      rw [if_pos rfl] at number_eq
      cases number_eq
      exact missed kind declared
    · have entered' := (endpoint deviceId).symm.trans entered
      rw [if_neg mine] at entered'
      have elsewhere : other ≠ turn.mapping.endpointNumber := by
        rintro rfl
        exact mine (kept.owner own listed.device entered').1
      have declared' : declares bridge.driver other kind = true :=
        (declares_congr ((get_set _ _ _ _).trans (if_neg elsewhere))
          ((get_set _ _ _ _).trans (if_neg elsewhere)) kind).symm.trans declared
      have unread (read : Option BridgedState) : .read number deviceId read ∉ bridge.history :=
        fun inside => mine (reads deviceId read inside)
      have same : mostRecent (.exposed number :: bridge.history) deviceId kind =
          mostRecent bridge.history deviceId kind := mostRecent_exposed_elsewhere unread
      intro moment member
      exact kept.noticed deviceId other kind entered' declared' moment (same ▸ member)

theorem Kept.trackButton (kept : Kept bridge) (listed : TurnListed bridge.driver.store turn)
    {control : String} (button : turn.control = some control) :
    Kept ((bridge.track number turn).done number) := by
  rcases listed.own with ⟨found, stands, numbered, sameControl⟩
  have own : OwnRecord bridge turn found := ⟨stands, numbered, sameControl⟩
  have named : namedControl turn.mapping.controlId = some control := by
    rcases bind_eq_some_iff.mp button with ⟨_, -, named⟩
    exact named
  have key : turn.mapping.key = ButtonIdentity.key ⟨turn.deviceId, control⟩ := by
    rw [listed.device]
    exact MatterBridgeDriver.key_of_button named
  have elsewhere (deviceId : String) (other : Nat)
      (shown : bridge.driver.endpointByDevice.get deviceId = some other) :
      other ≠ turn.mapping.endpointNumber := by
    rintro rfl
    have device := (kept.owner own listed.device shown).2
    rw [named] at device
    cases device
  rw [track, button]
  refine ⟨?_, fun deviceId other shown => ?_, kept.present, kept.written, kept.past,
    fun other waits waiting => ?_, kept.slot, kept.reported, kept.read,
    fun deviceId other kind shown declared => ?_⟩
  · have tracked := @MatterBridgeDriver.Sound.trackButton bridge.driver 0 kept.sound found
      ⟨turn.deviceId, control⟩ turn.deviceType (key ▸ stands)
      (by rw [sameControl, named]; rfl)
    refine tracked.ofSame rfl rfl rfl ?_ ?_
    · exact congrArg (fun number => bridge.driver.exposedButtons.set number
        (⟨turn.deviceId, control⟩ : ButtonIdentity)) numbered.symm
    · exact congrArg (fun number => bridge.driver.endpointByButton.set
        (matterEndpointKey turn.deviceId (some control)) number) numbered.symm
  · have types : (bridge.driver.deviceTypeByEndpoint.set turn.mapping.endpointNumber
        turn.deviceType).get other = bridge.driver.deviceTypeByEndpoint.get other := by
      rw [get_set, if_neg (elsewhere deviceId other shown)]
    exact types ▸ kept.typed deviceId other shown
  · exact (kept.done number).waiting other waits waiting
  · have different := elsewhere deviceId other shown
    have same : declares bridge.driver other kind = true :=
      (declares_congr ((get_set _ _ _ _).trans (if_neg different))
        ((get_set _ _ _ _).trans (if_neg different)) kind).symm.trans declared
    exact kept.noticed deviceId other kind shown same

variable {deviceId : String} {state : BridgedState} {rejects : Bool} {handled : Handled}

inductive HandledAs (bridge : ReportingBridge) (deviceId : String) (state : BridgedState)
    (rejects : Bool) : Handled × ReportingBridge → Prop where
  | ignored (undeclared : ∀ number, bridge.driver.endpointByDevice.get deviceId = some number →
        declares bridge.driver number state.kind = false) :
      HandledAs bridge deviceId state rejects (.ignored, bridge)
  | skipped (number : Nat)
      (shown : bridge.driver.endpointByDevice.get deviceId = some number)
      (declared : declares bridge.driver number state.kind = true)
      (same : bridge.driver.lastReported.get number = some state.serialized) :
      HandledAs bridge deviceId state rejects (.skipped, bridge)
  | written (number : Nat)
      (shown : bridge.driver.endpointByDevice.get deviceId = some number)
      (declared : declares bridge.driver number state.kind = true)
      (other : bridge.driver.lastReported.get number ≠ some state.serialized) :
      HandledAs bridge deviceId state rejects
        (.written rejects, bridge.handOver number state rejects)

theorem handledAs (typed : ∀ number, bridge.driver.endpointByDevice.get deviceId = some number →
      (bridge.driver.deviceTypeByEndpoint.get number).isSome = true) :
    HandledAs bridge deviceId state rejects
      (bridge.handleSupremeStateChange deviceId state rejects) := by
  rw [handleSupremeStateChange]
  split
  · rename_i hidden
    refine .ignored fun number shown => ?_
    rw [hidden] at shown
    cases shown
  · rename_i endpointNumber shown
    split
    · rename_i untyped
      have isTyped := typed endpointNumber shown
      rw [untyped] at isTyped
      cases isTyped
    · split
      · rename_i undeclared
        refine .ignored fun number found => ?_
        cases shown.symm.trans found
        exact Bool.eq_false_iff.mpr undeclared
      · rename_i declared
        rw [not_not] at declared
        split
        · rename_i same
          exact .skipped endpointNumber shown declared same
        · rename_i other
          exact .written endpointNumber shown declared other

theorem handle_again :
    ((bridge.handleSupremeStateChange deviceId state rejects).2.handleSupremeStateChange deviceId
        state rejects).2 = (bridge.handleSupremeStateChange deviceId state rejects).2 := by
  cases hidden : bridge.driver.endpointByDevice.get deviceId with
  | none => simp only [handleSupremeStateChange, hidden]
  | some endpointNumber =>
    cases untyped : bridge.driver.deviceTypeByEndpoint.get endpointNumber with
    | none => simp only [handleSupremeStateChange, hidden, untyped]
    | some deviceType =>
      by_cases declared : declares bridge.driver endpointNumber state.kind = true
      · by_cases same : bridge.driver.lastReported.get endpointNumber = some state.serialized
        · simp [handleSupremeStateChange, hidden, untyped, declared, same]
        · have again (last : OrderedMap Nat String) :
              declares { bridge.driver with lastReported := last } endpointNumber
                state.kind = true := declared
          simp [handleSupremeStateChange, handOver, hidden, untyped, same, again]
      · simp [handleSupremeStateChange, hidden, untyped, declared]

theorem tell_eq {listeners : Nat} (listening : 0 < listeners) :
    bridge.tell deviceId state rejects listeners =
      bridge.handleSupremeStateChange deviceId state rejects := by
  cases listeners with
  | zero => cases listening
  | succ others => exact Prod.ext rfl (Function.iterate_fixed handle_again others)

theorem Awaits.reported (awaits : bridge.Awaits number waits)
    (history : next.history = .reported deviceId state handled :: bridge.history)
    (store : next.driver.store = bridge.driver.store) (endpoints : next.endpoints =
      bridge.endpoints)
    (shown : ∀ turn, TurnListed bridge.driver.store turn → ∀ kind,
      next.willShow turn.mapping.endpointNumber kind =
          bridge.willShow turn.mapping.endpointNumber kind ∨
        deviceId = turn.deviceId ∧ state.kind = kind) : next.Awaits number waits := by
  refine awaits.later (fun turn listed => store ▸ listed) (fun device read inside => ?_)
    (fun _ added => endpoints ▸ added) fun turn listed wasShown read inside => ?_
  · rw [history] at inside
    exact (mem_cons.mp inside).resolve_left fun same => by cases same
  · rw [history] at inside ⊢
    have older := (mem_cons.mp inside).resolve_left fun same => by cases same
    rw [reportedSince, Bool.or_eq_true, decide_eq_true_iff]
    rcases shown turn listed read.kind with same | mine
    · rw [same]
      exact (wasShown read older).imp_right .inr
    · exact .inr (.inl mine)

section

variable (kept : Kept bridge)

include kept

theorem Kept.notWritten (unwritten : ∀ rejected, handled ≠ .written rejected)
    (visible : handled = .skipped → ∃ number,
      bridge.driver.endpointByDevice.get deviceId = some number ∧
        bridge.willShow number state.kind = some state)
    (undeclared : handled = .ignored → ∀ number,
      bridge.driver.endpointByDevice.get deviceId = some number →
        declares bridge.driver number state.kind = false) :
    Kept (bridge.record (.reported deviceId state handled)) := by
  have rejections (device : String) (written : BridgedState) :
      lastRejected device written (.reported deviceId state handled :: bridge.history) =
        lastRejected device written bridge.history := by
    cases handled with
    | ignored => rfl
    | skipped => rfl
    | written rejected => exact absurd rfl (unwritten rejected)
  refine ⟨kept.sound, kept.typed, kept.present, kept.written, fun moment inside turn mine => ?_,
    fun number waits waiting => ?_, fun number text stands => ?_,
    fun device kind read became newest good => ?_, fun device kind turn read found => ?_,
    fun device number kind shown declared moment found => ?_⟩
  · rcases mem_cons.mp inside with rfl | older
    · cases mine
    · exact kept.past moment older turn mine
  · rcases kept.waiting number waits waiting with ⟨less, notYet, awaits⟩
    refine ⟨less, fun already => ?_, awaits.reported rfl rfl rfl fun _ _ _ => .inl rfl⟩
    exact notYet ((mem_cons.mp already).resolve_left fun same => by cases same)
  · rcases kept.slot number text stands with ⟨device, written, shown, same, accepted⟩
    refine ⟨device, written, shown, same, fun notRejected => accepted ?_⟩
    exact (rejections device written).symm.trans notRejected
  · have newest' : (if deviceId = device ∧ state.kind = kind then some (state, handled)
        else newestReport device kind bridge.history) = some (read, became) := newest
    split at newest'
    · rename_i own
      cases newest'
      rcases own with ⟨rfl, rfl⟩
      rcases good with rfl | rfl
      · exact visible rfl
      · exact absurd rfl (unwritten false)
    · exact kept.reported device kind read became newest' good
  · exact kept.read device kind turn read (read_of_mostRecent_reported found).1
  · have found' := mostRecent_reported.symm.trans found
    split at found'
    · rename_i own
      rcases own with ⟨rfl, rfl, -⟩
      cases found'
      cases handled with
      | ignored =>
        have not := undeclared rfl number shown
        exact Bool.noConfusion (not.symm.trans declared)
      | skipped => rfl
      | written rejected => exact absurd rfl (unwritten rejected)
    · exact kept.noticed device number kind shown declared moment found'

theorem Kept.handOver (shown : bridge.driver.endpointByDevice.get deviceId = some number) :
    Kept ((bridge.handOver number state rejects).record
      (.reported deviceId state (.written rejects))) := by
  have visible (other : Nat) (kind : CapabilityKind) :
      (bridge.handOver number state rejects).willShow other kind =
        if rejects = false ∧ number = other ∧ state.kind = kind then some state
        else bridge.willShow other kind :=
    willShow_write ⟨number, state, rejects⟩ other kind
  -- What is shown of other devices and of other capabilities stays.
  have elsewhere {device : String} {other : Nat} {kind : CapabilityKind}
      (entered : bridge.driver.endpointByDevice.get device = some other)
      (different : ¬(deviceId = device ∧ state.kind = kind)) :
      (bridge.handOver number state rejects).willShow other kind = bridge.willShow other kind := by
    rw [visible, if_neg]
    rintro ⟨-, rfl, ofKind⟩
    exact different ⟨kept.device_unique shown entered, ofKind⟩
  refine ⟨kept.sound.ofSame rfl rfl rfl rfl rfl, kept.typed, kept.present,
    fun write member => ?_, fun moment inside turn mine => ?_, fun other waits waiting => ?_,
    fun other text stands => ?_, fun device kind read became newest good => ?_,
    fun device kind turn read found => ?_, fun device other kind entered declared
      moment found => ?_⟩
  · rcases mem_append.mp member with older | newest
    · exact kept.written write older
    · obtain rfl := mem_singleton.mp newest
      exact kept.present deviceId number shown
  · rcases mem_cons.mp inside with rfl | older
    · cases mine
    · exact kept.past moment older turn mine
  · rcases kept.waiting other waits waiting with ⟨less, notYet, awaits⟩
    refine ⟨less, fun already => ?_, awaits.reported rfl rfl rfl fun turn listed kind => ?_⟩
    · exact notYet ((mem_cons.mp already).resolve_left fun same => by cases same)
    · by_cases mine : rejects = false ∧ number = turn.mapping.endpointNumber ∧ state.kind = kind
      · rcases listed.own with ⟨found, own, numbered, control⟩
        refine .inr ⟨?_, mine.2.2⟩
        exact (kept.owner ⟨own, numbered, control⟩ listed.device (mine.2.1 ▸ shown)).1
      · exact .inl ((visible _ kind).trans (if_neg mine))
  · have stands' := (get_set bridge.driver.lastReported number other _).symm.trans stands
    split at stands'
    · rename_i same
      subst same
      refine ⟨deviceId, state, shown, (some.inj stands').symm, fun accepted => ?_⟩
      rw [record, lastRejected, if_pos ⟨rfl, rfl⟩] at accepted
      exact (visible _ _).trans (if_pos ⟨accepted, rfl, rfl⟩)
    · rename_i different
      rcases kept.slot other text stands' with ⟨device, written, entered, same, accepted⟩
      have others : deviceId ≠ device := by
        rintro rfl
        exact different (some.inj (entered.symm.trans shown))
      refine ⟨device, written, entered, same, fun notRejected => ?_⟩
      rw [record, lastRejected, if_neg fun own => others own.1] at notRejected
      exact (elsewhere entered fun own => others own.1).trans (accepted notRejected)
  · have newest' : (if deviceId = device ∧ state.kind = kind then
          some (state, Handled.written rejects)
        else newestReport device kind bridge.history) = some (read, became) := newest
    split at newest'
    · rename_i own
      cases newest'
      rcases own with ⟨rfl, rfl⟩
      have accepted : rejects = false := by
        rcases good with none | same
        · cases none
        · injection same
      exact ⟨number, shown, (visible _ _).trans (if_pos ⟨accepted, rfl, rfl⟩)⟩
    · rename_i different
      rcases kept.reported device kind read became newest' good with ⟨other, entered, was⟩
      exact ⟨other, entered, (elsewhere entered different).trans was⟩
  · rcases read_of_mostRecent_reported found with ⟨before, different⟩
    rcases kept.read device kind turn read before with ⟨other, entered, was⟩
    exact ⟨other, entered, (elsewhere entered different).trans was⟩
  · have found' := mostRecent_reported.symm.trans found
    split at found'
    · cases found'
      rfl
    · exact kept.noticed device other kind entered declared moment found'

theorem Kept.visible_of_same (shown : bridge.driver.endpointByDevice.get deviceId = some number)
    (same : bridge.driver.lastReported.get number = some state.serialized)
    (rightly : bridge.NotSkippedWrongly deviceId state number) :
    bridge.willShow number state.kind = some state := by
  rcases kept.slot number _ same with ⟨device, written, entered, text, visible⟩
  obtain rfl := kept.device_unique shown entered
  obtain rfl := BridgedState.serialized_injective text
  exact visible (rightly same)

theorem Kept.reported_step (notLost : bridge.NothingLost (.reported deviceId state rejects)) :
    Kept ((bridge.tell deviceId state rejects bridge.listeners).2.record
      (.reported deviceId state (bridge.tell deviceId state rejects bridge.listeners).1)) := by
  rcases Nat.eq_zero_or_pos bridge.listeners with deaf | listening
  · rw [deaf]
    refine kept.notWritten (fun _ written => by cases written) (fun none => by cases none)
      fun _ number shown => ?_
    rw [Bool.eq_false_iff]
    intro declared
    have heard := (notLost number shown declared).1
    omega
  · rw [tell_eq listening]
    have did := @handledAs bridge deviceId state rejects (kept.typed deviceId)
    generalize bridge.handleSupremeStateChange deviceId state rejects = outcome at did
    cases did with
    | ignored undeclared =>
      exact kept.notWritten (fun _ written => by cases written) (fun none => by cases none)
        fun _ => undeclared
    | skipped number shown declared same =>
      refine kept.notWritten (fun _ written => by cases written) (fun _ => ⟨number, shown, ?_⟩)
        fun none => by cases none
      exact kept.visible_of_same shown same (notLost number shown declared).2
    | written number shown declared other => exact kept.handOver shown

theorem Kept.settle {write : AttributeWrite} {index : Nat}
    (stands : bridge.writes[index]? = some write)
    (inTurn : (write.rejects || (bridge.writes.take index).all AttributeWrite.rejects) = true) :
    Kept (bridge.settle write index) := by
  have there := kept.written write (mem_of_getElem? stands)
  have same : (bridge.settle write index).willShow = bridge.willShow := by
    funext number kind
    exact willShow_settle stands inTurn there
  have endpoints (number : Nat) (was : bridge.endpoints.has number = true) :
      (bridge.settle write index).endpoints.has number = true := by
    rw [ReportingBridge.settle]
    split
    · exact was
    · rw [AttributeWrite.apply]
      split
      · exact was
      · by_cases mine : number = write.endpointNumber <;>
          simp [OrderedMap.has, mine] at was ⊢
        exact was
  refine ⟨kept.sound, kept.typed, fun deviceId number shown => endpoints number
      (kept.present deviceId number shown), fun other member => endpoints _
      (kept.written other (mem_of_mem_eraseIdx member)), kept.past,
    fun number waits waiting => ?_, ?_, ?_, ?_, kept.noticed⟩
  · rcases kept.waiting number waits waiting with ⟨less, notYet, awaits⟩
    refine ⟨less, notYet, awaits.later (fun _ stands => stands) (fun _ _ inside => inside) endpoints
      fun turn _ shown => ?_⟩
    rw [ReadShown, same]
    exact shown
  · rw [same]
    exact kept.slot
  · rw [same]
    exact kept.reported
  · rw [same]
    exact kept.read

theorem Kept.serverStarted
    (taken : bridge.step types (.serverStarted number rejected) = some next) : Kept next := by
  unfold ReportingBridge.step at taken
  dsimp only at taken
  split at taken
  · split at taken
    · cases taken
      exact kept.done number
    · cases taken
      exact (kept.done number).continueStart fun _ member => listed_of_mem member
  · cases taken

theorem Kept.stateRead {answer : Except String (Option BridgedState)}
    (taken : bridge.step types (.stateRead number answer) = some next) : Kept next := by
  rw [ReportingBridge.step] at taken
  split at taken
  · rename_i turn capability waits
    rcases kept.waiting number _ waits with ⟨below, notYet, listed, unread⟩
    split at taken
    · cases taken
      exact (kept.done number).leave listed
    · split at taken
      · cases taken
        exact kept.read_turn (Nat.le_refl _) below notYet unread listed
      · cases taken
  · cases taken

theorem Kept.endpointAdded (notLost : bridge.NothingLost (.endpointAdded number rejected))
    (taken : bridge.step types (.endpointAdded number rejected) = some next) : Kept next := by
  rw [ReportingBridge.step] at taken
  split at taken
  · rename_i turn initialState waits
    rcases kept.waiting number _ waits with ⟨below, notYet, listed, reads⟩
    split at taken
    · cases taken
      exact (kept.done number).leave listed
    · rw [NothingLost, waits] at notLost
      have added := @Kept.addEndpoint bridge kept turn.mapping.endpointNumber initialState
      have there : (MatterBridge.addEndpoint bridge.endpoints turn.mapping.endpointNumber
          initialState).has turn.mapping.endpointNumber = true := has_addEndpoint.mpr (.inr rfl)
      split at taken
      · rename_i alone
        cases taken
        have device : turn.control = none := by
          rw [Turn.control, alone]
          rfl
        exact added.naming below notYet ⟨listed, fun deviceId state inside =>
          (reads deviceId state inside).1, there, kept.readShown reads (notLost device).1⟩
      · rename_i rest more
        cases taken
        have tracked : Kept ((track number turn { bridge with
            endpoints := MatterBridge.addEndpoint bridge.endpoints turn.mapping.endpointNumber
              initialState }).done number) := by
          cases control : turn.control with
          | some button => exact added.trackButton listed control
          | none =>
            have fine := notLost control
            refine added.trackDevice listed control below (fun deviceId state inside =>
              (reads deviceId state inside).1) there (kept.readShown reads fine.1) ?_
            have missed := fine.2 (by rw [more]; rfl)
            rw [NothingMissed, track, control] at missed ⊢
            exact missed
        refine tracked.leave ?_
        have store : ((track number turn { bridge with
            endpoints := MatterBridge.addEndpoint bridge.endpoints turn.mapping.endpointNumber
              initialState }).done number).driver.store = bridge.driver.store := by
          rw [track]
          split <;> rfl
        exact store ▸ listed
  · cases taken

theorem Kept.nameUpdated (notLost : bridge.NothingLost (.nameUpdated number rejected))
    (taken : bridge.step types (.nameUpdated number rejected) = some next) : Kept next := by
  rw [ReportingBridge.step] at taken
  split at taken
  · rename_i turn waits
    rcases kept.waiting number _ waits with ⟨below, notYet, listed, reads, there, shown⟩
    split at taken
    · cases taken
      exact kept.done number
    · rw [NothingLost, waits] at notLost
      cases taken
      cases control : turn.control with
      | some button => exact kept.trackButton listed control
      | none => exact kept.trackDevice listed control below reads there shown notLost
  · cases taken

variable {label : ReportLabel}

theorem Kept.step (notLost : bridge.NothingLost label)
    (taken : bridge.step types label = some next) : Kept next := by
  cases label with
  | exposeDevice device rejected =>
    cases taken
    exact kept.exposeDevice notLost
  | start =>
    cases taken
    split
    · exact kept
    · exact kept.wait trivial
  | serverStarted call rejected => exact kept.serverStarted taken
  | stateRead number answer => exact kept.stateRead taken
  | endpointAdded number rejected => exact kept.endpointAdded notLost taken
  | nameUpdated number rejected => exact kept.nameUpdated notLost taken
  | reported deviceId state rejects =>
    cases taken
    exact kept.reported_step notLost
  | settled index =>
    rw [ReportingBridge.step] at taken
    split at taken
    · cases taken
    · rename_i write stands
      split at taken
      · rename_i inTurn
        cases taken
        exact kept.settle stands inTurn
      · cases taken

theorem Kept.shown (idle : bridge.Idle) : bridge.Shown := by
  have settled (number : Nat) (kind : CapabilityKind) :
      bridge.willShow number kind = bridge.shows number kind := by
    rw [willShow, length_eq_zero_iff.mp idle.2]
    rfl
  intro deviceId number shown kind declared moment latest
  have noticed := kept.noticed deviceId number kind shown declared moment latest
  cases recent_of_mostRecentOf latest with
  | read turn state _ _ _ _ =>
    rcases kept.read deviceId kind turn state latest with ⟨other, entered, visible⟩
    cases shown.symm.trans entered
    exact (settled _ _).symm.trans visible
  | reported state handled _ _ newest =>
    have visible (good : handled = .skipped ∨ handled = .written false) :
        bridge.shows number kind = some state := by
      rcases kept.reported deviceId kind state handled newest good with
        ⟨other, entered, visible⟩
      cases shown.symm.trans entered
      exact (settled _ _).symm.trans visible
    cases handled with
    | ignored => cases noticed
    | skipped => exact visible (.inl rfl)
    | written rejected =>
      cases rejected with
      | true => trivial
      | false => exact visible (.inr rfl)

theorem writesAgain_step (notLost : bridge.NothingLost label)
    (taken : bridge.step types label = some next) : WritesAgain bridge label next := by
  cases label with
  | reported deviceId state rejects =>
    intro number shown declared rejected
    rcases notLost number shown declared with ⟨listening, rightly⟩
    rw [ReportingBridge.step, tell_eq listening] at taken
    have did := @handledAs bridge deviceId state rejects (kept.typed deviceId)
    generalize bridge.handleSupremeStateChange deviceId state rejects = outcome at did taken
    cases taken
    cases did with
    | ignored undeclared =>
      exact Bool.noConfusion ((undeclared number shown).symm.trans declared)
    | skipped other entered _ same =>
      cases entered.symm.trans shown
      exact Bool.noConfusion ((rightly same).symm.trans rejected)
    | written _ _ _ _ => exact ⟨rejects, rfl⟩
  | exposeDevice _ _ | start | serverStarted _ _ | stateRead _ _ | endpointAdded _ _
  | nameUpdated _ _ | settled _ => trivial

end

theorem kept_created {start : RegistryState} (started : Started start) :
    Kept (created start.store) := by
  refine ⟨MatterBridgeDriver.sound_constructed started, ?_, ?_, ?_, ?_, ?_, ?_, ?_, ?_, ?_⟩
  · intro deviceId number shown
    cases (OrderedMap.get_empty deviceId).symm.trans shown
  · intro deviceId number shown
    cases (OrderedMap.get_empty deviceId).symm.trans shown
  · exact fun _ member => absurd member not_mem_nil
  · exact fun _ member => absurd member not_mem_nil
  · intro number waits found
    cases (OrderedMap.get_empty number).symm.trans found
  · intro number text found
    cases (OrderedMap.get_empty number).symm.trans found
  · intro deviceId kind state handled newest
    cases newest
  · intro deviceId kind turn state latest
    cases latest
  · intro deviceId number kind shown
    cases (OrderedMap.get_empty deviceId).symm.trans shown

/-- As long as no state is lost Matter shows what was reported last. -/
theorem shows_reports {start : RegistryState} (started : Started start) (labels : List ReportLabel)
    (notLost : (machine types).Guarded NothingLost (created start.store) labels) :
    (machine types).Throughout (fun bridge => bridge.Idle → bridge.Shown) (created start.store)
        labels ∧ (machine types).EachStep WritesAgain (created start.store) labels := by
  have kept := kept_created started
  have preserved (bridge : ReportingBridge) (label : ReportLabel) (next : ReportingBridge)
      (holds : Kept bridge) (fine : bridge.NothingLost label)
      (taken : (machine types).step bridge label = some next) : Kept next := holds.step fine taken
  exact ⟨(Machine.throughout_of_guarded preserved kept notLost).mono fun _ holds => holds.shown,
    Machine.eachStep_of_guarded preserved
      (fun _ _ _ holds fine taken => writesAgain_step holds fine taken) kept notLost⟩

end Steps

def on : BridgedState := ⟨.onoff, .object [("kind", .text "onoff"), ("on", .boolean true)], rfl⟩

def off : BridgedState := ⟨.onoff, .object [("kind", .text "onoff"), ("on", .boolean false)], rfl⟩

def lampDevice : BridgedDevice := ⟨light, "Lamp", [⟨.onoff, .object []⟩], none⟩

def lampShown : List ReportLabel :=
  [.start, .serverStarted 0 none, .exposeDevice lampDevice none, .stateRead 1 (.ok (some off)),
    .endpointAdded 1 none, .nameUpdated 1 none]

/-- The server rejects that the lamp is on, and takes it after the lamp has been off. -/
theorem shows_reports_afterOff :
    (machine matterDeviceTypeRegistry).Throughout (fun bridge => bridge.Idle → bridge.Shown)
        (created ⟨KeyedStore.empty, none⟩)
        (lampShown ++ [.reported light.text on true, .settled 0, .reported light.text off false,
          .settled 0, .reported light.text on false, .settled 0]) ∧
      (machine matterDeviceTypeRegistry).EachStep WritesAgain (created ⟨KeyedStore.empty, none⟩)
        (lampShown ++ [.reported light.text on true, .settled 0, .reported light.text off false,
          .settled 0, .reported light.text on false, .settled 0]) :=
  shows_reports .memory _ (by decide +kernel)

/-- The server rejects that the lamp is on; reported again, it is skipped and never shown. -/
theorem shows_reports_fails_rejected :
    ¬ ∀ (types : MatterDeviceTypeRegistry) (start : RegistryState), Started start →
      ∀ labels : List ReportLabel,
        (machine types).Throughout (fun bridge => bridge.Idle → bridge.Shown)
            (created start.store) labels ∧
          (machine types).EachStep WritesAgain (created start.store) labels := by
  intro always
  have again := (always matterDeviceTypeRegistry _ .memory
    (lampShown ++ [.reported light.text on true, .settled 0, .reported light.text on false])).1
  let final := (machine matterDeviceTypeRegistry).run (created ⟨KeyedStore.empty, none⟩)
    (lampShown ++ [.reported light.text on true, .settled 0, .reported light.text on false])
  have settled : final.map (fun bridge => (bridge.waiting.entries.length, bridge.writes.length,
      bridge.driver.endpointByDevice.get light.text, declares bridge.driver 1 .onoff)) =
      some (0, 0, some 1, true) := by
    decide +kernel
  have observed : final.map (fun bridge =>
      (mostRecent bridge.history light.text .onoff, bridge.shows 1 .onoff)) =
      some (some (.reported light.text on .skipped), some off) := by
    decide +kernel
  rcases map_eq_some_iff.mp settled with ⟨bridge, reached, fields⟩
  rw [reached] at observed
  have latest := congrArg Prod.fst (some.inj observed)
  have shownState := congrArg Prod.snd (some.inj observed)
  simp only [Prod.mk.injEq] at fields latest shownState
  rcases fields with ⟨waiting, writes, shown, declared⟩
  have idle : bridge.Idle := ⟨length_eq_zero_iff.mp waiting, writes⟩
  have reflects := Machine.property_of_throughout again reached idle light.text 1 shown .onoff
    declared _ latest
  rw [shownState] at reflects
  revert reflects
  exact (by decide : ¬ some off = some on)

end ReportingBridge

end SupremeOs.MatterBridge
