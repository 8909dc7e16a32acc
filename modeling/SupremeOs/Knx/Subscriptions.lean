import SupremeOs.Knx.SupremeKnxDriver
import SupremeOs.Support.Machine
import Mathlib.Data.List.Nodup
import Mathlib.Data.List.Count

/-!
# Who hears a telegram

While the driver is connected, a telegram should reach everything that is bound
to its address, once.  The provider keeps its observers while the connection is
down and gives them up by address only, so this holds exactly as long as no
call leaves an observer behind or adds one for something that has one already.
-/

namespace SupremeOs.Knx

open Support DomainModel List

inductive Recipient where
  | capability (deviceId : DeviceId) (capability : CapabilityKind)
  | button (deviceId : DeviceId) (controlId : String)
deriving DecidableEq

def Recipient.deviceId : Recipient → DeviceId
  | .capability deviceId _ => deviceId
  | .button deviceId _ => deviceId

def KnxDeviceBinding.recipient (binding : KnxDeviceBinding) : Recipient :=
  .capability binding.deviceId binding.capability

def KnxKeypadButtonBinding.recipient (button : KnxKeypadButtonBinding) : Recipient :=
  .button button.deviceId button.controlId

def Handler.recipient : Handler → Recipient
  | .observe binding _ => binding.recipient
  | .observeKeypadButton button => button.recipient

def Observer.recipient (observer : Observer) : Recipient := observer.handler.recipient

def KnxDeviceBinding.wanted (binding : KnxDeviceBinding) : List (String × Observer) :=
  binding.feedbackGas.map fun ga => (ga, ⟨binding.dpt, .observe binding ga⟩)

def KnxKeypadButtonBinding.wanted (button : KnxKeypadButtonBinding) : String × Observer :=
  (button.ga, ⟨button.dpt, .observeKeypadButton button⟩)

namespace SupremeKnxDriver

/-- The subscriptions of everything that is bound. -/
def wanted (driver : SupremeKnxDriver) : List (String × Observer) :=
  driver.bindings.flatMap KnxDeviceBinding.wanted ++
    driver.keypadButtons.map KnxKeypadButtonBinding.wanted

/-- The observers that an address should have. -/
def listenersOn (driver : SupremeKnxDriver) (ga : String) : List Observer :=
  Multimap.forKey ga driver.wanted

/-- Whether an address is one of something that is bound. -/
def Hears (driver : SupremeKnxDriver) (ga : String) (recipient : Recipient) : Prop :=
  (∃ binding ∈ driver.bindings, ga ∈ binding.feedbackGas ∧ binding.recipient = recipient) ∨
    ∃ button ∈ driver.keypadButtons, button.ga = ga ∧ button.recipient = recipient

instance (driver : SupremeKnxDriver) (ga : String) (recipient : Recipient) :
    Decidable (driver.Hears ga recipient) := inferInstanceAs (Decidable (_ ∨ _))

variable {driver : SupremeKnxDriver}

theorem mem_wanted_iff {entry : String × Observer} : entry ∈ driver.wanted ↔
      (∃ binding ∈ driver.bindings, ∃ ga ∈ binding.feedbackGas,
          (ga, ⟨binding.dpt, .observe binding ga⟩) = entry) ∨
        ∃ button ∈ driver.keypadButtons, button.wanted = entry := by
  simp [wanted, KnxDeviceBinding.wanted]

theorem hears_iff {ga : String} {recipient : Recipient} : driver.Hears ga recipient ↔
      recipient ∈ (driver.listenersOn ga).map Observer.recipient := by
  simp only [listenersOn, mem_map, Multimap.mem_forKey, mem_wanted_iff, Hears]
  constructor
  · rintro (⟨binding, bound, heard, same⟩ | ⟨button, registered, rfl, same⟩)
    · exact ⟨⟨binding.dpt, .observe binding ga⟩, .inl ⟨binding, bound, ga, heard, rfl⟩, same⟩
    · exact ⟨⟨button.dpt, .observeKeypadButton button⟩, .inr ⟨button, registered, rfl⟩, same⟩
  · rintro ⟨observer, ⟨binding, bound, heard, member, equal⟩ | ⟨button, registered, equal⟩, same⟩
    · cases equal
      exact .inl ⟨binding, bound, member, same⟩
    · cases equal
      exact .inr ⟨button, registered, rfl, same⟩

theorem observe_eq_addAll (observers : Observers) (binding : KnxDeviceBinding) :
    observe observers binding = observers.addAll binding.wanted := by
  rw [Multimap.addAll, KnxDeviceBinding.wanted, foldl_map]
  rfl

theorem subscribeAll_eq_addAll (driver : SupremeKnxDriver) :
    driver.keypadButtons.foldl observeKeypadButton
        (driver.bindings.foldl observe driver.observers) =
      driver.observers.addAll driver.wanted := by
  rw [wanted, Multimap.addAll_append]
  have bindings : driver.bindings.foldl observe driver.observers =
      driver.observers.addAll (driver.bindings.flatMap KnxDeviceBinding.wanted) := by
    rw [Multimap.addAll, foldl_flatMap]
    congr 1
    funext observers binding
    exact observe_eq_addAll observers binding
  rw [bindings, Multimap.addAll, Multimap.addAll, foldl_map]
  rfl

/-- While it is connected, every telegram is delivered once to everything that is bound to
its address and to nothing else, and a press gives one event. -/
structure SubscriptionsExact (fromBuffer : String → Buffer → JsValue) (driver : SupremeKnxDriver) :
    Prop where
  delivered : driver.connected = true → ∀ (ga : String) (raw : Buffer) (recipient : Recipient),
    ((driver.telegram fromBuffer ga raw).map fun delivery =>
      delivery.handler.recipient).count recipient = if driver.Hears ga recipient then 1 else 0
  pressed : driver.connected = true → ∀ (raw : Buffer) (now : String),
    ∀ button ∈ driver.keypadButtons, fromBuffer button.dpt raw = .primitive (.boolean true) →
      (driver.inputEvents fromBuffer now button.ga raw).count
        ⟨button.deviceId, button.controlId, now, .buttonPressed⟩ = 1

end SupremeKnxDriver

open SupremeKnxDriver

inductive Call where
  | bind (binding : ProtocolBinding)
  | bindKeypadButton (deviceId : DeviceId) (controlId ga dpt : String)
  | unbind (deviceId : DeviceId)
  | connect (succeeds : Bool)
  | disconnect (succeeds : Bool)

def machine : Machine SupremeKnxDriver Call where
  step driver
    | .bind binding => some (driver.bind binding)
    | .bindKeypadButton deviceId controlId ga dpt =>
      some (driver.bindKeypadButton deviceId controlId ga dpt)
    | .unbind deviceId => some (driver.unbind deviceId)
    | .connect succeeds => some (driver.connect succeeds)
    | .disconnect succeeds => some (driver.disconnect succeeds)

/--
A connection starts without observers, and with nothing bound twice to one
address.  While it lasts, what is bound gets new addresses, different ones; a
button is registered once; and a device that is unbound shares no address.
-/
def NoLeftovers (driver : SupremeKnxDriver) : Call → Prop
  | .bind binding =>
    driver.connected = true → binding.entry.feedbackGas.Nodup ∧
      ∀ ga ∈ binding.entry.feedbackGas, ¬ driver.Hears ga binding.entry.recipient
  | .bindKeypadButton deviceId controlId _ _ =>
    driver.connected = true →
      ∀ button ∈ driver.keypadButtons, button.recipient ≠ .button deviceId controlId
  | .unbind deviceId =>
    driver.connected = true → ∀ own ∈ driver.wanted, own.2.recipient.deviceId = deviceId →
        ∀ other ∈ driver.wanted, other.1 = own.1 → other.2.recipient.deviceId = deviceId
  | .connect succeeds =>
    driver.connected = false → succeeds = true →
      (∀ entry ∈ driver.observers.entries, entry.2 = []) ∧ ∀ entry ∈ driver.wanted,
          ((driver.listenersOn entry.1).map Observer.recipient).Nodup
  | .disconnect _ => True

instance (driver : SupremeKnxDriver) : ∀ call, Decidable (NoLeftovers driver call) := by
  intro call
  unfold NoLeftovers
  split <;> infer_instance

namespace SupremeKnxDriver

/-- One entry for each button; while connected, the observers are the ones wanted, each once. -/
structure Sound (driver : SupremeKnxDriver) : Prop where
  registered : (driver.keypadButtons.map KnxKeypadButtonBinding.recipient).Nodup
  subscribed : driver.connected = true → ∀ ga : String,
    (driver.observers.listAt ga).Perm (driver.listenersOn ga)
  once : driver.connected = true → ∀ ga : String,
    ((driver.listenersOn ga).map Observer.recipient).Nodup

variable {fromBuffer : String → Buffer → JsValue} {driver : SupremeKnxDriver}

theorem recipients_of_telegram (ga : String) (raw : Buffer) :
    ((driver.telegram fromBuffer ga raw).map fun delivery => delivery.handler.recipient) =
      (driver.observers.listAt ga).map Observer.recipient := by
  rw [telegram, map_map]
  rfl

theorem count_of_sound (sound : Sound driver) (connected : driver.connected = true) (ga : String)
    (recipient : Recipient) :
    ((driver.observers.listAt ga).map Observer.recipient).count recipient =
      if driver.Hears ga recipient then 1 else 0 := by
  rw [((sound.subscribed connected ga).map Observer.recipient).count_eq,
    (sound.once connected ga).count]
  simp only [hears_iff]

variable {controlId ga : String} {button : KnxKeypadButtonBinding} {binding : ProtocolBinding}

theorem observer_of_inputEvent {observer : Observer} {raw : Buffer} {now : String}
    (pressed : inputEvent now ⟨observer.handler, fromBuffer observer.dpt raw⟩ =
      some ⟨button.deviceId, button.controlId, now, .buttonPressed⟩) :
    observer.recipient = button.recipient := by
  rcases observer with ⟨dpt, handler⟩
  cases handler with
  | observe binding ga => simp [inputEvent] at pressed
  | observeKeypadButton other =>
    simp only [inputEvent] at pressed
    split at pressed
    · rename_i handler value same decoded
      cases same
      simp only [Option.some.injEq, KeypadInputEvent.mk.injEq] at pressed
      simp only [Observer.recipient, Handler.recipient, KnxKeypadButtonBinding.recipient,
        pressed.1, pressed.2.1]
    · cases pressed

theorem exact_of_sound (sound : Sound driver) : SubscriptionsExact fromBuffer driver where
  delivered connected ga raw recipient := by
    rw [recipients_of_telegram]
    exact count_of_sound sound connected ga recipient
  pressed connected raw now button registered decoded := by
    have own : (⟨button.dpt, .observeKeypadButton button⟩ : Observer) ∈
        driver.observers.listAt button.ga := by
      apply (sound.subscribed connected button.ga).mem_iff.mpr
      rw [listenersOn, Multimap.mem_forKey]
      exact mem_wanted_iff.mpr (.inr ⟨button, registered, rfl⟩)
    rw [inputEvents, telegram, filterMap_map, count_filterMap]
    apply Nat.le_antisymm
    · have atMost : (driver.observers.listAt button.ga).countP
          (fun observer => decide (observer.recipient = button.recipient)) ≤ 1 := by
        have counted := count_of_sound sound connected button.ga button.recipient
        rw [List.count, countP_map] at counted
        calc (driver.observers.listAt button.ga).countP
              (fun observer => decide (observer.recipient = button.recipient))
            = if driver.Hears button.ga button.recipient then 1 else 0 := by
              rw [← counted]
              rfl
          _ ≤ 1 := by split <;> omega
      refine Nat.le_trans (countP_mono_left ?_) atMost
      intro observer _ pressed
      simp only [Function.comp_apply, beq_iff_eq] at pressed
      exact decide_eq_true (observer_of_inputEvent pressed)
    · apply countP_pos_iff.mpr
      refine ⟨_, own, ?_⟩
      simp [inputEvent, decoded]

theorem recipient_eq_button_iff {deviceId : DeviceId} :
    button.recipient = .button deviceId controlId ↔
      button.deviceId = deviceId ∧ button.controlId = controlId := by
  simp [KnxKeypadButtonBinding.recipient]

theorem keypadButtons_of_unregistered {deviceId : DeviceId} {dpt : String}
    (fresh : ∀ button ∈ driver.keypadButtons, button.recipient ≠ .button deviceId controlId) :
    (driver.bindKeypadButton deviceId controlId ga dpt).keypadButtons =
      driver.keypadButtons ++ [⟨deviceId, controlId, ga, dpt⟩] := by
  have none : driver.keypadButtons.findIdx? (fun button =>
      decide (button.deviceId = deviceId ∧ button.controlId = controlId)) = none := by
    rw [findIdx?_eq_none_iff]
    intro button member
    simpa only [decide_eq_false_iff_not, ← recipient_eq_button_iff] using fresh button member
  simp only [bindKeypadButton, none]

/-- A button that is registered is replaced in its place. -/
theorem keypadButtons_of_registered {deviceId : DeviceId} {controlId ga dpt : String}
    {old : KnxKeypadButtonBinding} (registered : old ∈ driver.keypadButtons)
    (own : old.recipient = .button deviceId controlId) :
    (driver.bindKeypadButton deviceId controlId ga dpt).keypadButtons.map
        KnxKeypadButtonBinding.recipient =
      driver.keypadButtons.map KnxKeypadButtonBinding.recipient ∧ ⟨deviceId, controlId, ga, dpt⟩ ∈
      (driver.bindKeypadButton deviceId controlId ga dpt).keypadButtons := by
  cases found : driver.keypadButtons.findIdx? (fun button =>
      decide (button.deviceId = deviceId ∧ button.controlId = controlId)) with
  | none =>
    have absent := findIdx?_eq_none_iff.mp found old registered
    rw [decide_eq_false_iff_not, ← recipient_eq_button_iff] at absent
    exact (absent own).elim
  | some existing =>
    rcases findIdx?_eq_some_iff_getElem.mp found with ⟨inside, same, -⟩
    rw [decide_eq_true_eq, ← recipient_eq_button_iff] at same
    simp only [bindKeypadButton, found]
    constructor
    · rw [map_set]
      apply ext_getElem
      · simp
      · intro index _ _
        rw [getElem_set]
        split
        · rename_i here
          subst here
          rw [getElem_map, same]
          rfl
        · rfl
    · exact mem_set inside _

theorem recipients_wanted (binding : KnxDeviceBinding) (ga : String) :
    (Multimap.forKey ga binding.wanted).map Observer.recipient =
      List.replicate (binding.feedbackGas.count ga) binding.recipient := by
  rw [KnxDeviceBinding.wanted]
  induction binding.feedbackGas with
  | nil => rfl
  | cons first rest ih =>
    rw [map_cons, Multimap.forKey_cons, count_cons]
    by_cases here : first = ga
    · simp only [here, if_true, map_cons, ih, beq_self_eq_true, replicate_succ]
      rfl
    · simp [here, ih, beq_iff_eq]

theorem perm_listenersOn_bind (binding : ProtocolBinding) (ga : String) :
    ((driver.bind binding).listenersOn ga).Perm
      (driver.listenersOn ga ++ Multimap.forKey ga binding.entry.wanted) := by
  simp only [listenersOn, wanted, bind, flatMap_append, flatMap_singleton,
    Multimap.forKey_append, append_assoc]
  exact (perm_append_comm).append_left _

theorem listAt_bind (connected : driver.connected = true) (binding : ProtocolBinding)
    (ga : String) :
    (driver.bind binding).observers.listAt ga =
      driver.observers.listAt ga ++ Multimap.forKey ga binding.entry.wanted := by
  simp only [bind, connected, if_true, observe_eq_addAll, Multimap.listAt_addAll]

theorem sound_bind (sound : Sound driver)
    (guard : NoLeftovers driver (.bind binding)) : Sound (driver.bind binding) where
  registered := sound.registered
  subscribed connected ga := by
    have before : driver.connected = true := connected
    rw [listAt_bind before]
    exact ((sound.subscribed connected ga).append_right _).trans
      (perm_listenersOn_bind binding ga).symm
  once connected ga := by
    rcases guard connected with ⟨different, unheard⟩
    rw [((perm_listenersOn_bind binding ga).map Observer.recipient).nodup_iff, map_append,
      recipients_wanted, nodup_append]
    refine ⟨sound.once connected ga, ?_, ?_⟩
    · exact nodup_replicate.mpr (nodup_iff_count_le_one.mp different ga)
    · intro old heard new added
      rcases mem_replicate.mp added with ⟨named, rfl⟩
      have member : ga ∈ binding.entry.feedbackGas := count_pos_iff.mp (by omega)
      rintro rfl
      exact unheard ga member (hears_iff.mpr heard)

theorem guard_of_bind (sound : Sound driver)
    (good : SubscriptionsExact fromBuffer (driver.bind binding)) :
    NoLeftovers driver (.bind binding) := by
  intro connected
  have counts : ∀ ga ∈ binding.entry.feedbackGas,
      ¬ driver.Hears ga binding.entry.recipient ∧ binding.entry.feedbackGas.count ga = 1 := by
    intro ga member
    have heard : (driver.bind binding).Hears ga binding.entry.recipient :=
      .inl ⟨binding.entry, mem_append_right _ (.head _), member, rfl⟩
    have counted := good.delivered connected ga [] binding.entry.recipient
    rw [recipients_of_telegram, listAt_bind connected, map_append, count_append, count_of_sound
      sound connected, recipients_wanted, count_replicate_self, if_pos heard] at counted
    have positive : 0 < binding.entry.feedbackGas.count ga := count_pos_iff.mpr member
    split at counted
    · omega
    · rename_i unheard
      exact ⟨unheard, by omega⟩
  refine ⟨nodup_iff_count_le_one.mpr ?_, fun ga member => (counts ga member).1⟩
  intro ga
  by_cases member : ga ∈ binding.entry.feedbackGas
  · rw [(counts ga member).2]
  · rw [count_eq_zero_of_not_mem member]
    omega

theorem listAt_bindKeypadButton (connected : driver.connected = true) (deviceId : DeviceId)
    (controlId ga dpt query : String) :
    (driver.bindKeypadButton deviceId controlId ga dpt).observers.listAt query =
      driver.observers.listAt query ++
        Multimap.forKey query [KnxKeypadButtonBinding.wanted ⟨deviceId, controlId, ga, dpt⟩] := by
  simp only [bindKeypadButton, connected, if_true, observeKeypadButton, subscribe,
    Multimap.listAt_add, Multimap.forKey_cons, KnxKeypadButtonBinding.wanted]
  split <;> simp [Multimap.forKey]

theorem not_hears_of_unregistered {deviceId : DeviceId}
    (fresh : ∀ button ∈ driver.keypadButtons, button.recipient ≠ .button deviceId controlId)
    (ga : String) : ¬ driver.Hears ga (.button deviceId controlId) := by
  rintro (⟨binding, _, _, same⟩ | ⟨button, registered, _, same⟩)
  · cases same
  · exact fresh button registered same

theorem sound_bindKeypadButton (sound : Sound driver) {deviceId : DeviceId} {dpt : String}
    (guard : NoLeftovers driver (.bindKeypadButton deviceId controlId ga dpt)) :
    Sound (driver.bindKeypadButton deviceId controlId ga dpt) := by
  have listeners : driver.connected = true → ∀ query,
      (driver.bindKeypadButton deviceId controlId ga dpt).listenersOn query =
        driver.listenersOn query ++
          Multimap.forKey query [KnxKeypadButtonBinding.wanted ⟨deviceId, controlId, ga, dpt⟩] := by
    intro connected query
    simp only [listenersOn, wanted, keypadButtons_of_unregistered (guard connected),
      map_append, map_singleton, ← append_assoc, Multimap.forKey_append]
    rfl
  refine ⟨?_, ?_, ?_⟩
  · by_cases known : ∃ old ∈ driver.keypadButtons, old.recipient = .button deviceId controlId
    · rcases known with ⟨old, registered, own⟩
      rw [(keypadButtons_of_registered registered own).1]
      exact sound.registered
    · simp only [not_exists, not_and] at known
      rw [keypadButtons_of_unregistered known, map_append, map_singleton,
        ← concat_eq_append, nodup_concat]
      refine ⟨?_, sound.registered⟩
      intro member
      rcases mem_map.mp member with ⟨old, registered, same⟩
      exact known old registered same
  · intro connected query
    have before : driver.connected = true := connected
    rw [listAt_bindKeypadButton before, listeners before]
    exact (sound.subscribed before query).append_right _
  · intro connected query
    have before : driver.connected = true := connected
    rw [listeners before, map_append, nodup_append]
    refine ⟨sound.once before query, ?_, ?_⟩
    · rw [Multimap.forKey_cons]
      split <;> simp [Multimap.forKey]
    · intro old heard new added
      rcases mem_map.mp added with ⟨observer, member, rfl⟩
      rw [Multimap.mem_forKey, mem_singleton] at member
      cases member
      rintro rfl
      exact not_hears_of_unregistered (guard before) _ (hears_iff.mpr heard)

theorem guard_of_bindKeypadButton (sound : Sound driver) {deviceId : DeviceId} {dpt : String}
    (good : SubscriptionsExact fromBuffer (driver.bindKeypadButton deviceId controlId ga dpt)) :
    NoLeftovers driver (.bindKeypadButton deviceId controlId ga dpt) := by
  intro connected old registered own
  rcases @keypadButtons_of_registered driver deviceId controlId ga dpt old registered own with
    ⟨recipients, replaced⟩
  have heard : driver.Hears old.ga old.recipient := .inr ⟨old, registered, rfl, rfl⟩
  have counted := good.delivered connected old.ga [] old.recipient
  rw [recipients_of_telegram, listAt_bindKeypadButton connected, map_append, count_append,
    count_of_sound sound connected, if_pos heard, Multimap.forKey_cons] at counted
  by_cases same : ga = old.ga
  · -- The old and the new observer hear the same address.
    have twice : (KnxKeypadButtonBinding.wanted ⟨deviceId, controlId, ga, dpt⟩).2.recipient =
        old.recipient := own.symm
    rw [if_pos (show (KnxKeypadButtonBinding.wanted ⟨deviceId, controlId, ga, dpt⟩).1 = old.ga
      from same), map_cons, twice, count_cons_self] at counted
    split at counted <;> omega
  · -- The old observer hears an address that the button has given up.
    rw [if_neg (show ¬ (KnxKeypadButtonBinding.wanted ⟨deviceId, controlId, ga, dpt⟩).1 = old.ga
      from same)] at counted
    split at counted
    · rename_i still
      rcases still with ⟨binding, _, _, equal⟩ | ⟨button, present, address, equal⟩
      · rw [own] at equal
        cases equal
      · have unique := inj_on_of_nodup_map (recipients ▸ sound.registered) present replaced
          (equal.trans own)
        exact same (by rw [← address, unique])
    · simp [Multimap.forKey] at counted

theorem deviceId_of_mem_wanted (binding : KnxDeviceBinding) {entry : String × Observer}
    (member : entry ∈ binding.wanted) : entry.2.recipient.deviceId = binding.deviceId := by
  rcases mem_map.mp member with ⟨ga, _, rfl⟩
  rfl

theorem wanted_unbind (deviceId : DeviceId) : (driver.unbind deviceId).wanted =
      driver.wanted.filter fun entry => decide (entry.2.recipient.deviceId ≠ deviceId) := by
  simp only [wanted, unbind, filter_append, filter_map]
  congr 1
  induction driver.bindings with
  | nil => rfl
  | cons first rest ih =>
    by_cases own : first.deviceId = deviceId
    · have none : first.wanted.filter (fun entry =>
          decide (entry.2.recipient.deviceId ≠ deviceId)) = [] := by
        apply filter_eq_nil_iff.mpr
        intro entry member
        simp [deviceId_of_mem_wanted first member, own]
      rw [filter_cons_of_neg (by simpa using own), flatMap_cons, filter_append, none, nil_append]
      exact ih
    · have all : first.wanted.filter (fun entry =>
          decide (entry.2.recipient.deviceId ≠ deviceId)) = first.wanted := by
        apply filter_eq_self.mpr
        intro entry member
        simp [deviceId_of_mem_wanted first member, own]
      rw [filter_cons_of_pos (by simpa using own), flatMap_cons, flatMap_cons,
        filter_append, all, ih]

theorem stillUsed_iff : stillUsed driver.bindings driver.keypadButtons ga = true ↔
      ∃ entry ∈ driver.wanted, entry.1 = ga := by
  simp only [stillUsed, Bool.or_eq_true, any_eq_true, decide_eq_true_eq, mem_wanted_iff]
  constructor
  · rintro (⟨binding, bound, heard⟩ | ⟨button, registered, rfl⟩)
    · exact ⟨_, .inl ⟨binding, bound, ga, heard, rfl⟩, rfl⟩
    · exact ⟨_, .inr ⟨button, registered, rfl⟩, rfl⟩
  · rintro ⟨entry, ⟨binding, bound, heard, member, rfl⟩ | ⟨button, registered, rfl⟩, rfl⟩
    · exact .inl ⟨binding, bound, member⟩
    · exact .inr ⟨button, registered, rfl⟩

theorem released_iff {deviceId : DeviceId} :
    ga ∈ (driver.bindings.filter fun binding => decide (binding.deviceId = deviceId)).flatMap
          KnxDeviceBinding.feedbackGas ++
        (driver.keypadButtons.filter fun button => decide (button.deviceId = deviceId)).map
          KnxKeypadButtonBinding.ga ↔
      ∃ own ∈ driver.wanted, own.2.recipient.deviceId = deviceId ∧ own.1 = ga := by
  simp only [mem_append, mem_flatMap, mem_map, mem_filter, decide_eq_true_eq, mem_wanted_iff]
  constructor
  · rintro (⟨binding, ⟨bound, own⟩, heard⟩ | ⟨button, ⟨registered, own⟩, rfl⟩)
    · exact ⟨_, .inl ⟨binding, bound, ga, heard, rfl⟩, own, rfl⟩
    · exact ⟨_, .inr ⟨button, registered, rfl⟩, own, rfl⟩
  · rintro ⟨entry, ⟨binding, bound, heard, member, rfl⟩ | ⟨button, registered, rfl⟩, own, rfl⟩
    · exact .inl ⟨binding, ⟨bound, own⟩, member⟩
    · exact .inr ⟨button, ⟨registered, own⟩, rfl⟩

theorem listAt_unbind (deviceId : DeviceId) (ga : String) :
    (driver.unbind deviceId).observers.listAt ga =
      if (∃ own ∈ driver.wanted, own.2.recipient.deviceId = deviceId ∧ own.1 = ga) ∧
          ∀ other ∈ driver.wanted, other.1 = ga → other.2.recipient.deviceId = deviceId then []
      else driver.observers.listAt ga := by
  have unused : (!stillUsed (driver.unbind deviceId).bindings
      (driver.unbind deviceId).keypadButtons ga) = true ↔
        ∀ other ∈ driver.wanted, other.1 = ga → other.2.recipient.deviceId = deviceId := by
    rw [Bool.not_eq_true', ← Bool.not_eq_true, stillUsed_iff, wanted_unbind]
    simp only [mem_filter, decide_eq_true_eq, not_exists, not_and, and_imp]
    constructor
    · intro none other member address
      by_contra differs
      exact none other member differs address
    · intro all other member differs address
      exact differs (all other member address)
  have kept := Multimap.listAt_dropWhere (fun ga => !stillUsed (driver.unbind deviceId).bindings
    (driver.unbind deviceId).keypadButtons ga) driver.observers
    ((driver.bindings.filter fun binding => decide (binding.deviceId = deviceId)).flatMap
        KnxDeviceBinding.feedbackGas ++
      (driver.keypadButtons.filter fun button => decide (button.deviceId = deviceId)).map
        KnxKeypadButtonBinding.ga) ga
  simp only [released_iff, unused] at kept
  exact kept

theorem sound_unbind (sound : Sound driver) {deviceId : DeviceId}
    (guard : NoLeftovers driver (.unbind deviceId)) : Sound (driver.unbind deviceId) where
  registered := sound.registered.sublist (filter_sublist.map _)
  subscribed connected ga := by
    have before : driver.connected = true := connected
    rw [listAt_unbind, listenersOn, wanted_unbind]
    by_cases released : ∃ own ∈ driver.wanted, own.2.recipient.deviceId = deviceId ∧ own.1 = ga
    · rcases released with ⟨own, member, device, address⟩
      have others : ∀ other ∈ driver.wanted, other.1 = ga →
          other.2.recipient.deviceId = deviceId := fun other present same =>
        guard before own member device other present (same.trans address.symm)
      rw [if_pos ⟨⟨own, member, device, address⟩, others⟩, Multimap.forKey_eq_nil]
      intro entry kept same
      rcases mem_filter.mp kept with ⟨present, differs⟩
      exact of_decide_eq_true differs (others entry present same)
    · rw [if_neg fun both => released both.1, Multimap.forKey_filter]
      · exact sound.subscribed before ga
      · intro entry present address
        exact decide_eq_true fun own => released ⟨entry, present, own, address⟩
  once connected ga := by
    rw [listenersOn, wanted_unbind]
    exact (sound.once connected ga).sublist ((Multimap.forKey_filter_sublist ..).map _)

theorem guard_of_unbind (sound : Sound driver) {deviceId : DeviceId}
    (good : SubscriptionsExact fromBuffer (driver.unbind deviceId)) :
    NoLeftovers driver (.unbind deviceId) := by
  intro connected own member device other present address
  by_contra shared
  -- The address stays subscribed, and with it the observer of the device.
  have counted := good.delivered connected own.1 [] own.2.recipient
  have kept : ¬ ∀ other ∈ driver.wanted, other.1 = own.1 →
      other.2.recipient.deviceId = deviceId := fun all => shared (all other present address)
  have heard : driver.Hears own.1 own.2.recipient :=
    hears_iff.mpr (mem_map_of_mem (Multimap.mem_forKey.mpr member))
  have silent : ¬ (driver.unbind deviceId).Hears own.1 own.2.recipient := by
    rw [hears_iff, listenersOn, wanted_unbind]
    intro left
    rcases mem_map.mp left with ⟨observer, survives, same⟩
    rw [Multimap.mem_forKey, mem_filter] at survives
    exact of_decide_eq_true survives.2 (same ▸ device)
  rw [recipients_of_telegram, listAt_unbind, if_neg fun both => kept both.2,
    count_of_sound sound connected, if_pos heard, if_neg silent] at counted
  cases counted

theorem listAt_connect (disconnected : driver.connected = false) (ga : String) :
    (driver.connect true).observers.listAt ga =
      driver.observers.listAt ga ++ driver.listenersOn ga := by
  simp [connect, disconnected, subscribeAll_eq_addAll, Multimap.listAt_addAll, listenersOn]

theorem wanted_connect (succeeds : Bool) : (driver.connect succeeds).wanted = driver.wanted := by
  unfold connect
  split
  · rfl
  · split <;> rfl

theorem sound_connect (sound : Sound driver) (disconnected : driver.connected = false)
    (guard : NoLeftovers driver (.connect true)) : Sound (driver.connect true) := by
  rcases guard disconnected rfl with ⟨clear, different⟩
  refine ⟨?_, ?_, ?_⟩
  · simp only [connect, disconnected, Bool.false_eq_true, if_false, if_true]
    exact sound.registered
  · intro _ ga
    rw [listAt_connect disconnected, Multimap.entries_empty_iff.mp clear ga, listenersOn,
      listenersOn, wanted_connect]
    exact List.Perm.refl _
  · intro _ ga
    rw [listenersOn, wanted_connect]
    by_cases heard : ∃ entry ∈ driver.wanted, entry.1 = ga
    · rcases heard with ⟨entry, member, rfl⟩
      exact different entry member
    · simp only [not_exists, not_and] at heard
      rw [Multimap.forKey_eq_nil heard]
      exact nodup_nil

theorem guard_of_connect (disconnected : driver.connected = false)
    (good : SubscriptionsExact fromBuffer (driver.connect true)) :
    NoLeftovers driver (.connect true) := by
  have connected : (driver.connect true).connected = true := by
    simp [connect, disconnected]
  have counts : ∀ ga recipient,
      ((driver.observers.listAt ga).map Observer.recipient).count recipient +
          ((driver.listenersOn ga).map Observer.recipient).count recipient =
        if recipient ∈ (driver.listenersOn ga).map Observer.recipient then 1 else 0 := by
    intro ga recipient
    have counted := good.delivered connected ga [] recipient
    simp only [recipients_of_telegram, listAt_connect disconnected, map_append,
      count_append, hears_iff, listenersOn, wanted_connect] at counted
    exact counted
  intro _ _
  constructor
  · apply Multimap.entries_empty_iff.mpr
    intro ga
    apply eq_nil_iff_forall_not_mem.mpr
    intro observer left
    have counted := counts ga observer.recipient
    have heard : 0 < ((driver.observers.listAt ga).map Observer.recipient).count
        observer.recipient := count_pos_iff.mpr (mem_map_of_mem left)
    split at counted
    · rename_i wanted
      have again := count_pos_iff.mpr wanted
      omega
    · omega
  · intro entry _
    apply nodup_iff_count_le_one.mpr
    intro recipient
    have counted := counts entry.1 recipient
    split at counted <;> omega

theorem sound_of_disconnected
    (registered : (driver.keypadButtons.map KnxKeypadButtonBinding.recipient).Nodup)
    (disconnected : driver.connected = false) : Sound driver where
  registered := registered
  subscribed connected := by simp [disconnected] at connected
  once connected := by simp [disconnected] at connected

theorem exact_of_disconnected (disconnected : driver.connected = false) :
    SubscriptionsExact fromBuffer driver where
  delivered connected := by simp [disconnected] at connected
  pressed connected := by simp [disconnected] at connected

end SupremeKnxDriver

theorem sound_of_step {driver next : SupremeKnxDriver} {call : Call} (sound : Sound driver)
    (guard : NoLeftovers driver call) (taken : machine.step driver call = some next) :
    Sound next := by
  cases call with
  | bind binding =>
    cases taken
    exact sound_bind sound guard
  | bindKeypadButton deviceId controlId ga dpt =>
    cases taken
    exact sound_bindKeypadButton sound guard
  | unbind deviceId =>
    cases taken
    exact sound_unbind sound guard
  | connect succeeds =>
    cases taken
    cases connected : driver.connected with
    | true => simpa only [connect, connected, if_true] using sound
    | false =>
      cases succeeds with
      | true => exact sound_connect sound connected guard
      | false => simpa only [connect, connected, Bool.false_eq_true, if_false] using sound
  | disconnect succeeds =>
    cases taken
    cases succeeds with
    | true => exact @sound_of_disconnected { driver with connected := false } sound.registered rfl
    | false => exact sound

theorem exact_iff_of_step {fromBuffer : String → Buffer → JsValue}
    {driver next : SupremeKnxDriver} {call : Call} (sound : Sound driver)
    (taken : machine.step driver call = some next) :
    SubscriptionsExact fromBuffer next ↔ NoLeftovers driver call := by
  refine ⟨fun good => ?_, fun guard => exact_of_sound (sound_of_step sound guard taken)⟩
  cases call with
  | bind binding =>
    cases taken
    exact guard_of_bind sound good
  | bindKeypadButton deviceId controlId ga dpt =>
    cases taken
    exact guard_of_bindKeypadButton sound good
  | unbind deviceId =>
    cases taken
    exact guard_of_unbind sound good
  | connect succeeds =>
    cases taken
    intro disconnected works
    subst works
    exact guard_of_connect disconnected good disconnected rfl
  | disconnect succeeds => trivial

/--
Over every sequence of calls to a new driver the subscriptions are exact,
exactly if no call leaves an observer behind or adds one that is there already.
-/
theorem subscriptions_exact_iff (fromBuffer : String → Buffer → JsValue) (calls : List Call) :
    machine.Throughout (SubscriptionsExact fromBuffer) initial calls ↔
      machine.Guarded NoLeftovers initial calls :=
  Machine.throughout_iff_guarded Sound
    (fun _ _ _ sound _ taken => exact_iff_of_step sound taken)
    (fun _ _ _ sound _ guard taken => sound_of_step sound guard taken)
    (@sound_of_disconnected initial nodup_nil rfl) (exact_of_disconnected rfl)

/-- A button whose driver has been reconnected gives two presses for one. -/
theorem reconnected_button_is_doubled :
    ¬ ∀ (fromBuffer : String → Buffer → JsValue) (calls : List Call),
      machine.Throughout (SubscriptionsExact fromBuffer) initial calls := by
  intro always
  have throughout := always (fun _ _ => .primitive (.boolean true))
    [.bindKeypadButton "keypad" "btn1" "1/1/1" "DPT1.001", .connect true, .disconnect true,
      .connect true]
  have counted := (Machine.property_of_throughout throughout rfl).pressed rfl [0x01]
    "2026-01-01T00:00:00.000Z" ⟨"keypad", "btn1", "1/1/1", "DPT1.001"⟩ (by decide) rfl
  revert counted
  decide +kernel

end SupremeOs.Knx
