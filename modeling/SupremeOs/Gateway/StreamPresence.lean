import SupremeOs.Gateway.StreamConnections

/-!
# Presence tells the truth

When nothing is in flight, the users who are online should be those who have an
open connection.

The entry of a user expires ninety seconds after his last connection has been
attached, whatever he sends, and it is dropped when any of his connections
closes.  So presence is right as long as a user has one connection at a time,
which closes before its entry expires and not before it is attached.
-/

namespace SupremeOs.Gateway

open Support Messaging Option

structure PresenceTold (config : Config Stream StreamCall) : Prop where
  connected : Quiet config → ∀ (id : Nat) (connection : Connection) (user : String),
    config.shared.connections[id]? = some connection → connection.isOpen = true →
    connection.phase.user = some user →
    user ∈ config.shared.presence.online config.shared.now config.shared.homeId
  gone : Quiet config → ∀ user ∈
    config.shared.presence.online config.shared.now config.shared.homeId,
    ∃ (id : Nat) (connection : Connection), config.shared.connections[id]? = some connection ∧
      connection.isOpen = true ∧ connection.phase.user = some user

def Stream.standing (stream : Stream) (id : Nat) : Option (ConnectionPhase × Bool) :=
  stream.connections[id]?.map fun connection => (connection.phase, connection.isOpen)

def presentUser : ConnectionPhase × Bool → Option String
  | (.attached user _, true) => some user
  | (.attached _ _, false) | (.authenticating, _) | (.unauthorized, _) | (.gettingHome _, _)
  | (.abandoned _, _) => none

def Stream.presentAt (stream : Stream) (id : Nat) : Option String :=
  (stream.standing id).bind presentUser

/-- The socket is attached while it is open and with its own home, or not at all once closed. -/
def Connection.attachesPresent (homeId : String) (connection : Connection) : StreamReply → Prop
  | .home found => connection.isOpen = true ∧ found.getD homeId = homeId
  | .rejected _ => connection.isOpen = false
  | .user _ | .room _ | .verdict _ | .done => True

instance (homeId : String) (connection : Connection) :
    ∀ reply, Decidable (connection.attachesPresent homeId reply)
  | .home _ => inferInstanceAs (Decidable (_ ∧ _))
  | .rejected _ => inferInstanceAs (Decidable (_ = _))
  | .user _ | .room _ | .verdict _ | .done => isTrue trivial

def Stream.closesLast (stream : Stream) (id : Nat) : Prop :=
  ∀ user ∈ stream.presentAt id, ∀ other < stream.connections.length, other ≠ id →
    stream.presentAt other ≠ some user

instance (stream : Stream) (id : Nat) : Decidable (stream.closesLast id) :=
  inferInstanceAs (Decidable (∀ user ∈ stream.presentAt id, _))

/-- The entries of those who are connected have not expired by then. -/
def Stream.outlasts (stream : Stream) (now : Nat) : Prop :=
  ∀ id < stream.connections.length, ∀ user ∈ stream.presentAt id,
    user ∈ stream.presence.online now stream.homeId

instance (stream : Stream) (now : Nat) : Decidable (stream.outlasts now) :=
  inferInstanceAs (Decidable (∀ id < stream.connections.length, _))

/--
A connection is attached while its socket is open and closes as the last one of
its user, and no entry of a connected user expires.
-/
def oneAtATime (config : Config Stream StreamCall) : Schedule StreamRequest StreamReply → Prop
  | .call (.settle id reply) =>
    ∀ connection ∈ config.shared.connections[id]?, connection.phase.isGettingHome = true →
      connection.attachesPresent config.shared.homeId reply
  | .call (.close id) => config.shared.closesLast id
  | .call (.tick milliseconds) => config.shared.outlasts (config.shared.now + milliseconds)
  | .call _ | .resume _ _ => True

instance (config : Config Stream StreamCall) : ∀ label, Decidable (oneAtATime config label)
  | .call (.settle id reply) =>
    inferInstanceAs (Decidable (∀ connection ∈ config.shared.connections[id]?,
      connection.phase.isGettingHome = true →
        connection.attachesPresent config.shared.homeId reply))
  | .call (.close id) => inferInstanceAs (Decidable (config.shared.closesLast id))
  | .call (.tick milliseconds) =>
    inferInstanceAs (Decidable (config.shared.outlasts (config.shared.now + milliseconds)))
  | .call .connect | .call (.frame _ _) | .call (.stateEvent _) | .call (.sceneRun _)
  | .call (.notification _) | .call (.driverState _) | .call .online | .resume _ _ =>
    isTrue trivial

/-- The entries that have not expired are those of the connected users. -/
structure PresenceSound (stream : Stream) : Prop where
  present : ∀ id user, stream.presentAt id = some user →
    user ∈ stream.presence.online stream.now stream.homeId
  connected : ∀ user ∈ stream.presence.online stream.now stream.homeId,
    ∃ id, stream.presentAt id = some user
  ownHome : ∀ id user homeId isOpen,
    stream.standing id = some (.attached user homeId, isOpen) → homeId = stream.homeId
  abandoned : ∀ id user isOpen, stream.standing id = some (.abandoned user, isOpen) → isOpen = false

section Steps

variable {stream next : Stream} {id other : Nat} {connection : Connection}

theorem presentAt_lt {user : String} (present : stream.presentAt id = some user) :
    id < stream.connections.length := by
  rcases bind_eq_some_iff.mp present with ⟨standing, found, _⟩
  rcases map_eq_some_iff.mp found with ⟨connection, stored, _⟩
  exact (List.getElem?_eq_some_iff.mp stored).1

theorem standing_of_connection (found : stream.connections[id]? = some connection) :
    stream.standing id = some (connection.phase, connection.isOpen) := by
  simp [Stream.standing, found]

theorem standing_update_self (found : stream.connections[id]? = some connection)
    (change : Connection → Connection) :
    (stream.update id change).standing id =
      some ((change connection).phase, (change connection).isOpen) :=
  standing_of_connection (getElem?_update_self found change)

theorem standing_update_ne (differs : other ≠ id) (change : Connection → Connection) :
    (stream.update id change).standing other = stream.standing other := by
  simp [Stream.standing, Stream.update, Ne.symm differs]

theorem standing_of_control (same : next.control id = stream.control id) :
    next.standing id = stream.standing id := by
  have image := congrArg (fun control => control.map fun control : Control =>
    (control.phase, control.isOpen)) same
  simpa [Stream.control, Stream.standing, Connection.control, Function.comp_def] using image

section

variable (sound : PresenceSound stream)

include sound

theorem PresenceSound.of_same (homeId : next.homeId = stream.homeId)
    (online : ∀ user, user ∈ next.presence.online next.now stream.homeId ↔
      user ∈ stream.presence.online stream.now stream.homeId)
    (standing : ∀ id, next.standing id = stream.standing id) : PresenceSound next := by
  have presentAt : ∀ id, next.presentAt id = stream.presentAt id := by
    intro id
    rw [Stream.presentAt, standing, ← Stream.presentAt]
  refine ⟨?_, ?_, ?_, ?_⟩
  · intro id user present
    rw [presentAt] at present
    rw [homeId, online]
    exact sound.present id user present
  · intro user isOnline
    rw [homeId, online] at isOnline
    simpa only [presentAt] using sound.connected user isOnline
  · intro id user own isOpen stored
    rw [standing] at stored
    rw [homeId]
    exact sound.ownHome id user own isOpen stored
  · intro id user isOpen stored
    rw [standing] at stored
    exact sound.abandoned id user isOpen stored

theorem PresenceSound.of_change (id : Nat)
    (standing : ConnectionPhase × Bool) (homeId : next.homeId = stream.homeId)
    (here : next.standing id = some standing)
    (there : ∀ other, other ≠ id → next.standing other = stream.standing other)
    (ownHome : ∀ user homeId, standing.1 = .attached user homeId → homeId = stream.homeId)
    (abandoned : ∀ user, standing.1 = .abandoned user → standing.2 = false)
    (online : ∀ user, user ∈ next.presence.online next.now stream.homeId ↔
      presentUser standing = some user ∨ ∃ other, other ≠ id ∧ stream.presentAt other = some user) :
    PresenceSound next := by
  have presentAt : ∀ other, other ≠ id → next.presentAt other = stream.presentAt other := by
    intro other differs
    rw [Stream.presentAt, there other differs, ← Stream.presentAt]
  have own : next.presentAt id = presentUser standing := by simp [Stream.presentAt, here]
  refine ⟨?_, ?_, ?_, ?_⟩
  · intro other user isPresent
    rw [homeId, online]
    by_cases same : other = id
    · subst same
      exact .inl (own ▸ isPresent)
    · exact .inr ⟨other, same, presentAt other same ▸ isPresent⟩
  · intro user isOnline
    rw [homeId, online] at isOnline
    rcases isOnline with mine | ⟨other, differs, isPresent⟩
    · exact ⟨id, own.trans mine⟩
    · exact ⟨other, (presentAt other differs).trans isPresent⟩
  · intro other user home isOpen stored
    rw [homeId]
    by_cases same : other = id
    · subst same
      rw [here, some.injEq] at stored
      exact ownHome user home (congrArg Prod.fst stored)
    · rw [there other same] at stored
      exact sound.ownHome other user home isOpen stored
  · intro other user isOpen stored
    by_cases same : other = id
    · subst same
      rw [here, some.injEq] at stored
      exact (congrArg Prod.snd stored).symm.trans (abandoned user (congrArg Prod.fst stored))
    · rw [there other same] at stored
      exact sound.abandoned other user isOpen stored

theorem PresenceSound.online_iff (absent : stream.presentAt id = none) (user : String) :
    user ∈ stream.presence.online stream.now stream.homeId ↔
      ∃ other, other ≠ id ∧ stream.presentAt other = some user := by
  constructor
  · intro isOnline
    rcases sound.connected user isOnline with ⟨other, isPresent⟩
    refine ⟨other, ?_, isPresent⟩
    rintro rfl
    rw [absent] at isPresent
    cases isPresent
  · rintro ⟨other, _, isPresent⟩
    exact sound.present other user isPresent

theorem PresenceSound.update_absent
    (change : Connection → Connection) (found : stream.connections[id]? = some connection)
    (absent : presentUser (connection.phase, connection.isOpen) = none)
    (absent' : presentUser ((change connection).phase, (change connection).isOpen) = none)
    (ownHome : ∀ user homeId, (change connection).phase = .attached user homeId →
      homeId = stream.homeId)
    (abandoned : ∀ user, (change connection).phase = .abandoned user →
      (change connection).isOpen = false) : PresenceSound (stream.update id change) := by
  refine sound.of_change id _ rfl (standing_update_self found change)
    (fun other differs => standing_update_ne differs change) ownHome abandoned ?_
  intro user
  have before : stream.presentAt id = none := by
    rw [Stream.presentAt, standing_of_connection found, bind_some, absent]
  rw [absent']
  simp only [reduceCtorEq, false_or]
  exact sound.online_iff before user

theorem presenceSound_connect :
    PresenceSound { stream with connections := stream.connections ++ [.opened] } := by
  refine sound.of_change stream.connections.length (.authenticating, true)
    rfl ?_ ?_ (by simp) (by simp) ?_
  · simp [Stream.standing, Connection.opened]
  · intro other differs
    simp only [Stream.standing, List.getElem?_append]
    split
    · rfl
    · rename_i beyond
      have above : other - stream.connections.length ≠ 0 := by omega
      rw [List.getElem?_eq_none (Nat.le_of_not_lt beyond),
        List.getElem?_eq_none (by simpa using Nat.one_le_iff_ne_zero.mpr above)]
  · intro user
    have absent : stream.presentAt stream.connections.length = none := by
      simp [Stream.presentAt, Stream.standing]
    simpa [presentUser] using sound.online_iff absent user

theorem presenceSound_settle {reply : StreamReply}
    (inTime : ∀ connection ∈ stream.connections[id]?, connection.phase.isGettingHome = true →
      connection.attachesPresent stream.homeId reply) :
    PresenceSound (stream.settle id reply) := by
  rw [Stream.settle]
  split
  · exact sound
  · rename_i connection found
    split
    · rename_i user phase
      exact sound.update_absent _ found (by simp [phase, presentUser]) (by simp [presentUser])
        (by simp) (by simp)
    · rename_i message phase
      exact sound.update_absent _ found (by simp [phase, presentUser]) (by simp [presentUser])
        (by simp) (by simp)
    · rename_i user homeId phase
      rcases inTime connection found (by simp [phase, ConnectionPhase.isGettingHome]) with
        ⟨isOpen, own⟩
      have absent : stream.presentAt id = none := by
        simp [Stream.presentAt, standing_of_connection found, phase, presentUser]
      rw [own]
      refine sound.of_change id (.attached user stream.homeId, true) rfl ?_
        (fun other differs => standing_update_ne differs _) (by simp) (by simp) ?_
      · have changed := standing_update_self found fun connection =>
          { connection with phase := .attached user stream.homeId }
        rw [isOpen] at changed
        exact changed
      · intro other
        simp only [Stream.attach, Stream.update, InMemoryPresenceStore.mem_online,
          InMemoryPresenceStore.expiry_markOnline]
        rw [← sound.online_iff absent other, InMemoryPresenceStore.mem_online]
        by_cases same : other = user
        · simp [same, presentUser, DEFAULT_TTL]
        · simp [same, Ne.symm same, presentUser]
    · rename_i user message phase
      have closed := inTime connection found (by simp [phase, ConnectionPhase.isGettingHome])
      exact sound.update_absent _ found (by simp [phase, presentUser]) (by simp [presentUser])
        (by simp) (fun _ _ => closed)
    · exact sound

theorem presenceSound_close (last : stream.closesLast id) :
    PresenceSound (stream.close id) := by
  rw [Stream.close]
  split
  · exact sound
  · rename_i connection found
    split
    · rename_i isOpen
      split
      · rename_i user homeId phase
        have standing := standing_of_connection found
        rw [phase, isOpen] at standing
        obtain rfl := sound.ownHome id user homeId true standing
        have isPresent : stream.presentAt id = some user := by
          simp [Stream.presentAt, standing, presentUser]
        refine sound.of_change id (.attached user stream.homeId, false) rfl ?_
          (fun other differs => standing_update_ne differs _) (by simp) (by simp) ?_
        · have changed := standing_update_self found Connection.close
          simp only [Connection.close, phase] at changed
          exact changed
        · intro other
          simp only [Stream.detach, Stream.update, InMemoryPresenceStore.mem_online,
            InMemoryPresenceStore.expiry_markOffline, presentUser, reduceCtorEq, false_or, true_and]
          by_cases same : other = user
          · subst same
            simp only [if_true, reduceCtorEq, false_and, exists_false, false_iff, not_exists,
              not_and]
            exact fun place differs isOther =>
              last other isPresent place (presentAt_lt isOther) differs isOther
          · rw [if_neg same, ← InMemoryPresenceStore.mem_online]
            constructor
            · intro isOnline
              rcases sound.connected other isOnline with ⟨place, isOther⟩
              refine ⟨place, ?_, isOther⟩
              rintro rfl
              exact same (some.inj (isOther.symm.trans isPresent))
            · rintro ⟨place, _, isOther⟩
              exact sound.present place other isOther
      all_goals
        rename_i phase
        exact sound.update_absent _ found (by simp [phase, presentUser])
          (by simp [phase, presentUser, Connection.close]) (by simp [phase, Connection.close])
          (by simp [Connection.close])
    · exact sound

end

theorem standing_receive (frame : Option ClientFrame) :
    (stream.receive id frame).1.standing other = stream.standing other := by
  have keeps : ∀ {change : Connection → Connection} (stream : Stream),
      (∀ connection, (change connection).phase = connection.phase ∧
        (change connection).isOpen = connection.isOpen) →
      (stream.update id change).standing other = stream.standing other := by
    intro change stream same
    by_cases own : other = id
    · subst own
      cases found : stream.connections[other]? with
      | none => simp [Stream.standing, Stream.update, found]
      | some connection =>
        rw [standing_update_self found, standing_of_connection found, (same connection).1,
          (same connection).2]
    · exact standing_update_ne own change
  have arrives (stream : Stream) :
      (stream.update id (Connection.receive frame)).standing other = stream.standing other :=
    keeps stream fun _ => ⟨rfl, rfl⟩
  simp only [Stream.receive]
  split
  · rfl
  · split
    · split
      · refine (keeps _ fun connection => ?_).trans (arrives stream)
        have control := control_handleFrame stream.now frame connection
        exact ⟨congrArg Control.phase control, congrArg Control.isOpen control⟩
      all_goals exact arrives stream
    · rfl

theorem presence_receive (frame : Option ClientFrame) :
    (stream.receive id frame).1.presence = stream.presence ∧
      (stream.receive id frame).1.now = stream.now ∧
      (stream.receive id frame).1.homeId = stream.homeId := by
  simp only [Stream.receive]
  split
  · exact ⟨rfl, rfl, rfl⟩
  · split
    · split <;> exact ⟨rfl, rfl, rfl⟩
    · exact ⟨rfl, rfl, rfl⟩

theorem PresenceSound.of_sameControl (sound : PresenceSound stream)
    (same : SameControl stream next) : PresenceSound next := by
  apply sound.of_same same.homeId
  · intro user
    rw [same.presence, same.now]
  · exact fun id => standing_of_control (same.control id)

theorem presenceSound_tick (sound : PresenceSound stream) {milliseconds : Nat}
    (outlasts : stream.outlasts (stream.now + milliseconds)) :
    PresenceSound { stream with now := stream.now + milliseconds } := by
  refine ⟨?_, ?_, sound.ownHome, sound.abandoned⟩
  · intro id user isPresent
    exact outlasts id (presentAt_lt isPresent) user isPresent
  · intro user isOnline
    rcases InMemoryPresenceStore.mem_online.mp isOnline with ⟨expiry, entry, later⟩
    exact sound.connected user (InMemoryPresenceStore.mem_online.mpr
      ⟨expiry, entry, Nat.lt_of_le_of_lt (Nat.le_add_right _ _) later⟩)

theorem presenceSound_start (sound : PresenceSound stream) {request : StreamRequest}
    {pending : List StreamCall} (met : oneAtATime ⟨stream, pending⟩ (.call request)) :
    PresenceSound (stream.start request).1 := by
  cases request with
  | connect => exact presenceSound_connect sound
  | settle id reply => exact presenceSound_settle sound met
  | frame id frame =>
    rcases @presence_receive stream id frame with ⟨presence, now, homeId⟩
    apply sound.of_same homeId
    · intro user
      exact Iff.of_eq (by simp only [presence, now])
    · exact fun other => standing_receive frame
  | close id => exact presenceSound_close sound met
  | notification notification => exact sound.of_sameControl (sameControl_notify _ _)
  | online =>
    refine sound.of_same rfl (fun user => ?_) fun _ => rfl
    simp only [Stream.start, InMemoryPresenceStore.mem_online,
      InMemoryPresenceStore.expiry_pruned, true_implies]
    exact exists_congr fun expiry => by tauto
  | tick milliseconds => exact presenceSound_tick sound met
  | stateEvent _ | sceneRun _ | driverState _ =>
    exact sound.of_same rfl (fun _ => Iff.rfl) fun _ => rfl

end Steps

theorem presenceSound_step : ∀ config label next,
    Program.Holds PresenceSound (fun _ _ => True) config → oneAtATime config label →
    streamProgram.machine.step config label = some next →
    Program.Holds PresenceSound (fun _ _ => True) next := by
  apply Program.holds_step
  · intro config request sound met
    exact ⟨presenceSound_start sound.1 met, fun _ _ => trivial, fun _ _ => trivial⟩
  · intro config before call after reply shared more sound _ _ resumed
    exact ⟨sound.1.of_sameControl (sameControl_resume resumed), fun _ _ => trivial,
      fun _ _ => trivial⟩

theorem presenceSound_initial (homeId : String) (now : Nat) :
    PresenceSound (Stream.initial homeId now) := by
  refine ⟨?_, ?_, ?_, ?_⟩
  · simp [Stream.presentAt, Stream.standing, Stream.initial]
  · intro user isOnline
    rcases InMemoryPresenceStore.mem_online.mp isOnline with ⟨expiry, entry, _⟩
    simp [Stream.initial] at entry
  · simp [Stream.standing, Stream.initial]
  · simp [Stream.standing, Stream.initial]

/-- Presence is right in every run in which each user has one connection that lasts. -/
theorem presence_told (homeId : String) (now : Nat)
    (labels : List (Schedule StreamRequest StreamReply))
    (guarded : streamProgram.machine.Guarded oneAtATime
      (Program.idle (.initial homeId now)) labels) :
    streamProgram.machine.Throughout PresenceTold (Program.idle (.initial homeId now)) labels := by
  have initial : Program.Holds PresenceSound (fun _ (_ : StreamCall) => True)
      (Program.idle (.initial homeId now)) :=
    Program.holds_idle (presenceSound_initial homeId now)
  apply (Machine.throughout_of_guarded presenceSound_step initial guarded).mono
  rintro config ⟨sound, _⟩
  refine ⟨?_, ?_⟩
  · intro quiet id connection user found isOpen authenticated
    have standing := standing_of_connection found
    have settled := quiet.2 connection (List.mem_of_getElem? found)
    cases phase : connection.phase with
    | authenticating | unauthorized => simp [phase, ConnectionPhase.user] at authenticated
    | gettingHome other => simp [phase, ConnectionPhase.Settled] at settled
    | abandoned other =>
      rw [phase, isOpen] at standing
      cases sound.abandoned id other true standing
    | attached other homeId =>
      rw [phase, isOpen] at standing
      have same : other = user := by simpa [phase, ConnectionPhase.user] using authenticated
      exact sound.present id user (by simp [Stream.presentAt, standing, presentUser, same])
  · intro _ user isOnline
    rcases sound.connected user isOnline with ⟨id, isPresent⟩
    rcases bind_eq_some_iff.mp isPresent with ⟨standing, found, mine⟩
    rcases map_eq_some_iff.mp found with ⟨connection, stored, rfl⟩
    refine ⟨id, connection, stored, ?_⟩
    cases phase : connection.phase <;> cases isOpen : connection.isOpen <;>
      simp_all [presentUser, ConnectionPhase.user]

/-- Ann connects, closes after a minute and connects again. -/
theorem one_connection_at_a_time :
    streamProgram.machine.Throughout PresenceTold (Program.idle (.initial "home" 0))
      [.call .connect, .call (.settle 0 (.user "ann")), .call (.settle 0 (.home none)),
        .call (.frame 0 (some .ping)), .call (.tick 60000), .call .online, .call (.close 0),
        .call .connect, .call (.settle 1 (.user "ann")),
        .call (.settle 1 (.home (some "home")))] :=
  presence_told "home" 0 _ (by decide +kernel)

/-- Ann stays connected for two minutes, with pings, and is not online. -/
theorem connected_user_expires : ¬ ∀ labels : List (Schedule StreamRequest StreamReply),
      streamProgram.machine.Throughout PresenceTold (Program.idle (.initial "home" 0)) labels := by
  intro told
  have last := Machine.property_of_throughout
    (told [.call .connect, .call (.settle 0 (.user "ann")), .call (.settle 0 (.home none)),
      .call (.tick 60000), .call (.frame 0 (some .ping)), .call (.tick 60000)]) rfl
  have isOnline := last.connected (by decide +kernel) 0 _ "ann" rfl rfl rfl
  revert isOnline
  decide +kernel

end SupremeOs.Gateway
