import SupremeOs.Relay.TunnelRegistry

/-!
# Requests over the relay are answered once

As long as no send fails, no identifier is given out twice on a connection, and
whatever answers a request comes on the current connection of its home, every
request is settled once: with the answer that its own socket delivers, or when
its timer expires or its connection is unregistered; and it leaves no timer and
no entry behind.

An answer that comes on a connection that a newer one has replaced is looked up
on the newer one and lost.
-/

namespace SupremeOs.Relay

open Support DomainModel TunnelBroker OrderedMap Option

namespace TunnelRegistry

/--
A request is settled once at most; one that is not has a timer that will expire
and a connection whose end it will hear of.  Of one that is settled nothing is
left; a connection that was unregistered takes its table with it.
-/
structure AnsweredOnce (registry : TunnelRegistry) : Prop where
  once : ∀ (number : Nat) (request : Request), registry.requests[number]? = some request →
    request.settlements.length ≤ 1
  due : ∀ (number : Nat) (request : Request), registry.requests[number]? = some request →
    request.settlements = [] → request.timer = .armed ∧ ∃ conn : Relay.Conn,
      registry.connections[request.connection]? = some conn ∧ conn.unregistered = false
  timers : ∀ (number : Nat) (request : Request), registry.requests[number]? = some request →
    request.timer = .armed → request.settlements = []
  entries : ∀ (connection : Nat) (conn : Relay.Conn),
    registry.connections[connection]? = some conn → conn.unregistered = false →
    ∀ id number, conn.pending.get id = some number →
      ∃ request : Request, registry.requests[number]? = some request ∧ request.settlements = []

/-- Whether a step is a reason to settle a request so. -/
def Settles (label : RelayLabel) (number : Nat) (request : Request) (settlement : Settlement) :
    Prop :=
  match label with
  | .message connection (some frame) =>
    request.connection = connection ∧ frameKind frame = some "res" ∧
      frameId frame = some request.id ∧
      settlement = .resolved (frameResponse frame) ⟨request.hub, connection, frame⟩
  | .timeout expired => number = expired ∧ settlement = .rejected "tunnel timeout"
  | .unregister connection =>
    request.connection = connection ∧ settlement = .rejected "tunnel closed"
  | .message _ none | .register _ | .request _ _ _ _ | .counted => False

/--
Exactly the requests of which a step is told that they were answered, timed out
or lost their connection are settled in it.
-/
def SettledInStep (before : TunnelRegistry) (label : RelayLabel) (after : TunnelRegistry) : Prop :=
  ∀ (number : Nat) (request : Request), before.requests[number]? = some request →
    ∃ later : Request, after.requests[number]? = some later ∧
      (request.settlements ≠ [] → later.settlements = request.settlements) ∧
      (request.settlements = [] → (∀ settlement, Settles label number request settlement →
          later.settlements = [settlement]) ∧
        ((∀ settlement, ¬Settles label number request settlement) → later.settlements = []))

/--
A send does not fail, an identifier is given to one request of a connection at
a time, and an answer to a request comes on the current connection of its home
exactly if the request was sent on that.
-/
def Orderly (registry : TunnelRegistry) : RelayLabel → Prop
  | .request home _ now failure => registry.conns.has home = true →
      failure = none ∧ ∀ request ∈ registry.requests, request.settlements = [] →
          registry.conns.get home = some request.connection →
          request.id ≠ Broker.requestId now registry.counter
  | .message connection parsed => ∀ frame ∈ parsed, frameKind frame = some "res" →
      ∀ request ∈ registry.requests, request.settlements = [] → frameId frame = some request.id →
        ∀ conn ∈ registry.connections[connection]?, (request.connection = connection ↔
            registry.conns.get conn.home = some request.connection)
  | .register _ | .unregister _ | .timeout _ | .counted => True

instance (registry : TunnelRegistry) : ∀ label, Decidable (Orderly registry label) := by
  intro label
  unfold Orderly
  split <;> infer_instance

structure Placed (registry : TunnelRegistry) (number : Nat) (request : Request) : Prop where
  waiting : request.settlements = [] → ∃ conn : Relay.Conn,
    registry.connections[request.connection]? = some conn ∧ conn.home = request.hub ∧
      conn.unregistered = false ∧ conn.pending.get request.id = some number
  armed : request.timer = .armed ↔ request.settlements = []
  once : request.settlements.length ≤ 1

structure Sound (registry : TunnelRegistry) : Prop where
  current : ∀ home number, registry.conns.get home = some number →
    ∃ conn : Relay.Conn, registry.connections[number]? = some conn ∧ conn.home = home ∧
      conn.unregistered = false
  /-- Only a connection that was unregistered lists requests that are settled. -/
  pending : ∀ (connection : Nat) (conn : Relay.Conn),
    registry.connections[connection]? = some conn → ∀ id number, conn.pending.get id = some number →
      ∃ request : Request, registry.requests[number]? = some request ∧
        request.connection = connection ∧ request.id = id ∧
        (conn.unregistered = false → request.settlements = [])
  requests : ∀ (number : Nat) (request : Request), registry.requests[number]? = some request →
    Placed registry number request

variable {registry : TunnelRegistry} {number connection : Nat} {request : Request}
variable {conn : Relay.Conn} {home id : String}

theorem Sound.answeredOnce (sound : Sound registry) : AnsweredOnce registry where
  once number request found := (sound.requests number request found).once
  due number request found unsettled := by
    have placed := sound.requests number request found
    rcases placed.waiting unsettled with ⟨conn, stands, -, alive, -⟩
    exact ⟨placed.armed.mpr unsettled, conn, stands, alive⟩
  timers number request found := (sound.requests number request found).armed.mp
  entries connection conn stands alive id number entry := by
    rcases sound.pending connection conn stands id number entry with
      ⟨request, found, -, -, unsettled⟩
    exact ⟨request, found, unsettled alive⟩

theorem Sound.nodup_pending (sound : Sound registry)
    (stands : registry.connections[connection]? = some conn) : conn.pending.values.Nodup := by
  apply nodup_values fun number => registry.requests[number]?.map Request.id
  intro id number entry
  rcases sound.pending connection conn stands id number entry with ⟨request, found, -, rfl, -⟩
  rw [found]
  rfl

theorem current_eq_some_iff : registry.current home = some (number, conn) ↔
      registry.conns.get home = some number ∧ registry.connections[number]? = some conn := by
  simp only [current, bind_eq_some_iff, map_eq_some_iff, Prod.mk.injEq]
  constructor
  · rintro ⟨_, current, _, found, rfl, rfl⟩
    exact ⟨current, found⟩
  · rintro ⟨current, found⟩
    exact ⟨number, current, conn, found, rfl, rfl⟩

variable {connections : List Relay.Conn} {change : Relay.Conn → Relay.Conn}

theorem exists_of_getElem?_modify {changed : Nat} {after : Relay.Conn}
    (found : (connections.modify changed change)[number]? = some after) :
    ∃ before, connections[number]? = some before ∧
      after = if changed = number then change before else before := by
  rw [Cells.getElem?_modify] at found
  split at found
  · rename_i same
    rcases map_eq_some_iff.mp found with ⟨before, was, rfl⟩
    exact ⟨before, was, (if_pos same).symm⟩
  · rename_i other
    exact ⟨after, found, (if_neg other).symm⟩

theorem getElem?_modify_of_found {changed : Nat} (found : connections[number]? = some conn) :
    (connections.modify changed change)[number]? =
      some (if changed = number then change conn else conn) := by
  rw [Cells.getElem?_modify, found]
  split <;> rfl

/-- A request ends and is taken out of the table of its connection. -/
def endRequest (number : Nat) (request : Request) (change : Request → Request)
    (registry : TunnelRegistry) : TunnelRegistry :=
  (registry.changeConn request.connection fun conn =>
    { conn with pending := conn.pending.delete request.id }).changeRequest number change

section EndRequest

variable {change : Request → Request} {settlement : Settlement}

theorem requests_endRequest (other : Nat) :
    (registry.endRequest number request change).requests[other]? =
      if number = other then registry.requests[other]?.map change
      else registry.requests[other]? :=
  Cells.getElem?_modify ..

theorem placed_of_endsAs {after : Request} {later : TunnelRegistry}
    (once : request.settlements.length ≤ 1) (ends : request.EndsAs settlement after) :
    Placed later number after where
  waiting unsettled := absurd unsettled ends.settled
  armed := iff_of_false ends.timer ends.settled
  once := by
    rcases ends.settlements with ⟨-, new⟩ | ⟨-, kept⟩
    · rw [new]
      exact Nat.le_refl 1
    · rw [kept]
      exact once

theorem Sound.endRequest (sound : Sound registry)
    (found : registry.requests[number]? = some request) (unsettled : request.settlements = [])
    (ends : request.EndsAs settlement (change request)) :
    Sound (registry.endRequest number request change) := by
  rcases (sound.requests number request found).waiting unsettled with
    ⟨own, standing, -, -, listed⟩
  have kept {other : Nat} {held : Request} (stood : registry.requests[other]? = some held)
      (differs : other ≠ number) :
      (registry.endRequest number request change).requests[other]? = some held := by
    rw [requests_endRequest, if_neg differs.symm]
    exact stood
  constructor
  · intro home place current
    rcases sound.current home place current with ⟨conn, stands, same, alive⟩
    refine ⟨_, getElem?_modify_of_found stands, ?_⟩
    split
    · exact ⟨same, alive⟩
    · exact ⟨same, alive⟩
  · intro connection after stands id other entry
    rcases exists_of_getElem?_modify stands with ⟨before, was, rfl⟩
    have earlier : before.pending.get id = some other ∧
        (connection = request.connection → id ≠ request.id) := by
      split at entry
      · dsimp only at entry
        rw [OrderedMap.get_delete] at entry
        split at entry
        · cases entry
        · rename_i differs
          exact ⟨entry, fun _ => differs⟩
      · rename_i elsewhere
        exact ⟨entry, fun same => absurd same.symm elsewhere⟩
    rcases sound.pending connection before was id other earlier.1 with
      ⟨held, stood, here, named, waits⟩
    refine ⟨held, kept stood ?_, here, named, ?_⟩
    · rintro rfl
      cases found.symm.trans stood
      exact earlier.2 here.symm named.symm
    · intro alive
      apply waits
      split at alive <;> exact alive
  · intro other after stood
    rw [requests_endRequest] at stood
    split at stood
    · rename_i mine
      subst mine
      rw [found] at stood
      cases stood
      exact placed_of_endsAs (sound.requests number request found).once ends
    · rename_i differs
      have placed := sound.requests other after stood
      refine ⟨fun waits => ?_, placed.armed, placed.once⟩
      rcases placed.waiting waits with ⟨conn, stands, homed, alive, entry⟩
      refine ⟨_, getElem?_modify_of_found stands, ?_⟩
      split
      · rename_i here
        refine ⟨homed, alive, ?_⟩
        dsimp only
        rw [OrderedMap.get_delete, if_neg]
        · exact entry
        · intro named
          rw [here, stands] at standing
          cases standing
          rw [named, listed] at entry
          exact differs (some.inj entry)
      · exact ⟨homed, alive, entry⟩

theorem settledInStep_endRequest {label : RelayLabel}
    (found : registry.requests[number]? = some request) (unsettled : request.settlements = [])
    (ends : request.EndsAs settlement (change request))
    (reason : ∀ (other : Nat) (held : Request) (found : Settlement),
      registry.requests[other]? = some held → held.settlements = [] →
      (Settles label other held found ↔ other = number ∧ found = settlement)) :
    SettledInStep registry label (registry.endRequest number request change) := by
  intro other held stood
  by_cases same : other = number
  · subst same
    cases found.symm.trans stood
    refine ⟨change request, ?_, fun settled => absurd unsettled settled, fun _ => ⟨?_, ?_⟩⟩
    · rw [requests_endRequest, if_pos rfl, found]
      rfl
    · intro given settles
      rw [((reason other request given found unsettled).mp settles).2]
      exact (ends.settlements.resolve_right fun settled => settled.1 unsettled).2
    · intro none
      exact absurd ((reason other request settlement found unsettled).mpr ⟨rfl, rfl⟩)
        (none settlement)
  · refine ⟨held, ?_, fun _ => rfl, fun waits => ⟨fun given settles => ?_, fun _ => waits⟩⟩
    · rw [requests_endRequest, if_neg (Ne.symm same)]
      exact stood
    · exact absurd ((reason other held given stood waits).mp settles).1 same

end EndRequest

theorem Sound.register (sound : Sound registry) (home : String) :
    Sound (registry.register home) := by
  have older {number : Nat} {conn : Relay.Conn}
      (stands : registry.connections[number]? = some conn) :
      (registry.register home).connections[number]? = some conn := by
    refine (Cells.getElem?_concat ..).trans ?_
    rw [if_neg (Nat.ne_of_lt (Cells.lt_of_getElem? stands))]
    exact stands
  constructor
  · intro query number current
    have found := (get_set registry.conns home query _).symm.trans current
    split at found
    · rename_i same
      cases found
      exact ⟨_, (Cells.getElem?_concat ..).trans (if_pos rfl), same.symm, rfl⟩
    · rcases sound.current query number found with ⟨conn, stands, rest⟩
      exact ⟨conn, older stands, rest⟩
  · intro connection conn stands id number entry
    have found := (Cells.getElem?_concat registry.connections _ connection).symm.trans stands
    split at found
    · cases found
      cases entry
    · exact sound.pending connection conn found id number entry
  · intro number request found
    have placed := sound.requests number request found
    refine ⟨fun unsettled => ?_, placed.armed, placed.once⟩
    rcases placed.waiting unsettled with ⟨conn, stands, rest⟩
    exact ⟨conn, older stands, rest⟩

theorem SettledInStep.of_same {label : RelayLabel} {after : TunnelRegistry}
    (same : ∀ (number : Nat) (request : Request), registry.requests[number]? = some request →
      after.requests[number]? = some request)
    (none : ∀ (number : Nat) (request : Request) (settlement : Settlement),
      registry.requests[number]? = some request → request.settlements = [] →
      ¬Settles label number request settlement) :
    SettledInStep registry label after := by
  intro number request found
  refine ⟨request, same number request found, fun _ => rfl, fun unsettled => ⟨?_, ?_⟩⟩
  · exact fun settlement settles =>
      absurd settles (none number request settlement found unsettled)
  · exact fun _ => unsettled

section

variable (sound : Sound registry)

include sound

theorem requests_unregister
    (stands : registry.connections[connection]? = some conn) (number : Nat) :
    (registry.unregister connection conn).requests[number]? = if number ∈ conn.pending.values then
        registry.requests[number]?.map (Request.fail "tunnel closed")
      else registry.requests[number]? :=
  Cells.getElem?_modifyAll _ (sound.nodup_pending stands) _ _

theorem Sound.mem_pending
    (found : registry.requests[number]? = some request) (unsettled : request.settlements = [])
    (stands : registry.connections[request.connection]? = some conn) :
    number ∈ conn.pending.values := by
  rcases (sound.requests number request found).waiting unsettled with
    ⟨own, standing, -, -, entry⟩
  cases standing.symm.trans stands
  exact mem_values_iff.mpr ⟨request.id, entry⟩

theorem Sound.connection_of_mem_pending (found : registry.requests[number]? = some request)
    (stands : registry.connections[connection]? = some conn)
    (member : number ∈ conn.pending.values) : request.connection = connection := by
  rcases mem_values_iff.mp member with ⟨id, entry⟩
  rcases sound.pending connection conn stands id number entry with ⟨held, stood, here, -⟩
  cases found.symm.trans stood
  exact here

theorem Sound.unregister (stands : registry.connections[connection]? = some conn) :
    Sound (registry.unregister connection conn) := by
  constructor
  · intro home number current
    have before : registry.conns.get home = some number ∧
        (number = connection → home ≠ conn.home) := by
      rw [TunnelRegistry.unregister] at current
      dsimp only at current
      split at current
      · rw [OrderedMap.get_delete] at current
        split at current
        · cases current
        · rename_i differs
          exact ⟨current, fun _ => differs⟩
      · rename_i replaced
        refine ⟨current, fun same named => replaced ?_⟩
        rw [← named, ← same]
        exact current
    rcases sound.current home number before.1 with ⟨held, standing, homed, alive⟩
    refine ⟨held, ?_, homed, alive⟩
    refine (getElem?_modify_of_found standing).trans (congrArg some (if_neg ?_))
    rintro rfl
    cases stands.symm.trans standing
    exact before.2 rfl homed.symm
  · intro other after standing id number entry
    rcases exists_of_getElem?_modify standing with ⟨before, was, rfl⟩
    have listed : before.pending.get id = some number := by
      split at entry <;> exact entry
    rcases sound.pending other before was id number listed with
      ⟨request, found, here, named, waits⟩
    have ends := endsAs_cleared (.rejected "tunnel closed") request
    rw [requests_unregister sound stands, found]
    split
    · rename_i member
      refine ⟨_, rfl, ends.connection.trans here, ends.id.trans named, fun alive => ?_⟩
      rw [if_pos ((sound.connection_of_mem_pending found stands member).symm.trans here)] at alive
      cases alive
    · refine ⟨request, rfl, here, named, fun alive => waits ?_⟩
      split at alive
      · cases alive
      · exact alive
  · intro number after found
    rw [requests_unregister sound stands] at found
    split at found
    · rcases map_eq_some_iff.mp found with ⟨request, before, rfl⟩
      exact placed_of_endsAs (sound.requests number request before).once
        (endsAs_cleared (.rejected "tunnel closed") request)
    · rename_i unlisted
      have placed := sound.requests number after found
      refine ⟨fun unsettled => ?_, placed.armed, placed.once⟩
      rcases placed.waiting unsettled with ⟨held, standing, homed, alive, entry⟩
      refine ⟨held, ?_, homed, alive, entry⟩
      refine (getElem?_modify_of_found standing).trans (congrArg some (if_neg ?_))
      rintro rfl
      exact unlisted (sound.mem_pending found unsettled stands)

theorem settledInStep_unregister (stands : registry.connections[connection]? = some conn) :
    SettledInStep registry (.unregister connection) (registry.unregister connection conn) := by
  intro number request found
  have ends := endsAs_cleared (.rejected "tunnel closed") request
  rw [requests_unregister sound stands, found]
  split
  · rename_i member
    have here := sound.connection_of_mem_pending found stands member
    refine ⟨_, rfl, fun settled => ?_, fun unsettled => ⟨?_, fun none => ?_⟩⟩
    · exact (ends.settlements.resolve_left fun fresh => settled fresh.1).2
    · rintro settlement ⟨-, rfl⟩
      exact (ends.settlements.resolve_right fun settled => settled.1 unsettled).2
    · exact absurd ⟨here, rfl⟩ (none _)
  · rename_i unlisted
    refine ⟨request, rfl, fun _ => rfl, fun unsettled => ⟨?_, fun _ => unsettled⟩⟩
    rintro settlement ⟨rfl, rfl⟩
    exact absurd (sound.mem_pending found unsettled stands) unlisted

theorem Sound.forwarded (req : TunnelRequest) (now : Nat)
    {failure : Option String} (orderly : Orderly registry (.request home req now failure)) :
    Sound (registry.request home req now failure) := by
  rw [TunnelRegistry.request]
  split
  · exact sound
  · rename_i place own here
    rcases current_eq_some_iff.mp here with ⟨current, standing⟩
    rcases orderly (has_iff.mpr ⟨place, current⟩) with ⟨rfl, fresh⟩
    have older {number : Nat} {request : Request}
        (found : registry.requests[number]? = some request) (added : Request) :
        (registry.requests ++ [added])[number]? = some request := by
      rw [Cells.getElem?_concat, if_neg (Nat.ne_of_lt (Cells.lt_of_getElem? found))]
      exact found
    have open_own : own.home = home ∧ own.unregistered = false := by
      rcases sound.current home place current with ⟨conn, stands, homed, alive⟩
      cases standing.symm.trans stands
      exact ⟨homed, alive⟩
    constructor
    · intro query number active
      rcases sound.current query number active with ⟨conn, stands, homed, alive⟩
      refine ⟨_, getElem?_modify_of_found stands, ?_⟩
      split <;> exact ⟨homed, alive⟩
    · intro connection after stands id number entry
      rcases exists_of_getElem?_modify stands with ⟨before, was, rfl⟩
      have listed : before.pending.get id = some number ∨
          place = connection ∧ id = Broker.requestId now registry.counter ∧
            number = registry.requests.length := by
        split at entry
        · rename_i mine
          dsimp only at entry
          rw [get_set] at entry
          split at entry
          · rename_i same
            exact .inr ⟨mine, same, (some.inj entry).symm⟩
          · exact .inl entry
        · exact .inl entry
      rcases listed with earlier | ⟨here, named, last⟩
      · rcases sound.pending connection before was id number earlier with
          ⟨request, found, there, same, waits⟩
        refine ⟨request, older found _, there, same, fun alive => waits ?_⟩
        split at alive <;> exact alive
      · exact ⟨_, (Cells.getElem?_concat ..).trans (if_pos last), here, named.symm, fun _ => rfl⟩
    · intro number after found
      dsimp only at found
      rw [Cells.getElem?_concat] at found
      split at found
      · rename_i last
        cases found
        refine ⟨fun _ => ⟨_, getElem?_modify_of_found standing, ?_⟩, by simp, by simp⟩
        rw [if_pos rfl]
        refine ⟨open_own.1, open_own.2, ?_⟩
        dsimp only
        rw [get_set, if_pos rfl, last]
      · have placed := sound.requests number after found
        refine ⟨fun unsettled => ?_, placed.armed, placed.once⟩
        rcases placed.waiting unsettled with ⟨conn, stands, homed, alive, entry⟩
        refine ⟨_, getElem?_modify_of_found stands, ?_⟩
        split
        · rename_i mine
          refine ⟨homed, alive, ?_⟩
          dsimp only
          rw [get_set, if_neg]
          · exact entry
          · exact fresh after (List.mem_of_getElem? found) unsettled (mine ▸ current)
        · exact ⟨homed, alive, entry⟩

end

theorem settledInStep_request (req : TunnelRequest) (now : Nat) (failure : Option String) :
    SettledInStep registry (.request home req now failure)
      (registry.request home req now failure) := by
  refine .of_same (fun number request found => ?_) fun _ _ _ _ _ => id
  rw [TunnelRegistry.request]
  split
  · exact found
  · refine (Cells.getElem?_concat ..).trans ?_
    rw [if_neg (Nat.ne_of_lt (Cells.lt_of_getElem? found))]
    exact found

def answer (home : String) (carrier : Nat) (frame : Json) (request : Request) : Request :=
  request.clearTimeout.settle (.resolved (frameResponse frame) ⟨home, carrier, frame⟩)

/-- A frame answers the request it names, if the connection of the home lists it. -/
structure Answers (registry : TunnelRegistry) (home : String) (frame : Json) (pending : Nat)
    (place : Nat) (conn : Relay.Conn) (id : String) : Prop where
  here : registry.current home = some (place, conn)
  kind : frameKind frame = some "res"
  named : frameId frame = some id
  entry : conn.pending.get id = some pending

theorem handleMessage_of_answers {carrier pending place : Nat} {frame : Json}
    (answers : Answers registry home frame pending place conn id) :
    registry.handleMessage home carrier (some frame) = (registry.changeConn place fun conn =>
        { conn with pending := conn.pending.delete id }).changeRequest pending
          (answer home carrier frame) := by
  simp only [handleMessage, answers.here, answers.kind, answers.named, answers.entry]
  rfl

theorem handleMessage_of_none {carrier : Nat} {parsed : Option Json}
    (none : ∀ frame ∈ parsed, ∀ pending place conn id,
      ¬Answers registry home frame pending place conn id) :
    registry.handleMessage home carrier parsed = registry := by
  unfold handleMessage
  split
  · rename_i place conn frame here
    split
    · rename_i id kind named
      split
      · rename_i pending entry
        exact absurd ⟨here, kind, named, entry⟩ (none frame rfl pending place conn id)
      · rfl
    · rfl
  · rfl

section Answers

variable {carrier pending place : Nat} {frame : Json}

section

variable (sound : Sound registry)

include sound

theorem Sound.exists_of_answers (answers : Answers registry home frame pending place conn id) :
    ∃ request : Request, registry.requests[pending]? = some request ∧
      request.settlements = [] ∧ request.connection = place ∧ request.id = id ∧
      request.hub = home ∧ registry.conns.get home = some place := by
  rcases current_eq_some_iff.mp answers.here with ⟨current, standing⟩
  rcases sound.current home place current with ⟨held, stands, homed, alive⟩
  cases standing.symm.trans stands
  rcases sound.pending place conn standing id pending answers.entry with
    ⟨request, found, rfl, named, waits⟩
  rcases (sound.requests pending request found).waiting (waits alive) with ⟨own, stood, its, -⟩
  cases standing.symm.trans stood
  exact ⟨request, found, waits alive, rfl, named, its.symm.trans homed, current⟩

theorem Sound.handleMessage {parsed : Option Json} :
    Sound (registry.handleMessage home carrier parsed) := by
  by_cases found : ∃ frame ∈ parsed, ∃ pending place conn id,
      Answers registry home frame pending place conn id
  · rcases found with ⟨frame, rfl, pending, place, conn, id, answers⟩
    rw [handleMessage_of_answers answers]
    rcases sound.exists_of_answers answers with ⟨request, stands, unsettled, rfl, rfl, -⟩
    exact sound.endRequest stands unsettled (endsAs_cleared _ request)
  · rw [handleMessage_of_none fun frame inside pending place conn id answers =>
      found ⟨frame, inside, pending, place, conn, id, answers⟩]
    exact sound

theorem settledInStep_message {parsed : Option Json}
    (standing : registry.connections[carrier]? = some conn)
    (orderly : Orderly registry (.message carrier parsed)) :
    SettledInStep registry (.message carrier parsed)
      (registry.handleMessage conn.home carrier parsed) := by
  by_cases found : ∃ frame ∈ parsed, ∃ pending place held id,
      Answers registry conn.home frame pending place held id
  · rcases found with ⟨frame, rfl, pending, place, held, id, answers⟩
    rw [handleMessage_of_answers answers]
    rcases sound.exists_of_answers answers with
      ⟨request, stands, unsettled, rfl, rfl, homed, current⟩
    have own : request.connection = carrier :=
      (orderly frame rfl answers.kind request (List.mem_of_getElem? stands) unsettled
        answers.named conn standing).mpr current
    refine settledInStep_endRequest stands unsettled (endsAs_cleared _ request) ?_
    intro other theirs settlement stood waits
    constructor
    · rintro ⟨there, -, named, rfl⟩
      rcases (sound.requests other theirs stood).waiting waits with ⟨its, standsToo, -, -, entry⟩
      rcases current_eq_some_iff.mp answers.here with ⟨-, stood'⟩
      rw [there, ← own, stood'] at standsToo
      cases standsToo
      rw [← some.inj (answers.named.symm.trans named), answers.entry] at entry
      cases entry
      cases stands.symm.trans stood
      rw [homed]
      exact ⟨rfl, rfl⟩
    · rintro ⟨rfl, rfl⟩
      cases stands.symm.trans stood
      rw [← homed]
      exact ⟨own, answers.kind, answers.named, rfl⟩
  · rw [handleMessage_of_none fun frame inside pending place held id answers =>
      found ⟨frame, inside, pending, place, held, id, answers⟩]
    refine .of_same (fun _ _ => id) fun number request settlement stands unsettled settles => ?_
    cases parsed with
    | none => exact settles
    | some frame =>
      rcases settles with ⟨rfl, kind, named, -⟩
      have current := (orderly frame rfl kind request (List.mem_of_getElem? stands) unsettled
        named conn standing).mp rfl
      rcases (sound.requests number request stands).waiting unsettled with
        ⟨own, stood, -, -, entry⟩
      exact found ⟨frame, rfl, number, request.connection, own, request.id,
        current_eq_some_iff.mpr ⟨current, stood⟩, kind, named, entry⟩

theorem Sound.timeout
    (found : registry.requests[number]? = some request) (armed : request.timer = .armed) :
    Sound (registry.timeout number request) :=
  sound.endRequest found ((sound.requests number request found).armed.mp armed)
    (endsAs_expire request)

theorem settledInStep_timeout
    (found : registry.requests[number]? = some request) (armed : request.timer = .armed) :
    SettledInStep registry (.timeout number) (registry.timeout number request) :=
  settledInStep_endRequest found ((sound.requests number request found).armed.mp armed)
    (endsAs_expire request) fun _ _ _ _ _ => Iff.rfl

end

end Answers

theorem step_timeout {next : TunnelRegistry} (taken : registry.step (.timeout number) = some next) :
    ∃ request : Request, registry.requests[number]? = some request ∧ request.timer = .armed ∧
      next = registry.timeout number request := by
  simp only [step] at taken
  split at taken
  · rename_i request found
    split at taken
    · rename_i armed
      exact ⟨request, found, armed, (some.inj taken).symm⟩
    · cases taken
  · cases taken

theorem sound_step {next : TunnelRegistry} {label : RelayLabel} (sound : Sound registry)
    (orderly : Orderly registry label) (taken : registry.step label = some next) :
    Sound next ∧ SettledInStep registry label next := by
  cases label with
  | register home =>
    cases taken
    exact ⟨sound.register home, .of_same (fun _ _ => id) fun _ _ _ _ _ => id⟩
  | unregister connection =>
    rcases map_eq_some_iff.mp taken with ⟨conn, stands, rfl⟩
    exact ⟨sound.unregister stands, settledInStep_unregister sound stands⟩
  | request home req now failure =>
    cases taken
    exact ⟨sound.forwarded req now orderly, settledInStep_request req now failure⟩
  | message connection parsed =>
    rcases map_eq_some_iff.mp taken with ⟨conn, stands, rfl⟩
    exact ⟨sound.handleMessage, settledInStep_message sound stands orderly⟩
  | timeout number =>
    rcases step_timeout taken with ⟨request, found, armed, rfl⟩
    exact ⟨sound.timeout found armed, settledInStep_timeout sound found armed⟩
  | counted =>
    cases taken
    exact ⟨⟨sound.current, sound.pending, fun number request found =>
      ⟨(sound.requests number request found).waiting, (sound.requests number request found).armed,
        (sound.requests number request found).once⟩⟩,
      .of_same (fun _ _ => id) fun _ _ _ _ _ => id⟩

/-- In an orderly run every forwarded request is answered once, over its own connection. -/
theorem requests_answeredOnce (counter : Nat) (labels : List RelayLabel)
    (orderly : machine.Guarded Orderly (initial counter) labels) :
    machine.Throughout AnsweredOnce (initial counter) labels ∧
      machine.EachStep SettledInStep (initial counter) labels := by
  have start : Sound (initial counter) := by
    constructor <;> simp [initial]
  have preserved := fun before label after sound met taken =>
    (@sound_step before after label sound met taken).1
  constructor
  · exact (Machine.throughout_of_guarded preserved start orderly).mono fun _ =>
      Sound.answeredOnce
  · exact Machine.eachStep_of_guarded preserved
      (fun before label after sound met taken =>
        (@sound_step before after label sound met taken).2) start orderly

/-- Two connections of a home, a request on each, an answer, a timer and the end of the old one. -/
theorem requests_answeredOnce_reconnected :
    let req : TunnelRequest := ⟨"GET", "/v1/devices", [], none⟩
    let response : Json := .object [("t", .text "res"), ("id", .text "r01")]
    let labels : List RelayLabel := [.register "home", .request "home" req 0 none,
      .register "home", .request "home" req 0 none, .message 1 (some response),
      .request "home" req 0 none, .timeout 2, .unregister 0, .unregister 0, .unregister 1]
    machine.Throughout AnsweredOnce (initial 0) labels ∧
      machine.EachStep SettledInStep (initial 0) labels :=
  requests_answeredOnce 0 _ (by decide +kernel)

/-- An answer that comes on the old connection of a hub that has dialled again is lost. -/
theorem requests_answeredOnce_fails_superseded : ¬∀ (counter : Nat) (labels : List RelayLabel),
      machine.Throughout AnsweredOnce (initial counter) labels ∧
        machine.EachStep SettledInStep (initial counter) labels := by
  intro every
  let req : TunnelRequest := ⟨"GET", "/v1/devices", [], none⟩
  let response : Json := .object [("t", .text "res"), ("id", .text "r00")]
  have eachStep := (every 0 [.register "home", .request "home" req 0 none, .register "home",
    .message 0 (some response)]).2
  rcases eachStep.2.2.2.1 0 ⟨"home", 0, "r00", .armed, []⟩ rfl with ⟨later, found, -, settled⟩
  have answered := (settled rfl).1 (.resolved (frameResponse response) ⟨"home", 0, response⟩)
    ⟨rfl, rfl, rfl, rfl⟩
  cases found
  cases answered

end TunnelRegistry

end SupremeOs.Relay
