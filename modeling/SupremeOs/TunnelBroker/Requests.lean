import SupremeOs.TunnelBroker.Broker

/-!
# Every forwarded request is settled

A request that has not been settled is armed, waits on its connection under
its own identifier, and its connection is the one of its hub.  Whatever ends
the connection finds the request there and rejects it, and an answer finds it
only over its own connection.
-/

namespace SupremeOs.TunnelBroker

open Support DomainModel Broker

/-- An answer with the request's identifier, that its hub sent over its connection. -/
def Settlement.IsFor (request : Request) : Settlement → Prop
  | .rejected _ => True
  | .resolved response reply =>
    reply.hub = request.hub ∧ reply.connection = request.connection ∧
      frameKind reply.frame = some "res" ∧ frameId reply.frame = some request.id ∧
      response = frameResponse reply.frame

/-- A request is settled at most once, by its own answer if by one, and for certain at its end. -/
structure Request.Settles (broker : Broker) (request : Request) : Prop where
  once : request.settlements.length ≤ 1
  ended : request.timer = .expired ∨ broker.conns.get request.hub ≠ some request.connection →
    request.settlements.length = 1
  own : ∀ settlement ∈ request.settlements, settlement.IsFor request

def Kept (before after : List Request) : Prop :=
  ∀ (number : Nat) (request : Request), before[number]? = some request →
    ∃ later : Request, after[number]? = some later ∧ later.id = request.id ∧
      request.settlements <+: later.settlements

structure ForwardsSettle (broker : Broker) : Prop where
  requests : ∀ (number : Nat) (request : Request), broker.requests[number]? = some request →
    request.Settles broker
  final : ∀ label next, step broker label = some next → Kept broker.requests next.requests
  /-- The end of a superseded connection does not touch other connections. -/
  isolated : ∀ (number : Nat) (conn : Conn) next, broker.connections[number]? = some conn →
    broker.conns.get conn.hub ≠ some number → step broker (.detach number) = some next →
    next.conns = broker.conns ∧
      ∀ (other : Nat) (request : Request), broker.requests[other]? = some request →
        request.connection ≠ number → next.requests[other]? = some request

/-- A forwarded request gets an identifier that no earlier one has. -/
def FreshRequest (broker : Broker) : Label → Prop
  | .forward _ _ now =>
    ∀ request ∈ broker.requests, request.id ≠ requestId now broker.counter
  | _ => True

instance decidableFreshRequest (broker : Broker) :
    ∀ label, Decidable (FreshRequest broker label) := by
  intro label
  unfold FreshRequest
  split <;> infer_instance

/-- A request becomes one that is not armed, and is settled unless it has been before. -/
structure Request.EndsAs (settlement : Settlement) (before after : Request) : Prop where
  hub : after.hub = before.hub
  connection : after.connection = before.connection
  id : after.id = before.id
  timer : after.timer ≠ .armed
  settlements : before.settlements = [] ∧ after.settlements = [settlement] ∨
    before.settlements ≠ [] ∧ after.settlements = before.settlements

theorem endsAs_cleared (settlement : Settlement) (request : Request) :
    request.EndsAs settlement (request.clearTimeout.settle settlement) := by
  rcases request with ⟨hub, connection, id, _ | _ | _, settlements⟩ <;>
    cases settlements <;> constructor <;> simp [Request.clearTimeout, Request.settle]

theorem endsAs_expire (request : Request) :
    request.EndsAs (.rejected "tunnel timeout") request.expire := by
  rcases request with ⟨hub, connection, id, state, settlements⟩
  cases settlements <;> constructor <;> simp [Request.expire, Request.settle]

namespace Request.EndsAs

variable {settlement : Settlement} {before after : Request}

theorem extends_settlements (ends : before.EndsAs settlement after) :
    before.settlements <+: after.settlements := by
  rcases ends.settlements with ⟨none, _⟩ | ⟨_, same⟩
  · rw [none]
    exact List.nil_prefix
  · exact same ▸ List.prefix_rfl

theorem settled (ends : before.EndsAs settlement after) : after.settlements ≠ [] := by
  rcases ends.settlements with ⟨_, new⟩ | ⟨some, same⟩
  · simp [new]
  · rwa [same]

end Request.EndsAs

section Kept

variable {before middle after : List Request}

theorem Kept.rfl : Kept before before :=
  fun _ request found => ⟨request, found, Eq.refl _, List.prefix_rfl⟩

theorem Kept.trans (first : Kept before middle) (second : Kept middle after) :
    Kept before after := by
  intro number request found
  rcases first number request found with ⟨between, atMiddle, sameId, prior⟩
  rcases second number between atMiddle with ⟨later, atAfter, sameLater, onward⟩
  exact ⟨later, atAfter, sameLater.trans sameId, prior.trans onward⟩

theorem kept_concat (before : List Request) (request : Request) :
    Kept before (before ++ [request]) := by
  intro number held found
  rw [Cells.getElem?_concat, if_neg (Nat.ne_of_lt (Cells.lt_of_getElem? found))]
  exact ⟨held, found, Eq.refl _, List.prefix_rfl⟩

variable {change : Request → Request}

theorem kept_modify
    (ends : ∀ request : Request, ∃ settlement, request.EndsAs settlement (change request))
    (changed : Nat) (before : List Request) : Kept before (before.modify changed change) := by
  intro number request found
  rw [Cells.getElem?_modify, found]
  split
  · rcases ends request with ⟨settlement, ends⟩
    exact ⟨_, Eq.refl _, ends.id, ends.extends_settlements⟩
  · exact ⟨request, Eq.refl _, Eq.refl _, List.prefix_rfl⟩

theorem kept_modifyAll
    (ends : ∀ request : Request, ∃ settlement, request.EndsAs settlement (change request))
    (numbers : List Nat) (before : List Request) :
    Kept before (Cells.modifyAll change numbers before) := by
  induction numbers generalizing before with
  | nil => exact Kept.rfl
  | cons first rest ih => exact (kept_modify ends first before).trans (ih _)

end Kept

/-- A request is in its connection's table as long as it is not settled. -/
structure Request.Sound (broker : Broker) (number : Nat) (request : Request) : Prop where
  placed : broker.hubOf request.connection = some request.hub
  waiting : request.settlements = [] →
    broker.entryOf Conn.pending request.connection request.id = some number ∧
      broker.conns.get request.hub = some request.connection
  armed : request.timer = .armed ↔ request.settlements = []
  once : request.settlements.length ≤ 1
  own : ∀ settlement ∈ request.settlements, settlement.IsFor request

structure RequestsSound (broker : Broker) : Prop where
  current : HubsPlaced broker
  pending : ∀ connection id number, broker.entryOf Conn.pending connection id = some number →
    ∃ request : Request, broker.requests[number]? = some request ∧ request.connection = connection ∧
      request.id = id
  requests : ∀ (number : Nat) (request : Request), broker.requests[number]? = some request →
    request.Sound broker number

section Preservation

variable {broker next : Broker} {number : Nat} {request after : Request}

theorem Request.Sound.transfer (sound : request.Sound broker number)
    (placed : next.hubOf request.connection = some request.hub)
    (waiting : request.settlements = [] →
      next.entryOf Conn.pending request.connection request.id = some number ∧
        next.conns.get request.hub = some request.connection) :
    request.Sound next number :=
  ⟨placed, waiting, sound.armed, sound.once, sound.own⟩

theorem Request.Sound.ends {settlement : Settlement} (sound : request.Sound broker number)
    (ends : request.EndsAs settlement after) (own : settlement.IsFor request)
    (placed : next.hubOf request.connection = some request.hub) :
    after.Sound next number := by
  have same : ∀ settlement : Settlement, settlement.IsFor request → settlement.IsFor after := by
    intro settlement holds
    cases settlement with
    | rejected reason => trivial
    | resolved response reply =>
      simpa only [Settlement.IsFor, ends.hub, ends.connection, ends.id] using holds
  refine ⟨?_, ?_, ?_, ?_, ?_⟩
  · rw [ends.connection, ends.hub]
    exact placed
  · intro none
    exact (ends.settled none).elim
  · exact iff_of_false ends.timer ends.settled
  · rcases ends.settlements with ⟨_, new⟩ | ⟨_, kept⟩
    · simp [new]
    · rw [kept]
      exact sound.once
  · rcases ends.settlements with ⟨_, new⟩ | ⟨_, kept⟩
    · rw [new]
      intro found member
      rw [List.mem_singleton.mp member]
      exact same settlement own
    · rw [kept]
      exact fun found member => same found (sound.own found member)

theorem RequestsSound.nodup_pending (sound : RequestsSound broker) {conn : Conn}
    (found : broker.connections[number]? = some conn) : conn.pending.values.Nodup := by
  apply OrderedMap.nodup_values fun request => broker.requests[request]?.map Request.id
  intro id request entry
  rcases sound.pending number id request (by rw [entryOf_eq Conn.pending found, entry])
    with ⟨held, atNumber, _, identifier⟩
  simp [atNumber, identifier]

theorem Request.Sound.mem_pending {conn : Conn} (sound : request.Sound broker number)
    (found : broker.connections[request.connection]? = some conn)
    (unsettled : request.settlements = []) : number ∈ conn.pending.values := by
  rw [OrderedMap.mem_values_iff]
  exact ⟨request.id, by rw [← entryOf_eq Conn.pending found]; exact (sound.waiting unsettled).1⟩

theorem RequestsSound.congr (sound : RequestsSound broker)
    (conns : next.conns = broker.conns) (requests : next.requests = broker.requests)
    (hubs : ∀ connection, next.hubOf connection = broker.hubOf connection)
    (entries : ∀ connection id,
      next.entryOf Conn.pending connection id = broker.entryOf Conn.pending connection id) :
    RequestsSound next := by
  constructor
  · intro hub connection current
    rw [conns] at current
    rw [hubs]
    exact sound.current hub connection current
  · intro connection id number entry
    rw [entries] at entry
    rw [requests]
    exact sound.pending connection id number entry
  · intro number request found
    rw [requests] at found
    have held := sound.requests number request found
    refine held.transfer (by rw [hubs]; exact held.placed) fun unsettled => ?_
    rw [conns, entries]
    exact held.waiting unsettled

theorem RequestsSound.failAll (sound : RequestsSound broker) (reason : String)
    (failing : List Nat) (nodup : failing.Nodup)
    (requests : next.requests = Cells.modifyAll (Request.fail reason) failing broker.requests)
    (hubs : ∀ connection hub, broker.hubOf connection = some hub → next.hubOf connection = some hub)
    (entries : ∀ connection id,
      next.entryOf Conn.pending connection id = broker.entryOf Conn.pending connection id)
    (current : HubsPlaced next)
    (survivors : ∀ (number : Nat) (request : Request), broker.requests[number]? = some request →
      request.settlements = [] → number ∉ failing →
      next.conns.get request.hub = some request.connection) :
    RequestsSound next := by
  constructor
  · exact current
  · intro connection id number entry
    rw [entries] at entry
    rcases sound.pending connection id number entry with ⟨request, found, there, identifier⟩
    rw [requests, Cells.getElem?_modifyAll _ nodup, found]
    have ends := endsAs_cleared (.rejected reason) request
    split
    · exact ⟨_, rfl, ends.connection.trans there, ends.id.trans identifier⟩
    · exact ⟨request, rfl, there, identifier⟩
  · intro number after found
    rw [requests, Cells.getElem?_modifyAll _ nodup] at found
    split at found
    · rcases Option.map_eq_some_iff.mp found with ⟨request, before, rfl⟩
      have held := sound.requests number request before
      exact held.ends (endsAs_cleared (.rejected reason) request) trivial
        (hubs _ _ held.placed)
    · rename_i survives
      have held := sound.requests number after found
      refine held.transfer (hubs _ _ held.placed) fun unsettled => ?_
      rw [entries]
      exact ⟨(held.waiting unsettled).1, survivors number after found unsettled survives⟩

theorem RequestsSound.endOne (sound : RequestsSound broker) {settlement : Settlement}
    (change : Request → Request) (found : broker.requests[number]? = some request)
    (here : broker.entryOf Conn.pending request.connection request.id = some number)
    (ends : request.EndsAs settlement (change request)) (own : settlement.IsFor request)
    (conns : next.conns = broker.conns)
    (requests : next.requests = broker.requests.modify number change)
    (hubs : ∀ connection, next.hubOf connection = broker.hubOf connection)
    (entries : ∀ connection id, next.entryOf Conn.pending connection id =
      if connection = request.connection ∧ id = request.id then none
      else broker.entryOf Conn.pending connection id) :
    RequestsSound next := by
  constructor
  · intro hub connection current
    rw [conns] at current
    rw [hubs]
    exact sound.current hub connection current
  · intro connection id other entry
    rw [entries] at entry
    split at entry
    · cases entry
    · rcases sound.pending connection id other entry with ⟨held, atOther, there, identifier⟩
      rw [requests, Cells.getElem?_modify]
      split
      · rename_i same
        subst same
        rw [found, Option.some.injEq] at atOther
        subst atOther
        refine ⟨change request, by rw [found]; rfl, ends.connection.trans there,
          ends.id.trans identifier⟩
      · exact ⟨held, atOther, there, identifier⟩
  · intro other after atOther
    rw [requests, Cells.getElem?_modify] at atOther
    split at atOther
    · rename_i same
      subst same
      rw [found] at atOther
      simp only [Option.map_some, Option.some.injEq] at atOther
      subst atOther
      have held := sound.requests number request found
      exact held.ends ends own (by rw [hubs]; exact held.placed)
    · rename_i differs
      have held := sound.requests other after atOther
      refine held.transfer (by rw [hubs]; exact held.placed) fun unsettled => ?_
      have waiting := held.waiting unsettled
      rw [conns, entries, if_neg]
      · exact waiting
      · rintro ⟨sameConnection, sameId⟩
        rw [sameConnection, sameId, here] at waiting
        exact differs (Option.some.inj waiting.1)

end Preservation

section Operations

variable {broker : Broker}

/-- The requests that wait on the connection of a hub. -/
def waitingFor (broker : Broker) (hub : HubId) : List Nat :=
  ((broker.current hub).map fun found => found.2.pending.values).getD []

theorem requests_attach (hub : HubId) (devicePublicKey : String) (broker : Broker) :
    (broker.attach hub devicePublicKey).requests =
      Cells.modifyAll (Request.fail "superseded by new connection") (waitingFor broker hub)
        broker.requests := by
  simp only [attach, supersede, waitingFor]
  cases broker.current hub <;> rfl

theorem RequestsSound.attach (sound : RequestsSound broker) (hub : HubId)
    (devicePublicKey : String) : RequestsSound (broker.attach hub devicePublicKey) := by
  apply sound.failAll "superseded by new connection" (waitingFor broker hub)
  · unfold waitingFor
    cases found : broker.current hub with
    | none => exact List.nodup_nil
    | some prev => exact sound.nodup_pending (current_eq_some_iff.mp found).2
  · exact requests_attach hub devicePublicKey broker
  · intro connection other found
    rw [hubOf_attach, if_neg (ne_length_of_hubOf found)]
    exact found
  · exact entryOf_attach hub devicePublicKey broker rfl
  · exact sound.current.attach hub devicePublicKey
  · intro number request found unsettled survives
    have held := sound.requests number request found
    have waiting := held.waiting unsettled
    rw [conns_attach, if_neg]
    · exact waiting.2
    · intro same
      apply survives
      have placed := held.placed
      simp only [hubOf, Option.map_eq_some_iff] at placed
      rcases placed with ⟨conn, atConnection, _⟩
      rw [same] at waiting
      have prev := current_eq_some_iff.mpr ⟨waiting.2, atConnection⟩
      simp only [waitingFor, prev, Option.map_some, Option.getD_some]
      exact held.mem_pending atConnection unsettled

theorem RequestsSound.detach (sound : RequestsSound broker) {number : Nat} {conn : Conn}
    (found : broker.connections[number]? = some conn) :
    RequestsSound (broker.detach number conn) := by
  apply sound.failAll _ _ (sound.nodup_pending found) (requests_detach number conn broker)
  · intro connection hub placed
    rw [hubOf_detach]
    exact placed
  · exact pendingOf_detach number conn broker
  · exact sound.current.detach number conn
  · intro other request atOther unsettled survives
    have held := sound.requests other request atOther
    have waiting := held.waiting unsettled
    have elsewhere : request.connection ≠ number := by
      rintro rfl
      exact survives (held.mem_pending found unsettled)
    rw [conns_detach]
    split
    · rename_i current
      rw [OrderedMap.get_delete, if_neg]
      · exact waiting.2
      · intro same
        rw [same, current, Option.some.injEq] at waiting
        exact elsewhere waiting.2.symm
    · exact waiting.2

section Forward

variable {hub : HubId} {connection : Nat} {conn : Conn}

theorem requests_forward (here : broker.current hub = some (connection, conn))
    (request : TunnelRequest) (now : Nat) :
    (broker.forward hub request now).requests = broker.requests ++
      [⟨hub, connection, requestId now broker.counter, .armed, []⟩] := by
  simp [Broker.forward, here, changeConn]

theorem conns_forward (here : broker.current hub = some (connection, conn))
    (request : TunnelRequest) (now : Nat) :
    (broker.forward hub request now).conns = broker.conns := by
  simp [Broker.forward, here, changeConn]

theorem hubOf_forward (here : broker.current hub = some (connection, conn))
    (request : TunnelRequest) (now other : Nat) :
    (broker.forward hub request now).hubOf other = broker.hubOf other := by
  simp only [Broker.forward, here]
  rw [hubOf_changeConn]
  · rfl
  · exact fun _ => rfl

theorem pendingOf_forward (here : broker.current hub = some (connection, conn))
    (request : TunnelRequest) (now other : Nat) (id : String) :
    (broker.forward hub request now).entryOf Conn.pending other id =
      if other = connection ∧ id = requestId now broker.counter then
        some broker.requests.length
      else broker.entryOf Conn.pending other id := by
  simp only [Broker.forward, here]
  rw [entryOf_changeConn_of_set]
  · rfl
  · exact (current_eq_some_iff.mp here).2
  · exact fun _ => rfl

end Forward

theorem RequestsSound.forward (sound : RequestsSound broker) (hub : HubId)
    (request : TunnelRequest) (now : Nat) (fresh : FreshRequest broker (.forward hub request now)) :
    RequestsSound (broker.forward hub request now) := by
  cases here : broker.current hub with
  | none =>
    simp only [Broker.forward, here]
    exact sound
  | some place =>
    rcases place with ⟨connection, conn⟩
    rcases current_eq_some_iff.mp here with ⟨current, found⟩
    constructor
    · intro other number active
      rw [conns_forward here] at active
      rw [hubOf_forward here]
      exact sound.current other number active
    · intro other id number entry
      rw [pendingOf_forward here] at entry
      rw [requests_forward here, Cells.getElem?_concat]
      split at entry
      · rename_i new
        rw [Option.some.injEq] at entry
        subst entry
        exact ⟨_, if_pos rfl, new.1.symm, new.2.symm⟩
      · rcases sound.pending other id number entry with ⟨held, atNumber, there⟩
        rw [if_neg (Nat.ne_of_lt (Cells.lt_of_getElem? atNumber))]
        exact ⟨held, atNumber, there⟩
    · intro number after atNumber
      rw [requests_forward here, Cells.getElem?_concat] at atNumber
      split at atNumber
      · rename_i last
        rw [Option.some.injEq] at atNumber
        subst atNumber
        refine ⟨?_, fun _ => ⟨?_, ?_⟩, by simp, by simp, by simp⟩
        · rw [hubOf_forward here]
          exact sound.current hub connection current
        · rw [pendingOf_forward here, if_pos ⟨rfl, rfl⟩, last]
        · rw [conns_forward here]
          exact current
      · have held := sound.requests number after atNumber
        refine held.transfer (by rw [hubOf_forward here]; exact held.placed)
          fun unsettled => ?_
        rw [conns_forward here, pendingOf_forward here, if_neg]
        · exact held.waiting unsettled
        · rintro ⟨_, same⟩
          exact fresh after (List.mem_of_getElem? atNumber) same

theorem RequestsSound.timeout (sound : RequestsSound broker) {number : Nat} {request : Request}
    (found : broker.requests[number]? = some request) (armed : request.timer = .armed) :
    RequestsSound (broker.timeout number request) := by
  have held := sound.requests number request found
  apply sound.endOne _ found (held.waiting (held.armed.mp armed)).1 (endsAs_expire request) trivial
  · rfl
  · rfl
  · exact hubOf_changeConn fun _ => rfl
  · exact entryOf_changeConn_of_delete fun _ => OrderedMap.get_delete _ _

theorem RequestsSound.handleResponse (sound : RequestsSound broker) {hub : HubId}
    {connection : Nat} {conn : Conn} {id : String} {frame : Json}
    (here : broker.current hub = some (connection, conn))
    (kind : frameKind frame = some "res") (identifier : frameId frame = some id) :
    RequestsSound (broker.handleResponse hub connection conn id frame) := by
  rcases current_eq_some_iff.mp here with ⟨current, found⟩
  unfold Broker.handleResponse
  split
  · exact sound
  · rename_i number entry
    rw [← entryOf_eq Conn.pending found] at entry
    rcases sound.pending connection id number entry with ⟨request, atNumber, rfl, rfl⟩
    have placed := (sound.requests number request atNumber).placed
    rw [sound.current hub request.connection current, Option.some.injEq] at placed
    have ends := endsAs_cleared
      (.resolved (frameResponse frame) ⟨hub, request.connection, frame⟩) request
    apply sound.endOne (fun held => held.clearTimeout.settle
      (.resolved (frameResponse frame) ⟨hub, request.connection, frame⟩)) atNumber entry ends
    · exact ⟨placed, rfl, kind, identifier, rfl⟩
    · rfl
    · rfl
    · exact hubOf_changeConn fun _ => rfl
    · exact entryOf_changeConn_of_delete fun _ => OrderedMap.get_delete _ _

theorem RequestsSound.openStream (sound : RequestsSound broker) (hub : HubId) (path : String)
    (now : Nat) : RequestsSound (broker.openStream hub path now) := by
  unfold Broker.openStream
  split
  · exact sound
  · apply sound.congr
    · rfl
    · rfl
    · exact hubOf_changeConn fun _ => rfl
    · exact entryOf_changeConn_of_kept fun _ => rfl

theorem RequestsSound.sendStream (sound : RequestsSound broker) (stream : Stream)
    (data : String) : RequestsSound (broker.sendStream stream data) := by
  apply sound.congr
  · rfl
  · rfl
  · exact hubOf_changeConn fun _ => rfl
  · exact entryOf_changeConn_of_kept fun _ => rfl

theorem RequestsSound.closeStream (sound : RequestsSound broker) (number : Nat)
    (stream : Stream) : RequestsSound (broker.closeStream number stream) := by
  apply sound.congr
  · rfl
  · rfl
  · exact hubOf_changeConn fun conn => by split <;> rfl
  · exact entryOf_changeConn_of_kept fun conn => by split <;> rfl

theorem RequestsSound.handleMessage (sound : RequestsSound broker) (hub : HubId)
    (parsed : Option Json) : RequestsSound (broker.handleMessage hub parsed) := by
  unfold Broker.handleMessage
  split
  · rename_i number conn frame here
    split
    · rename_i id kind identifier
      exact sound.handleResponse here kind identifier
    · unfold Broker.handleStreamData
      split
      · exact sound
      · exact sound.congr rfl rfl (fun _ => rfl) fun _ _ => rfl
    · unfold Broker.handleStreamClose
      split
      · exact sound
      · apply sound.congr
        · rfl
        · rfl
        · exact hubOf_changeConn fun _ => rfl
        · exact entryOf_changeConn_of_kept fun _ => rfl
    · exact sound
  · exact sound

theorem requestsSound_step {next : Broker} {label : Label} (sound : RequestsSound broker)
    (fresh : FreshRequest broker label) (taken : step broker label = some next) :
    RequestsSound next := by
  cases label with
  | attach hub devicePublicKey =>
    cases taken
    exact sound.attach hub devicePublicKey
  | detach number =>
    rcases Option.map_eq_some_iff.mp taken with ⟨conn, found, rfl⟩
    exact sound.detach found
  | forward hub request now =>
    cases taken
    exact sound.forward hub request now fresh
  | timeout number =>
    simp only [step] at taken
    split at taken
    · rename_i request found
      split at taken
      · rename_i armed
        cases taken
        exact sound.timeout found armed
      · cases taken
    · cases taken
  | openStream hub path now =>
    cases taken
    exact sound.openStream hub path now
  | sendStream number data =>
    rcases Option.map_eq_some_iff.mp taken with ⟨stream, _, rfl⟩
    exact sound.sendStream stream data
  | closeStream number =>
    rcases Option.map_eq_some_iff.mp taken with ⟨stream, _, rfl⟩
    exact sound.closeStream number stream
  | handleMessage hub parsed =>
    cases taken
    exact sound.handleMessage hub parsed

theorem kept_step {next : Broker} {label : Label} (taken : step broker label = some next) :
    Kept broker.requests next.requests := by
  cases label with
  | attach hub devicePublicKey =>
    cases taken
    rw [requests_attach]
    exact kept_modifyAll (fun request => ⟨_, endsAs_cleared _ request⟩) _ _
  | detach number =>
    rcases Option.map_eq_some_iff.mp taken with ⟨conn, _, rfl⟩
    rw [requests_detach]
    exact kept_modifyAll (fun request => ⟨_, endsAs_cleared _ request⟩) _ _
  | forward hub request now =>
    cases taken
    unfold Broker.forward
    split
    · exact Kept.rfl
    · exact kept_concat _ _
  | timeout number =>
    simp only [step] at taken
    split at taken
    · split at taken
      · cases taken
        exact kept_modify (fun request => ⟨_, endsAs_expire request⟩) _ _
      · cases taken
    · cases taken
  | openStream hub path now =>
    cases taken
    unfold Broker.openStream
    split <;> exact Kept.rfl
  | sendStream number data =>
    rcases Option.map_eq_some_iff.mp taken with ⟨stream, _, rfl⟩
    exact Kept.rfl
  | closeStream number =>
    rcases Option.map_eq_some_iff.mp taken with ⟨stream, _, rfl⟩
    exact Kept.rfl
  | handleMessage hub parsed =>
    cases taken
    unfold Broker.handleMessage
    split
    · split
      · unfold handleResponse
        split
        · exact Kept.rfl
        · exact kept_modify (fun request => ⟨_, endsAs_cleared _ request⟩) _ _
      · unfold handleStreamData
        split <;> exact Kept.rfl
      · unfold handleStreamClose
        split <;> exact Kept.rfl
      · exact Kept.rfl
    · exact Kept.rfl

end Operations

theorem requestsSound_initial (counter : Nat) : RequestsSound (initial counter) := by
  constructor
  · intro hub number found
    simp [initial] at found
  · intro connection id number found
    simp [initial, entryOf] at found
  · intro number request found
    simp [initial] at found

theorem RequestsSound.forwardsSettle {broker : Broker} (sound : RequestsSound broker) :
    ForwardsSettle broker := by
  constructor
  · intro number request found
    have held := sound.requests number request found
    refine ⟨held.once, ?_, held.own⟩
    intro ended
    have settled : request.settlements ≠ [] := by
      intro unsettled
      rcases ended with expired | gone
      · rw [held.armed.mpr unsettled] at expired
        cases expired
      · exact gone (held.waiting unsettled).2
    have once := held.once
    have some := List.length_pos_iff.mpr settled
    omega
  · exact fun label next taken => kept_step taken
  · intro number conn next found superseded taken
    simp only [step, found, Option.map_some, Option.some.injEq] at taken
    subst taken
    rw [conns_detach, if_neg superseded]
    refine ⟨rfl, fun other request atOther elsewhere => ?_⟩
    rw [requests_detach, Cells.getElem?_modifyAll _ (sound.nodup_pending found), if_neg]
    · exact atOther
    · intro member
      rcases OrderedMap.mem_values_iff.mp member with ⟨id, entry⟩
      rw [← entryOf_eq Conn.pending found] at entry
      rcases sound.pending number id other entry with ⟨held, here, there, _⟩
      rw [atOther, Option.some.injEq] at here
      exact elsewhere (here ▸ there)

end SupremeOs.TunnelBroker
