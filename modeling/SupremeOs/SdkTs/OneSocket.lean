import SupremeOs.SdkTs.StreamClient

/-!
# One socket and its rooms

As long as no socket that the client has closed reports back to a client that
is connected again, the client has one socket at most, is given frames of the
last one only, opens none while it is stopped, and has asked an open socket for
exactly the rooms it is subscribed to.

A close that comes in after the next `connect()` arms the reconnect timer
beside a live socket.
-/

namespace SupremeOs.SdkTs

open Support List OrderedMap Option

namespace SupremeStream

/-- Whether a frame asks for a room or takes it back. -/
def marksRoom (room : String) : ClientFrame → Option Bool
  | .subscribe rooms => if room ∈ rooms then some true else none
  | .unsubscribe rooms => if room ∈ rooms then some false else none
  | .ping => none

/-- The rooms that frames amount to. -/
def requested (frames : List ClientFrame) (room : String) : Bool := latest (marksRoom room) frames

structure OneSocket (stream : SupremeStream) : Prop where
  /-- Neither closed by the client nor closed. -/
  one : ∀ (first second : Nat) (socket other : WebSocketLike),
    stream.sockets[first]? = some socket → stream.sockets[second]? = some other →
    socket.closing = false → socket.closed = false →
    other.closing = false → other.closed = false → first = second
  rooms : ∀ (number : Nat) (socket : WebSocketLike), stream.ws = some number →
    stream.sockets[number]? = some socket → socket.isOpen = true →
    ∀ room, requested socket.frames room = stream.subscribedRooms.has room

/-- Whether a call starts or stops the client. -/
def marksRunning : StreamCall → Option Bool
  | .connect => some true
  | .close => some false
  | .subscribe _ | .unsubscribe _ | .ping => none

/-- The client was started and not stopped since. -/
def running (history : List StreamCall) : Bool := latest marksRunning history

/-- Frames come from the last socket, and a client that is stopped and stays so makes none. -/
structure StaysSingle (before : SupremeStream × List StreamCall) (label : StreamLabel)
    (after : SupremeStream × List StreamCall) : Prop where
  last : ∀ number frame, label = .message number frame → after.1.received ≠ before.1.received →
    number + 1 = before.1.sockets.length
  stopped : running before.2 = false → .connect ∉ callsOf label →
    after.1.sockets.length = before.1.sockets.length

/--
What comes from a socket that the client has closed comes before it connects
again: a close finds the client stopped or the socket its own, and a frame
comes from the last socket.
-/
def InTime (config : SupremeStream × List StreamCall) : StreamLabel → Prop
  | .closed number calls =>
    ∀ after ∈ calls.foldlM perform (config.1.onClose number),
      after.reconnectEnabled = true → after.ws = some number
  | .message number _ =>
    ∀ socket ∈ config.1.sockets[number]?, socket.closing = true →
      number + 1 = config.1.sockets.length
  | .call _ | .opened _ | .reconnectTimer _ | .stableTimer _ => True

instance (config : SupremeStream × List StreamCall) :
    ∀ label, Decidable (InTime config label) := by
  intro label
  unfold InTime
  split <;> infer_instance

structure Sound (stream : SupremeStream) : Prop where
  /-- The socket of the client is the last one, and the client has not closed it. -/
  current : ∀ number, stream.ws = some number → number + 1 = stream.sockets.length ∧
    ∀ socket : WebSocketLike, stream.sockets[number]? = some socket → socket.closing = false
  others : ∀ (number : Nat) (socket : WebSocketLike), stream.sockets[number]? = some socket →
    stream.ws ≠ some number → socket.closing = true ∨ socket.closed = true
  stopped : stream.reconnectEnabled = false → stream.ws = none ∧ stream.reconnectTimers.armed = []
  started : stream.reconnectEnabled = true → ∃ number, stream.ws = some number
  /-- A reconnect timer waits for a socket that is closed, and its handle is kept. -/
  timer : stream.reconnectTimers.armed ≠ [] →
    (∃ handle, stream.reconnectTimers.armed = [handle] ∧ stream.reconnectTimer = some handle) ∧
      ∃ (number : Nat) (socket : WebSocketLike), stream.ws = some number ∧
        stream.sockets[number]? = some socket ∧ socket.closed = true
  /-- Nothing is sent before a socket is open. -/
  silent : ∀ (number : Nat) (socket : WebSocketLike), stream.sockets[number]? = some socket →
    socket.opened = false → socket.frames = []
  rooms : ∀ (number : Nat) (socket : WebSocketLike), stream.ws = some number →
    stream.sockets[number]? = some socket → socket.opened = true → socket.closed = false →
    ∀ room, requested socket.frames room = stream.subscribedRooms.has room

theorem Sound.oneSocket {stream : SupremeStream} (sound : Sound stream) : OneSocket stream where
  one first second socket other found foundToo up live upToo liveToo := by
    have mine (number : Nat) (socket : WebSocketLike)
        (found : stream.sockets[number]? = some socket)
        (up : socket.closing = false) (live : socket.closed = false) :
        stream.ws = some number := by
      by_contra apart
      rcases sound.others number socket found apart with closing | closed
      · exact Bool.noConfusion (up.symm.trans closing)
      · exact Bool.noConfusion (live.symm.trans closed)
    have same := (mine first socket found up live).symm.trans
      (mine second other foundToo upToo liveToo)
    exact Option.some.inj same
  rooms number socket own found isOpen := by
    simp only [WebSocketLike.isOpen, Bool.and_eq_true, Bool.not_eq_true'] at isOpen
    exact sound.rooms number socket own found isOpen.1.1 isOpen.2

variable {stream : SupremeStream} {number : Nat} {socket : WebSocketLike}

@[simp]
theorem getElem?_changeSocket (changed : Nat) (change : WebSocketLike → WebSocketLike)
    (number : Nat) :
    (stream.changeSocket changed change).sockets[number]? =
      if changed = number then stream.sockets[number]?.map change
      else stream.sockets[number]? :=
  Cells.getElem?_modify stream.sockets changed number change

@[simp]
theorem length_changeSocket (changed : Nat) (change : WebSocketLike → WebSocketLike) :
    (stream.changeSocket changed change).sockets.length = stream.sockets.length :=
  length_modify ..

theorem closed_changeSocket (found : stream.sockets[number]? = some socket) (changed : Nat)
    (change : WebSocketLike → WebSocketLike)
    (keeps : ∀ before, before.closed = true → (change before).closed = true)
    (closed : socket.closed = true) :
    ∃ after, (stream.changeSocket changed change).sockets[number]? = some after ∧
      after.closed = true := by
  rw [getElem?_changeSocket]
  split
  · exact ⟨change socket, by rw [found]; rfl, keeps socket closed⟩
  · exact ⟨socket, found, closed⟩

section Send

variable (frame : ClientFrame)

@[simp]
theorem ws_send : (stream.send frame).ws = stream.ws := by
  rw [send]
  split <;> rfl

@[simp]
theorem subscribedRooms_send : (stream.send frame).subscribedRooms = stream.subscribedRooms := by
  rw [send]
  split <;> rfl

@[simp]
theorem reconnectEnabled_send : (stream.send frame).reconnectEnabled = stream.reconnectEnabled := by
  rw [send]
  split <;> rfl

@[simp]
theorem reconnectTimer_send : (stream.send frame).reconnectTimer = stream.reconnectTimer := by
  rw [send]
  split <;> rfl

@[simp]
theorem reconnectTimers_send : (stream.send frame).reconnectTimers = stream.reconnectTimers := by
  rw [send]
  split <;> rfl

@[simp]
theorem received_send : (stream.send frame).received = stream.received := by
  rw [send]
  split <;> rfl

@[simp]
theorem length_sockets_send : (stream.send frame).sockets.length = stream.sockets.length := by
  rw [send]
  split
  · exact length_changeSocket ..
  · rfl

theorem getElem?_send (number : Nat) : (stream.send frame).sockets[number]? =
      if stream.ws = some number then stream.sockets[number]?.map (WebSocketLike.send frame)
      else stream.sockets[number]? := by
  rw [send]
  cases own : stream.ws with
  | none => simp
  | some current =>
    dsimp only
    rw [getElem?_changeSocket]
    by_cases same : current = number <;> simp [same]

theorem exists_of_getElem?_send {number : Nat} {socket : WebSocketLike}
    (found : (stream.send frame).sockets[number]? = some socket) :
    ∃ before, stream.sockets[number]? = some before ∧ socket.opened = before.opened ∧
      socket.closing = before.closing ∧ socket.closed = before.closed ∧ socket.frames =
        if stream.ws = some number ∧ before.isOpen = true then before.frames ++ [frame]
        else before.frames := by
  rw [getElem?_send] at found
  split at found
  · rename_i own
    rcases map_eq_some_iff.mp found with ⟨before, was, rfl⟩
    refine ⟨before, was, ?_⟩
    rw [WebSocketLike.send]
    split <;> simp_all
  · rename_i other
    exact ⟨socket, found, rfl, rfl, rfl, by rw [if_neg fun own => other own.1]⟩

end Send

theorem Sound.send (sound : Sound stream) (frame : ClientFrame) (rooms : OrderedSet String)
    (follows : ∀ frames room, requested frames room = stream.subscribedRooms.has room →
      requested (frames ++ [frame]) room = rooms.has room) :
    Sound (SupremeStream.send frame { stream with subscribedRooms := rooms }) where
  current number own := by
    rw [ws_send] at own
    rcases sound.current number own with ⟨last, up⟩
    refine ⟨by rw [length_sockets_send]; exact last, fun socket found => ?_⟩
    rcases exists_of_getElem?_send frame found with ⟨before, was, -, closing, -, -⟩
    rw [closing]
    exact up before was
  others number socket found other := by
    rcases exists_of_getElem?_send frame found with ⟨before, was, -, closing, closed, -⟩
    rw [ws_send] at other
    rw [closing, closed]
    exact sound.others number before was other
  stopped disabled := by
    rw [reconnectEnabled_send] at disabled
    rw [ws_send, reconnectTimers_send]
    exact sound.stopped disabled
  started enabled := by
    rw [reconnectEnabled_send] at enabled
    rw [ws_send]
    exact sound.started enabled
  timer armed := by
    rw [reconnectTimers_send] at armed
    rw [reconnectTimers_send, reconnectTimer_send]
    rcases sound.timer armed with ⟨kept, number, socket, own, found, closed⟩
    refine ⟨kept, number, WebSocketLike.send frame socket, ?_, ?_, ?_⟩
    · rw [ws_send]
      exact own
    · rw [getElem?_send, if_pos own]
      exact map_eq_some_iff.mpr ⟨socket, found, rfl⟩
    · simp [WebSocketLike.send, WebSocketLike.isOpen, closed]
  silent number socket found unopened := by
    rcases exists_of_getElem?_send frame found with ⟨before, was, opened, -, -, frames⟩
    rw [opened] at unopened
    rw [frames, if_neg fun own => by simp [WebSocketLike.isOpen, unopened] at own]
    exact sound.silent number before was unopened
  rooms number socket own found opened closed room := by
    rcases exists_of_getElem?_send frame found with
      ⟨before, was, wasOpened, -, wasClosed, frames⟩
    rw [ws_send] at own
    rw [wasOpened] at opened
    rw [wasClosed] at closed
    have isOpen : before.isOpen = true := by
      simp [WebSocketLike.isOpen, opened, closed, (sound.current number own).2 before was]
    rw [subscribedRooms_send, frames, if_pos ⟨own, isOpen⟩]
    exact follows before.frames room (sound.rooms number before own was opened closed room)

theorem requested_concat (frames : List ClientFrame) (frame : ClientFrame) (room : String) :
    requested (frames ++ [frame]) room = (marksRoom room frame).getD (requested frames room) :=
  latest_concat frame

theorem has_foldl_set (rooms : List String) (set : OrderedSet String) (room : String) :
    OrderedMap.has (rooms.foldl (fun set room => set.set room ()) set) room =
      (decide (room ∈ rooms) || set.has room) := by
  induction rooms generalizing set with
  | nil => simp
  | cons first rest ih =>
    rw [foldl_cons, ih]
    by_cases same : room = first <;> simp [OrderedMap.has, same]

theorem has_foldl_delete (rooms : List String) (set : OrderedSet String) (room : String) :
    OrderedMap.has (rooms.foldl OrderedMap.delete set) room =
      (!decide (room ∈ rooms) && set.has room) := by
  induction rooms generalizing set with
  | nil => simp
  | cons first rest ih =>
    rw [foldl_cons, ih]
    by_cases same : room = first <;> simp [OrderedMap.has, same]

theorem Sound.subscribe (sound : Sound stream) (rooms : List String) :
    Sound (stream.subscribe rooms) := by
  refine sound.send (.subscribe rooms) _ fun frames room same => ?_
  rw [has_foldl_set, requested_concat]
  by_cases inside : room ∈ rooms
  · simp [marksRoom, inside]
  · simpa [marksRoom, inside] using same

theorem Sound.unsubscribe (sound : Sound stream) (rooms : List String) :
    Sound (stream.unsubscribe rooms) := by
  refine sound.send (.unsubscribe rooms) _ fun frames room same => ?_
  rw [has_foldl_delete, requested_concat]
  by_cases inside : room ∈ rooms
  · simp [marksRoom, inside]
  · simpa [marksRoom, inside] using same

theorem Sound.ping (sound : Sound stream) : Sound (SupremeStream.send .ping stream) :=
  sound.send .ping stream.subscribedRooms fun frames room same => by
    rw [requested_concat]
    exact same

theorem Sound.resubscribe (sound : Sound stream) :
    Sound (SupremeStream.send (.subscribe stream.subscribedRooms.keys) stream) := by
  refine sound.send (.subscribe stream.subscribedRooms.keys) stream.subscribedRooms ?_
  intro frames room same
  rw [requested_concat]
  by_cases inside : room ∈ stream.subscribedRooms.keys
  · simp [marksRoom, inside, mem_keys_iff.mp inside]
  · simpa [marksRoom, inside] using same

theorem sound_openSocket (enabled : stream.reconnectEnabled = true)
    (unarmed : stream.reconnectTimers.armed = [])
    (idle : ∀ (number : Nat) (socket : WebSocketLike), stream.sockets[number]? = some socket →
      socket.closing = true ∨ socket.closed = true)
    (silent : ∀ (number : Nat) (socket : WebSocketLike), stream.sockets[number]? = some socket →
      socket.opened = false → socket.frames = []) :
    Sound stream.openSocket where
  current number own := by
    cases own
    refine ⟨by simp [openSocket], fun socket found => ?_⟩
    rw [openSocket, Cells.getElem?_concat, if_pos rfl] at found
    rw [← Option.some.inj found]
    rfl
  others number socket found other := by
    rw [openSocket, Cells.getElem?_concat] at found
    split at found
    · rename_i last
      exact absurd (congrArg some last.symm) other
    · exact idle number socket found
  stopped disabled := Bool.noConfusion (enabled.symm.trans disabled)
  started _ := ⟨stream.sockets.length, rfl⟩
  timer armed := absurd unarmed armed
  silent number socket found unopened := by
    rw [openSocket, Cells.getElem?_concat] at found
    split at found
    · rw [← Option.some.inj found]
      rfl
    · exact silent number socket found unopened
  rooms number socket own found opened := by
    cases own
    rw [openSocket, Cells.getElem?_concat, if_pos rfl] at found
    rw [← Option.some.inj found] at opened
    exact Bool.noConfusion opened

section

variable (sound : Sound stream)

include sound

theorem Sound.connect (disabled : stream.reconnectEnabled = false) :
    Sound stream.connect := by
  rcases sound.stopped disabled with ⟨none, unarmed⟩
  refine sound_openSocket rfl unarmed ?_ sound.silent
  intro number socket found
  exact sound.others number socket found (by rw [none]; exact (some_ne_none _).symm)

theorem Sound.close : Sound stream.close := by
  have cleared : (stream.reconnectTimers.clearField stream.reconnectTimer).armed = [] := by
    by_cases armed : stream.reconnectTimers.armed = []
    · cases stream.reconnectTimer <;> simp [Timers.clearField, Timers.clear, armed]
    · rcases (sound.timer armed).1 with ⟨handle, only, kept⟩
      simp [Timers.clearField, Timers.clear, only, kept]
  have was (number : Nat) (socket : WebSocketLike)
      (found : stream.close.sockets[number]? = some socket) :
      ∃ before, stream.sockets[number]? = some before ∧ socket.opened = before.opened ∧
        socket.frames = before.frames ∧ socket.closed = before.closed ∧
        (before.closing = true → socket.closing = true) ∧
        (stream.ws = some number → socket.closing = true) := by
    rw [SupremeStream.close] at found
    cases own : stream.ws with
    | none =>
      rw [own] at found
      exact ⟨socket, found, rfl, rfl, rfl, id, fun none => by cases none⟩
    | some current =>
      rw [own] at found
      dsimp only at found
      rw [getElem?_changeSocket] at found
      split at found
      · rcases map_eq_some_iff.mp found with ⟨before, was, rfl⟩
        exact ⟨before, was, rfl, rfl, rfl, fun _ => rfl, fun _ => rfl⟩
      · rename_i apart
        exact ⟨socket, found, rfl, rfl, rfl, id, fun same =>
          absurd (Option.some.inj same) apart⟩
  constructor
  · intro number own
    cases own
  · intro number socket found _
    rcases was number socket found with ⟨before, stood, -, -, closed, closing, own⟩
    by_cases mine : stream.ws = some number
    · exact .inl (own mine)
    · rcases sound.others number before stood mine with up | gone
      · exact .inl (closing up)
      · exact .inr (closed.trans gone)
  · intro _
    exact ⟨rfl, cleared⟩
  · intro enabled
    exact Bool.noConfusion enabled
  · intro armed
    exact absurd cleared armed
  · intro number socket found unopened
    rcases was number socket found with ⟨before, stood, opened, frames, -⟩
    rw [frames]
    exact sound.silent number before stood (opened.symm.trans unopened)
  · intro number socket own
    cases own

theorem Sound.stable (backoffMs : Nat) (field : Option Nat)
    (timers : Timers) (received : List Nat) :
    Sound { stream with
      backoffMs := backoffMs
      stableTimer := field
      stableTimers := timers
      received := received } :=
  ⟨sound.current, sound.others, sound.stopped, sound.started, sound.timer, sound.silent,
    sound.rooms⟩

theorem Sound.opened (found : stream.sockets[number]? = some socket)
    (unopened : socket.opened = false) (rooms : OrderedSet String)
    (own : stream.ws = some number → rooms = .empty)
    (other : stream.ws ≠ some number → rooms = stream.subscribedRooms) :
    Sound { stream.changeSocket number (fun socket => { socket with opened := true }) with
      subscribedRooms := rooms } := by
  have was (place : Nat) (after : WebSocketLike)
      (stands : (stream.changeSocket number fun socket =>
        { socket with opened := true }).sockets[place]? = some after) :
      ∃ before, stream.sockets[place]? = some before ∧ after.frames = before.frames ∧
        after.closing = before.closing ∧ after.closed = before.closed ∧
        (after.opened = false → before.opened = false) ∧
        (number ≠ place → after.opened = before.opened) := by
    rw [getElem?_changeSocket] at stands
    split at stands
    · rename_i same
      rcases map_eq_some_iff.mp stands with ⟨before, stood, rfl⟩
      exact ⟨before, stood, rfl, rfl, rfl, fun no => Bool.noConfusion no,
        fun apart => absurd same apart⟩
    · exact ⟨after, stands, rfl, rfl, rfl, id, fun _ => rfl⟩
  constructor
  · intro place mine
    rcases sound.current place mine with ⟨last, up⟩
    refine ⟨by rw [length_changeSocket]; exact last, fun after stands => ?_⟩
    rcases was place after stands with ⟨before, stood, -, closing, -⟩
    exact closing.trans (up before stood)
  · intro place after stands apart
    rcases was place after stands with ⟨before, stood, -, closing, closed, -⟩
    rw [closing, closed]
    exact sound.others place before stood apart
  · exact sound.stopped
  · exact sound.started
  · intro armed
    rcases sound.timer armed with ⟨kept, place, before, mine, stood, gone⟩
    rcases closed_changeSocket stood number (fun socket => { socket with opened := true })
      (fun _ => id) gone with ⟨after, stands, goneToo⟩
    exact ⟨kept, place, after, mine, stands, goneToo⟩
  · intro place after stands no
    rcases was place after stands with ⟨before, stood, frames, -, -, unopened, -⟩
    rw [frames]
    exact sound.silent place before stood (unopened no)
  · intro place after mine stands yes alive room
    rcases was place after stands with ⟨before, stood, frames, -, closed, -, opened⟩
    rw [frames]
    by_cases same : number = place
    · subst same
      rw [found] at stood
      cases stood
      rw [sound.silent number socket found unopened, own mine]
      rfl
    · have apart : stream.ws ≠ some number := fun both =>
        same (Option.some.inj (both.symm.trans mine))
      rw [other apart]
      exact sound.rooms place before mine stood ((opened same).symm.trans yes)
        (closed.symm.trans alive) room

theorem Sound.onOpen (found : stream.sockets[number]? = some socket)
    (unopened : socket.opened = false) : Sound (stream.onOpen number) := by
  simp only [SupremeStream.onOpen]
  by_cases own : stream.ws = some number
  · have asked := (sound.opened found unopened .empty (fun _ => rfl)
      fun other => absurd own other).stable stream.backoffMs (some stream.stableTimers.next)
        stream.stableTimers.set stream.received
    split
    · rename_i none
      have empty : stream.subscribedRooms = .empty := by
        refine eq_empty_of_get fun room => ?_
        by_contra some
        have inside : room ∈ stream.subscribedRooms.keys :=
          mem_keys_iff.mpr (isSome_iff_ne_none.mpr some)
        rw [show stream.subscribedRooms.keys = [] from List.isEmpty_iff.mp none] at inside
        exact not_mem_nil inside
      rw [← empty] at asked
      exact asked
    · refine asked.send (.subscribe stream.subscribedRooms.keys) stream.subscribedRooms ?_
      intro frames room same
      rw [requested_concat]
      by_cases inside : room ∈ stream.subscribedRooms.keys
      · simp [marksRoom, inside, mem_keys_iff.mp inside]
      · have absent : stream.subscribedRooms.has room = false := by
          simpa using mt mem_keys_iff.mpr inside
        rw [absent]
        simpa [marksRoom, inside, OrderedMap.has] using same
  · have asked := (sound.opened found unopened stream.subscribedRooms (fun mine => absurd mine own)
      fun _ => rfl).stable stream.backoffMs (some stream.stableTimers.next)
        stream.stableTimers.set stream.received
    split
    · exact asked
    · exact asked.resubscribe

theorem Sound.onClose : Sound (stream.onClose number) := by
  have was (place : Nat) (after : WebSocketLike)
      (stands : (stream.changeSocket number fun socket =>
        { socket with closed := true }).sockets[place]? = some after) :
      ∃ before, stream.sockets[place]? = some before ∧ after.frames = before.frames ∧
        after.closing = before.closing ∧ after.opened = before.opened ∧
        (before.closed = true → after.closed = true) ∧
        (after.closed = false → before.closed = false) := by
    rw [getElem?_changeSocket] at stands
    split at stands
    · rcases map_eq_some_iff.mp stands with ⟨before, stood, rfl⟩
      exact ⟨before, stood, rfl, rfl, rfl, fun _ => rfl, fun no => Bool.noConfusion no⟩
    · exact ⟨after, stands, rfl, rfl, rfl, id, id⟩
  constructor
  · intro place mine
    rcases sound.current place mine with ⟨last, up⟩
    refine ⟨(length_changeSocket ..).symm ▸ last, fun after stands => ?_⟩
    rcases was place after stands with ⟨before, stood, -, closing, -⟩
    exact closing.trans (up before stood)
  · intro place after stands apart
    rcases was place after stands with ⟨before, stood, -, closing, -, closed, -⟩
    rw [closing]
    exact (sound.others place before stood apart).imp_right closed
  · exact sound.stopped
  · exact sound.started
  · intro armed
    rcases sound.timer armed with ⟨kept, place, before, mine, stood, gone⟩
    rcases closed_changeSocket stood number (fun socket => { socket with closed := true })
      (fun _ _ => rfl) gone with ⟨after, stands, goneToo⟩
    exact ⟨kept, place, after, mine, stands, goneToo⟩
  · intro place after stands no
    rcases was place after stands with ⟨before, stood, frames, -, opened, -⟩
    rw [frames]
    exact sound.silent place before stood (opened.symm.trans no)
  · intro place after mine stands yes alive room
    rcases was place after stands with ⟨before, stood, frames, -, opened, -, closed⟩
    rw [frames]
    exact sound.rooms place before mine stood (opened.symm.trans yes) (closed alive) room

theorem Sound.scheduleReconnect (unarmed : stream.reconnectTimers.armed = [])
    (waits : stream.reconnectEnabled = true → ∃ (number : Nat) (socket : WebSocketLike),
      stream.ws = some number ∧ stream.sockets[number]? = some socket ∧ socket.closed = true) :
    Sound stream.scheduleReconnect := by
  rw [SupremeStream.scheduleReconnect]
  split
  · rename_i enabled
    refine ⟨sound.current, sound.others, fun disabled => ?_, sound.started, fun _ => ?_,
      sound.silent, sound.rooms⟩
    · exact Bool.noConfusion (enabled.symm.trans disabled)
    · refine ⟨⟨stream.reconnectTimers.next, ?_, rfl⟩, waits enabled⟩
      rw [Timers.armed_set, unarmed]
      rfl
  · exact sound

theorem Sound.onReconnectTimer {handle : Nat}
    (armed : handle ∈ stream.reconnectTimers.armed) : Sound (stream.onReconnectTimer handle) := by
  have some : stream.reconnectTimers.armed ≠ [] := ne_nil_of_mem armed
  rcases sound.timer some with ⟨⟨kept, only, -⟩, number, socket, own, found, closed⟩
  refine sound_openSocket ?_ ?_ ?_ sound.silent
  · by_contra disabled
    exact some (sound.stopped (Bool.eq_false_iff.mpr disabled)).2
  · obtain rfl : handle = kept := by simpa [only] using armed
    simp [Timers.clear, only]
  · intro place other stands
    by_cases mine : stream.ws = Option.some place
    · cases own.symm.trans mine
      exact .inr (Option.some.inj (found.symm.trans stands) ▸ closed)
    · exact sound.others place other stands mine

end

/-- What calls keep of a client. -/
structure Performed (before : SupremeStream) (calls : List StreamCall) (after : SupremeStream) :
    Prop where
  sound : Sound before → Sound after
  ws : ∀ number, number < before.sockets.length → after.ws = some number → before.ws = some number
  unarmed : before.reconnectTimers.armed = [] → after.reconnectTimers.armed = []
  closed : ∀ (number : Nat) (socket : WebSocketLike), before.sockets[number]? = some socket →
    socket.closed = true → ∃ later : WebSocketLike, after.sockets[number]? = some later ∧
      later.closed = true
  length : before.sockets.length ≤ after.sockets.length
  single : .connect ∉ calls → after.sockets.length = before.sockets.length
  running : ∀ history, running history = before.reconnectEnabled →
    SupremeStream.running (history ++ calls) = after.reconnectEnabled
  received : after.received = before.received

theorem Performed.nil : Performed stream [] stream where
  sound := id
  ws _ _ own := own
  unarmed := id
  closed _ socket found closed := ⟨socket, found, closed⟩
  length := Nat.le_refl _
  single _ := rfl
  running history same := by rw [append_nil]; exact same
  received := rfl

theorem Performed.trans {before middle after : SupremeStream} {first second : List StreamCall}
    (earlier : Performed before first middle) (later : Performed middle second after) :
    Performed before (first ++ second) after where
  sound := later.sound ∘ earlier.sound
  ws number within own :=
    earlier.ws number within (later.ws number (Nat.lt_of_lt_of_le within earlier.length) own)
  unarmed := later.unarmed ∘ earlier.unarmed
  closed number socket found closed := by
    rcases earlier.closed number socket found closed with ⟨between, stands, closedToo⟩
    exact later.closed number between stands closedToo
  length := Nat.le_trans earlier.length later.length
  single none := by
    rw [mem_append, not_or] at none
    rw [later.single none.2, earlier.single none.1]
  running history same := by
    rw [← append_assoc]
    exact later.running _ (earlier.running history same)
  received := later.received.trans earlier.received

theorem Performed.of_send (frame : ClientFrame) (rooms : OrderedSet String) {call : StreamCall}
    (sound : Sound stream →
      Sound (SupremeStream.send frame { stream with subscribedRooms := rooms }))
    (marks : marksRunning call = none) :
    Performed stream [call]
      (SupremeStream.send frame { stream with subscribedRooms := rooms }) where
  sound := sound
  ws _ _ own := by
    rw [ws_send] at own
    exact own
  unarmed none := by rw [reconnectTimers_send]; exact none
  closed number socket found closed := by
    refine ⟨if stream.ws = some number then WebSocketLike.send frame socket else socket, ?_, ?_⟩
    · rw [getElem?_send]
      by_cases own : stream.ws = some number <;> simp [own, found]
    · by_cases own : stream.ws = some number <;>
        simp [own, closed, WebSocketLike.send, WebSocketLike.isOpen]
  length := Nat.le_of_eq (by rw [length_sockets_send])
  single _ := by rw [length_sockets_send]
  running history same := by
    rw [reconnectEnabled_send, SupremeStream.running, latest_concat_of_none marks]
    exact same
  received := by rw [received_send]

theorem Performed.connect (disabled : stream.reconnectEnabled = false) :
    Performed stream [.connect] stream.connect where
  sound sound := sound.connect disabled
  ws number within own := absurd (Option.some.inj own) (Nat.ne_of_gt within)
  unarmed := id
  closed number socket found closed := by
    refine ⟨socket, ?_, closed⟩
    have older := Cells.lt_of_getElem? found
    rw [SupremeStream.connect, openSocket, Cells.getElem?_concat, if_neg (Nat.ne_of_lt older)]
    exact found
  length := by simp [SupremeStream.connect, openSocket]
  single none := absurd (.head _) none
  running history _ := by
    rw [SupremeStream.running, latest_concat]
    rfl
  received := rfl

theorem Performed.close : Performed stream [.close] stream.close where
  sound := Sound.close
  ws _ _ own := by cases own
  unarmed none := by
    rw [SupremeStream.close]
    cases stream.reconnectTimer <;> simp [Timers.clearField, Timers.clear, none]
  closed number socket found closed := by
    rw [SupremeStream.close]
    cases stream.ws with
    | none => exact ⟨socket, found, closed⟩
    | some current =>
      exact closed_changeSocket found current (fun socket => { socket with closing := true })
        (fun _ => id) closed
  length := by
    rw [SupremeStream.close]
    cases stream.ws with
    | none => exact Nat.le_refl _
    | some current => exact Nat.le_of_eq (length_changeSocket ..).symm
  single _ := by
    rw [SupremeStream.close]
    cases stream.ws with
    | none => rfl
    | some current => exact length_changeSocket ..
  running history _ := by
    rw [SupremeStream.running, latest_concat]
    rfl
  received := by
    rw [SupremeStream.close]
    cases stream.ws <;> rfl

theorem performed {call : StreamCall} {after : SupremeStream}
    (taken : stream.perform call = some after) : Performed stream [call] after := by
  cases call with
  | connect =>
    rw [perform] at taken
    split at taken
    · cases taken
    · rename_i disabled
      cases taken
      exact .connect (Bool.eq_false_iff.mpr disabled)
  | close =>
    cases taken
    exact .close
  | subscribe rooms =>
    cases taken
    exact .of_send (.subscribe rooms) _ (Sound.subscribe · rooms) rfl
  | unsubscribe rooms =>
    cases taken
    exact .of_send (.unsubscribe rooms) _ (Sound.unsubscribe · rooms) rfl
  | ping =>
    cases taken
    exact .of_send .ping stream.subscribedRooms Sound.ping rfl

theorem performedAll {calls : List StreamCall} {after : SupremeStream}
    (taken : calls.foldlM perform stream = some after) : Performed stream calls after := by
  induction calls generalizing stream with
  | nil =>
    cases taken
    exact .nil
  | cons call rest ih =>
    rcases bind_eq_some_iff.mp taken with ⟨middle, first, later⟩
    exact (performed first).trans (ih later)

/-- The client is sound, and connects if it was started and not stopped since. -/
structure ConfigSound (config : SupremeStream × List StreamCall) : Prop where
  sound : Sound config.1
  running : running config.2 = config.1.reconnectEnabled

variable {before after : SupremeStream} {history : List StreamCall}

theorem sound_closed {calls : List StreamCall} {middle : SupremeStream} (sound : Sound before)
    (found : before.sockets[number]? = some socket) (alive : socket.closed = false)
    (taken : calls.foldlM perform (before.onClose number) = some middle)
    (inTime : middle.reconnectEnabled = true → middle.ws = some number) :
    Sound middle.scheduleReconnect := by
  have done := performedAll taken
  have closed : ∃ later : WebSocketLike, middle.sockets[number]? = some later ∧
      later.closed = true := by
    refine done.closed number { socket with closed := true } ?_ rfl
    rw [SupremeStream.onClose]
    dsimp only
    rw [getElem?_changeSocket, if_pos rfl, found]
    rfl
  by_cases enabled : middle.reconnectEnabled = true
  · rcases closed with ⟨later, stands, gone⟩
    have own := inTime enabled
    have within : number < (before.onClose number).sockets.length :=
      (length_changeSocket ..).symm ▸ Cells.lt_of_getElem? found
    have mine : before.ws = some number := done.ws number within own
    have unarmed : before.reconnectTimers.armed = [] := by
      by_contra armed
      rcases (sound.timer armed).2 with ⟨place, other, waits, standing, gone⟩
      cases mine.symm.trans waits
      rw [← Option.some.inj (found.symm.trans standing), alive] at gone
      exact Bool.noConfusion gone
    exact (done.sound sound.onClose).scheduleReconnect (done.unarmed unarmed) fun _ =>
      ⟨number, later, own, stands, gone⟩
  · rw [SupremeStream.scheduleReconnect, if_neg enabled]
    exact done.sound sound.onClose

section Steps

theorem step_opened (taken : before.step (.opened number) = some after) :
    ∃ socket : WebSocketLike, before.sockets[number]? = some socket ∧ socket.opened = false ∧
      after = before.onOpen number := by
  simp only [step] at taken
  split at taken
  · rename_i socket found
    split at taken
    · cases taken
    · rename_i fresh
      exact ⟨socket, found, by simp_all, (Option.some.inj taken).symm⟩
  · cases taken

theorem step_closed {calls : List StreamCall}
    (taken : before.step (.closed number calls) = some after) :
    ∃ (socket : WebSocketLike) (middle : SupremeStream), before.sockets[number]? = some socket ∧
      socket.closed = false ∧ calls.foldlM perform (before.onClose number) = some middle ∧
      after = middle.scheduleReconnect := by
  simp only [step] at taken
  split at taken
  · rename_i socket found
    split at taken
    · cases taken
    · rename_i alive
      rcases map_eq_some_iff.mp taken with ⟨middle, made, same⟩
      exact ⟨socket, middle, found, Bool.eq_false_iff.mpr alive, made, same.symm⟩
  · cases taken

theorem step_message {frame : ServerFrame}
    (taken : before.step (.message number frame) = some after) :
    ∃ (socket : WebSocketLike) (received : List Nat), before.sockets[number]? = some socket ∧
      socket.closed = false ∧ after = { before with received := received } := by
  simp only [step] at taken
  split at taken
  · rename_i socket found
    split at taken
    · rename_i live
      rw [← Option.some.inj taken]
      have alive : socket.closed = false := by simp_all
      cases frame with
      | other => exact ⟨socket, before.received, found, alive, rfl⟩
      | state | ack | notification | driver => exact ⟨socket, _, found, alive, rfl⟩
    · cases taken
  · cases taken

theorem step_reconnectTimer {handle : Nat}
    (taken : before.step (.reconnectTimer handle) = some after) :
    handle ∈ before.reconnectTimers.armed ∧ after = before.onReconnectTimer handle := by
  simp only [step] at taken
  split at taken
  · rename_i armed
    exact ⟨armed, (Option.some.inj taken).symm⟩
  · cases taken

theorem step_stableTimer {handle : Nat} (taken : before.step (.stableTimer handle) = some after) :
    after = before.onStableTimer handle := by
  simp only [step] at taken
  split at taken
  · exact (Option.some.inj taken).symm
  · cases taken

end Steps

theorem configSound_step {config next : SupremeStream × List StreamCall} {label : StreamLabel}
    (sound : ConfigSound config) (inTime : InTime config label)
    (taken : machine.step config label = some next) : ConfigSound next := by
  rcases config with ⟨before, history⟩
  rcases Machine.step_recording_eq_some.mp taken with ⟨after, stepped, rfl⟩
  rcases sound with ⟨sound, running⟩
  have kept {later : SupremeStream} (same : later.reconnectEnabled = before.reconnectEnabled) :
      SupremeStream.running (history ++ []) = later.reconnectEnabled := by
    rw [append_nil, same]
    exact running
  cases label with
  | call call =>
    have done := performed stepped
    exact ⟨done.sound sound, done.running history running⟩
  | opened number =>
    rcases step_opened stepped with ⟨socket, found, unopened, rfl⟩
    refine ⟨sound.onOpen found unopened, kept ?_⟩
    rw [SupremeStream.onOpen]
    split <;> simp [changeSocket]
  | closed number calls =>
    rcases step_closed stepped with ⟨socket, middle, found, alive, made, rfl⟩
    refine ⟨sound_closed sound found alive made (inTime middle made), ?_⟩
    refine ((performedAll made).running history running).trans ?_
    rw [SupremeStream.scheduleReconnect]
    split <;> rfl
  | message number frame =>
    rcases step_message stepped with ⟨socket, received, -, -, rfl⟩
    exact ⟨sound.stable _ _ _ _, kept rfl⟩
  | reconnectTimer handle =>
    rcases step_reconnectTimer stepped with ⟨armed, rfl⟩
    exact ⟨sound.onReconnectTimer armed, kept rfl⟩
  | stableTimer handle =>
    obtain rfl := step_stableTimer stepped
    exact ⟨sound.stable _ _ _ _, kept rfl⟩

theorem staysSingle_step {config next : SupremeStream × List StreamCall} {label : StreamLabel}
    (sound : ConfigSound config) (inTime : InTime config label)
    (taken : machine.step config label = some next) : StaysSingle config label next := by
  rcases config with ⟨before, history⟩
  rcases Machine.step_recording_eq_some.mp taken with ⟨after, stepped, rfl⟩
  constructor
  · rintro number frame rfl -
    rcases step_message stepped with ⟨socket, received, found, alive, -⟩
    by_cases closing : socket.closing = true
    · exact inTime socket found closing
    · have own : before.ws = some number := by
        by_contra apart
        rcases sound.sound.others number socket found apart with up | gone
        · exact closing up
        · exact Bool.noConfusion (alive.symm.trans gone)
      exact (sound.sound.current number own).1
  · intro stopped none
    have disabled : before.reconnectEnabled = false := sound.running.symm.trans stopped
    cases label with
    | call call => exact (performed stepped).single none
    | opened number =>
      rcases step_opened stepped with ⟨socket, -, -, rfl⟩
      rw [SupremeStream.onOpen]
      split <;> simp
    | closed number calls =>
      rcases step_closed stepped with ⟨socket, middle, -, -, made, rfl⟩
      have same := ((performedAll made).single none).trans (length_changeSocket ..)
      rw [SupremeStream.scheduleReconnect]
      split <;> exact same
    | message number frame =>
      rcases step_message stepped with ⟨socket, received, -, -, rfl⟩
      rfl
    | reconnectTimer handle =>
      have armed := (step_reconnectTimer stepped).1
      rw [(sound.sound.stopped disabled).2] at armed
      exact absurd armed not_mem_nil
    | stableTimer handle =>
      obtain rfl := step_stableTimer stepped
      rfl

/-- A client that hears of no socket it has left keeps one socket and its rooms. -/
theorem stream_oneSocket (labels : List StreamLabel)
    (inTime : machine.Guarded InTime (constructed, []) labels) :
    machine.Throughout (fun config => OneSocket config.1) (constructed, []) labels ∧
      machine.EachStep StaysSingle (constructed, []) labels := by
  have initial : ConfigSound (constructed, []) := by
    refine ⟨?_, rfl⟩
    constructor <;> simp [constructed]
  have preserved := fun config label next sound met taken =>
    @configSound_step config next label sound met taken
  constructor
  · exact (Machine.throughout_of_guarded preserved initial inTime).mono fun _ sound =>
      sound.sound.oneSocket
  · exact Machine.eachStep_of_guarded preserved
      (fun config label next sound met taken => staysSingle_step sound met taken) initial inTime

/-- A drop, a stop that the socket hears of while the client is stopped, and a new start. -/
def restarted : List StreamLabel := [.call (.subscribe ["home"]), .call .connect, .opened 0,
  .message 0 .state, .closed 0 [], .reconnectTimer 0, .opened 1, .call (.unsubscribe ["home"]),
  .call .close, .closed 1 [], .call .connect, .opened 2, .message 2 .driver]

theorem stream_oneSocket_restarted :
    machine.Throughout (fun config => OneSocket config.1) (constructed, []) restarted ∧
      machine.EachStep StaysSingle (constructed, []) restarted := by
  apply stream_oneSocket
  decide +kernel

/-- A close that comes in after the next connect arms a timer beside a live socket. -/
theorem stream_oneSocket_fails_closedLate : ¬∀ labels : List StreamLabel,
      machine.Throughout (fun config => OneSocket config.1) (constructed, []) labels ∧
        machine.EachStep StaysSingle (constructed, []) labels := by
  intro every
  let labels : List StreamLabel := [.call .connect, .opened 0, .call .close, .call .connect,
    .opened 1, .closed 0 [], .reconnectTimer 0]
  have observed : (machine.run (constructed, []) labels).map (fun config =>
      config.1.sockets) = some [⟨true, true, true, []⟩, ⟨true, false, false, []⟩, .created] := by
    decide +kernel
  rcases map_eq_some_iff.mp observed with ⟨final, reached, sockets⟩
  have single := (Machine.property_of_throughout (every labels).1 reached).one 1 2
    ⟨true, false, false, []⟩ .created (by rw [sockets]; rfl) (by rw [sockets]; rfl) rfl rfl rfl rfl
  exact absurd single (by decide)

end SupremeStream

end SupremeOs.SdkTs
