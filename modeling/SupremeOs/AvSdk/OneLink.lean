import SupremeOs.AvSdk.TcpLineTransport

/-!
# One socket for each link

As long as no reconnect timer goes off while its link has a socket already, and
no connection delivers text to a buffer that still holds the unfinished line of
another one, every key has one open socket at most, a link is ready only while
its own socket is connected, a key that was released has no open socket, and
every line came on one connection.

A command that opens a socket does not stop the timer that is to open one, and
a link that gets a new socket keeps its buffer.
-/

namespace SupremeOs.AvSdk

open Support OrderedMap Option

namespace TcpLineTransport

structure OneLink (transport : TcpLineTransport) : Prop where
  one : ∀ (first second : Nat) (socket other : Socket),
    transport.sockets[first]? = some socket → transport.sockets[second]? = some other →
    socket.key = other.key → socket.isOpen = true → other.isOpen = true → first = second
  /-- A socket is connected from its `connect` to its `close`. -/
  ready : ∀ key link, transport.linkOf key = some link → link.ready = true →
    ∃ (current : Nat) (socket : Socket), link.socket = some current ∧
      transport.sockets[current]? = some socket ∧ socket.connected = true ∧ socket.closed = false
  released : ∀ (number : Nat) (socket : Socket), transport.sockets[number]? = some socket →
    transport.links.get socket.key = none → socket.isOpen = false
  lines : ∀ event ∈ transport.lines, ∃ number, ∀ character ∈ event.line, character.socket = number

/-- Whether a call gives up a key. -/
def releases (key : String) : TransportLabel → Bool
  | .releaseKey other => other == key
  | .disconnectAll => true
  | .ensureLink _ _ _ _ | .connect _ | .data _ _ | .error _ | .lost _ | .close _
  | .reconnectTimer _ _ => false

def LeavesNone (_ : TcpLineTransport) (label : TransportLabel) (after : TcpLineTransport) : Prop :=
  ∀ key, releases key label = true →
    ∀ (number : Nat) (socket : Socket), after.sockets[number]? = some socket →
      socket.key = key → socket.isOpen = false

/--
A reconnect timer makes a socket only for a link that has none, and a chunk
comes when the buffer of the link holds nothing that came on another socket.
-/
def Orderly (transport : TcpLineTransport) : TransportLabel → Prop
  | .reconnectTimer number made => made = true → transport.hasSocket number = false
  | .data number _ =>
    ∀ socket ∈ transport.sockets[number]?, ∀ link ∈ transport.linkOf socket.key,
      ∀ character ∈ link.buffer, character.socket = number
  | .ensureLink _ _ _ _ | .releaseKey _ | .disconnectAll | .connect _ | .error _ | .lost _
  | .close _ => True

instance (transport : TcpLineTransport) : ∀ label, Decidable (Orderly transport label) := by
  intro label
  unfold Orderly
  split <;> infer_instance

structure Sound (transport : TcpLineTransport) : Prop where
  pooled : ∀ key number, transport.links.get key = some number →
    ∃ link : TcpLink, transport.linkObjects[number]? = some link ∧ link.key = key
  /-- An open socket is the one of the link of its key. -/
  owned : ∀ (number : Nat) (socket : Socket), transport.sockets[number]? = some socket →
    socket.isOpen = true → transport.links.get socket.key = some socket.link ∧
      ∃ link : TcpLink, transport.linkObjects[socket.link]? = some link ∧ link.socket = some number
  ready : ∀ (number : Nat) (link : TcpLink), transport.linkObjects[number]? = some link →
    transport.links.get link.key = some number → link.ready = true →
    ∃ (current : Nat) (socket : Socket), link.socket = some current ∧
      transport.sockets[current]? = some socket ∧ socket.key = link.key ∧
      socket.connected = true ∧ socket.closed = false
  /-- A timer is set for a link of the pool. -/
  timer : ∀ (number : Nat) (link : TcpLink), transport.linkObjects[number]? = some link →
    link.reconnect.timer.isSome = true → transport.links.get link.key = some number
  lines : ∀ event ∈ transport.lines, ∃ number, ∀ character ∈ event.line, character.socket = number

variable {transport : TcpLineTransport} {number place : Nat} {link : TcpLink} {socket : Socket}
variable {key : String}

theorem linkOf_eq_some_iff : transport.linkOf key = some link ↔
      ∃ number, transport.links.get key = some number ∧
        transport.linkObjects[number]? = some link :=
  Option.bind_eq_some_iff

theorem Sound.oneLink (sound : Sound transport) : OneLink transport where
  one first second socket other found foundToo same isOpen openToo := by
    rcases sound.owned first socket found isOpen with ⟨mine, link, stands, holds⟩
    rcases sound.owned second other foundToo openToo with ⟨theirs, linkToo, standsToo, holdsToo⟩
    rw [same] at mine
    rw [← some.inj (mine.symm.trans theirs)] at standsToo
    cases stands.symm.trans standsToo
    exact some.inj (holds.symm.trans holdsToo)
  ready key link pooled := by
    rcases linkOf_eq_some_iff.mp pooled with ⟨number, kept, stands⟩
    rcases sound.pooled key number kept with ⟨same, standsToo, rfl⟩
    cases stands.symm.trans standsToo
    intro isReady
    rcases sound.ready number link stands kept isReady with
      ⟨current, socket, holds, found, -, up, live⟩
    exact ⟨current, socket, holds, found, up, live⟩
  released number socket found none := by
    by_contra isOpen
    have kept := (sound.owned number socket found (Bool.not_eq_false _ ▸ isOpen)).1
    rw [none] at kept
    cases kept
  lines := sound.lines

variable {change : TcpLink → TcpLink}

theorem exists_of_getElem?_changeLink {after : TcpLink}
    (found : (transport.changeLink place change).linkObjects[number]? = some after) :
    ∃ before, transport.linkObjects[number]? = some before ∧
      after = if place = number then change before else before := by
  rw [changeLink, Cells.getElem?_modify] at found
  split at found
  · rename_i same
    rcases Option.map_eq_some_iff.mp found with ⟨before, was, rfl⟩
    exact ⟨before, was, (if_pos same).symm⟩
  · rename_i other
    exact ⟨after, found, (if_neg other).symm⟩

theorem getElem?_changeLink (found : transport.linkObjects[number]? = some link) :
    (transport.changeLink place change).linkObjects[number]? =
      some (if place = number then change link else link) := by
  rw [changeLink, Cells.getElem?_modify, found]
  split <;> rfl

theorem Sound.changeLink (sound : Sound transport) (key : ∀ link, (change link).key = link.key)
    (socket : ∀ link, (change link).socket = link.socket)
    (ready : ∀ link : TcpLink, transport.linkObjects[place]? = some link →
      (change link).ready = true → link.ready = true ∨
        ∃ (current : Nat) (socket : Socket), link.socket = some current ∧
          transport.sockets[current]? = some socket ∧ socket.key = link.key ∧
          socket.connected = true ∧ socket.closed = false)
    (timer : ∀ link : TcpLink, transport.linkObjects[place]? = some link →
      (change link).reconnect.timer.isSome = true →
      link.reconnect.timer.isSome = true ∨ transport.links.get link.key = some place) :
    Sound (transport.changeLink place change) where
  pooled key number kept := by
    rcases sound.pooled key number kept with ⟨link, stands, rfl⟩
    refine ⟨_, getElem?_changeLink stands, ?_⟩
    split
    · exact key link
    · rfl
  owned number other found isOpen := by
    rcases sound.owned number other found isOpen with ⟨kept, link, stands, holds⟩
    refine ⟨kept, _, getElem?_changeLink stands, ?_⟩
    split
    · exact (socket link).trans holds
    · exact holds
  ready number after stands kept isReady := by
    rcases exists_of_getElem?_changeLink stands with ⟨before, was, rfl⟩
    split at isReady
    · rename_i same
      subst same
      rw [if_pos rfl, key] at kept
      rw [if_pos rfl, socket, key]
      rcases ready before was isReady with already | now
      · exact sound.ready place before was kept already
      · exact now
    · rename_i other
      rw [if_neg other] at kept ⊢
      exact sound.ready number before was kept isReady
  timer number after stands armed := by
    rcases exists_of_getElem?_changeLink stands with ⟨before, was, rfl⟩
    split at armed
    · rename_i same
      subst same
      rw [if_pos rfl, key]
      rcases timer before was armed with already | now
      · exact sound.timer place before was already
      · exact now
    · rename_i other
      rw [if_neg other]
      exact sound.timer number before was armed
  lines := sound.lines

theorem Sound.unarmed (sound : Sound transport) {change : ReconnectScheduler → ReconnectScheduler}
    (none : ∀ scheduler, (change scheduler).timer = none) :
    Sound (transport.changeLink place fun link =>
      { link with reconnect := change link.reconnect }) :=
  sound.changeLink (fun _ => rfl) (fun _ => rfl) (fun _ _ => .inl) fun link _ armed => by
    rw [none] at armed
    cases armed

theorem Sound.unready (sound : Sound transport) :
    Sound (transport.changeLink place fun link => { link with ready := false }) :=
  sound.changeLink (fun _ => rfl) (fun _ => rfl) (fun _ _ ready => by cases ready)
    fun _ _ => .inl

theorem exists_of_getElem?_changeSocket {change : Socket → Socket} {after : Socket}
    (found : (transport.changeSocket place change).sockets[number]? = some after) :
    ∃ before, transport.sockets[number]? = some before ∧
      after = if place = number then change before else before := by
  rw [changeSocket, Cells.getElem?_modify] at found
  split at found
  · rename_i same
    rcases Option.map_eq_some_iff.mp found with ⟨before, was, rfl⟩
    exact ⟨before, was, (if_pos same).symm⟩
  · rename_i other
    exact ⟨after, found, (if_neg other).symm⟩

theorem getElem?_changeSocket {change : Socket → Socket}
    (found : transport.sockets[number]? = some socket) :
    (transport.changeSocket place change).sockets[number]? =
      some (if place = number then change socket else socket) := by
  rw [changeSocket, Cells.getElem?_modify, found]
  split <;> rfl

theorem Sound.changeSocket (sound : Sound transport) {change : Socket → Socket}
    (key : ∀ socket, (change socket).key = socket.key)
    (link : ∀ socket, (change socket).link = socket.link)
    (isOpen : ∀ socket, (change socket).isOpen = true → socket.isOpen = true)
    (connected : ∀ socket, socket.connected = true → (change socket).connected = true)
    (closed : ∀ socket, (change socket).closed = socket.closed ∨
      ∀ (number : Nat) (link : TcpLink), transport.linkObjects[number]? = some link →
        transport.links.get link.key = some number → link.ready = true → link.socket ≠ some place) :
    Sound (transport.changeSocket place change) where
  pooled := sound.pooled
  owned number after found stillOpen := by
    rcases exists_of_getElem?_changeSocket found with ⟨before, was, rfl⟩
    split at stillOpen
    · rename_i same
      rw [if_pos same, key, link]
      exact sound.owned number before was (isOpen before stillOpen)
    · rename_i other
      rw [if_neg other]
      exact sound.owned number before was stillOpen
  ready number holder stands kept isReady := by
    rcases sound.ready number holder stands kept isReady with
      ⟨current, own, holds, found, same, up, live⟩
    refine ⟨current, _, holds, getElem?_changeSocket found, ?_, ?_, ?_⟩
    · split
      · exact (key own).trans same
      · exact same
    · split
      · exact connected own up
      · exact up
    · split
      · rename_i same
        subst same
        rcases closed own with kept | apart
        · exact kept.trans live
        · exact absurd holds (apart number holder stands kept isReady)
      · exact live
  timer := sound.timer
  lines := sound.lines

theorem Sound.destroy (sound : Sound transport) :
    Sound (transport.changeSocket place fun socket => { socket with destroyed := true }) :=
  sound.changeSocket (fun _ => rfl) (fun _ => rfl) (fun _ isOpen => by cases isOpen)
    (fun _ => id) fun _ => .inl rfl

section Open

variable {host : String} {port : Nat} {made : Bool}

theorem exists_of_getElem?_openSocket {after : TcpLink}
    (found : (transport.openSocket place key host port true).linkObjects[number]? = some after) :
    ∃ before, transport.linkObjects[number]? = some before ∧ after = if place = number then
        { before with ready := false, socket := some transport.sockets.length } else before := by
  rcases exists_of_getElem?_changeLink found with ⟨between, stands, rfl⟩
  rcases exists_of_getElem?_changeLink stands with ⟨before, was, rfl⟩
  refine ⟨before, was, ?_⟩
  split <;> rfl

theorem getElem?_openSocket (found : transport.linkObjects[number]? = some link) :
    (transport.openSocket place key host port true).linkObjects[number]? =
      some (if place = number then
        { link with ready := false, socket := some transport.sockets.length } else link) := by
  have unready := @getElem?_changeLink transport number place link
    (fun link => { link with ready := false }) found
  refine (getElem?_changeLink unready).trans (congrArg some ?_)
  split <;> rfl

theorem Sound.openSocket (sound : Sound transport) (pooled : transport.links.get key = some place)
    (none : made = true → ∀ (number : Nat) (socket : Socket),
      transport.sockets[number]? = some socket → socket.isOpen = true → socket.key ≠ key) :
    Sound (transport.openSocket place key host port made) := by
  cases made with
  | false => exact sound.unready
  | true =>
    rcases sound.pooled key place pooled with ⟨own, standing, same⟩
    constructor
    · intro query number kept
      rcases sound.pooled query number kept with ⟨link, stands, rfl⟩
      refine ⟨_, getElem?_openSocket stands, ?_⟩
      split <;> rfl
    · intro number socket found isOpen
      have found' : (transport.sockets ++ [_])[number]? = some socket := found
      rw [Cells.getElem?_concat] at found'
      split at found'
      · rename_i last
        subst last
        cases found'
        refine ⟨pooled, _, getElem?_openSocket standing, ?_⟩
        rw [if_pos rfl]
      · rcases sound.owned number socket found' isOpen with ⟨kept, link, stands, holds⟩
        refine ⟨kept, _, getElem?_openSocket stands, ?_⟩
        rw [if_neg]
        · exact holds
        · rintro rfl
          rcases sound.pooled socket.key socket.link kept with ⟨link', standing', same'⟩
          cases standing.symm.trans standing'
          exact none rfl number socket found' isOpen (same'.symm.trans same)
    · intro number after stands kept isReady
      rcases exists_of_getElem?_openSocket stands with ⟨before, was, rfl⟩
      split at isReady
      · cases isReady
      · rename_i other
        rw [if_neg other] at kept ⊢
        rcases sound.ready number before was kept isReady with
          ⟨current, socket, holds, found, same, up, live⟩
        refine ⟨current, socket, holds, ?_, same, up, live⟩
        have within := Cells.lt_of_getElem? found
        refine (Cells.getElem?_concat ..).trans ?_
        rw [if_neg (Nat.ne_of_lt within)]
        exact found
    · intro number after stands armed
      rcases exists_of_getElem?_openSocket stands with ⟨before, was, rfl⟩
      split at armed
      · rename_i mine
        rw [if_pos mine]
        exact sound.timer number before was armed
      · rename_i other
        rw [if_neg other]
        exact sound.timer number before was armed
    · exact sound.lines

theorem Sound.none_of_hasSocket (sound : Sound transport)
    (pooled : transport.links.get key = some place) (none : transport.hasSocket place = false)
    (number : Nat) (socket : Socket) (found : transport.sockets[number]? = some socket)
    (isOpen : socket.isOpen = true) : socket.key ≠ key := by
  rintro rfl
  rcases sound.owned number socket found isOpen with ⟨kept, link, stands, holds⟩
  cases pooled.symm.trans kept
  have alive : socket.destroyed = false := by
    rw [Socket.isOpen, Bool.and_eq_true] at isOpen
    simpa using isOpen.1
  simp [hasSocket, stands, holds, found, alive] at none

theorem Sound.ensureLink (sound : Sound transport) :
    Sound (transport.ensureLink key host port made) := by
  rw [TcpLineTransport.ensureLink]
  split
  · rename_i place pooled
    split
    · exact sound
    · rename_i none
      exact sound.openSocket pooled fun _ =>
        sound.none_of_hasSocket pooled (Bool.eq_false_iff.mpr none)
  · rename_i absent
    have idle (number : Nat) (socket : Socket) (found : transport.sockets[number]? = some socket)
        (isOpen : socket.isOpen = true) : socket.key ≠ key := by
      rintro rfl
      have kept := (sound.owned number socket found isOpen).1
      rw [absent] at kept
      cases kept
    have older {number : Nat} {link : TcpLink}
        (stands : transport.linkObjects[number]? = some link) :
        (transport.linkObjects ++ [⟨none, false, [], .constructed, key, host, port⟩])[number]? =
          some link := by
      rw [Cells.getElem?_concat, if_neg (Nat.ne_of_lt (Cells.lt_of_getElem? stands))]
      exact stands
    refine Sound.openSocket ?_ (by rw [get_set, if_pos rfl]) fun _ => idle
    constructor
    · intro query number kept
      dsimp only at kept
      rw [get_set] at kept
      split at kept
      · rename_i same
        cases kept
        exact ⟨_, (Cells.getElem?_concat ..).trans (if_pos rfl), same.symm⟩
      · rcases sound.pooled query number kept with ⟨link, stands, same⟩
        exact ⟨link, older stands, same⟩
    · intro number socket found isOpen
      rcases sound.owned number socket found isOpen with ⟨kept, link, stands, holds⟩
      refine ⟨?_, link, older stands, holds⟩
      rw [get_set, if_neg (idle number socket found isOpen)]
      exact kept
    · intro number link stands kept isReady
      dsimp only at stands kept
      rw [Cells.getElem?_concat] at stands
      split at stands
      · cases stands
        cases isReady
      · rename_i old
        rw [get_set] at kept
        split at kept
        · exact absurd (some.inj kept).symm old
        · exact sound.ready number link stands kept isReady
    · intro number link stands armed
      dsimp only at stands
      rw [Cells.getElem?_concat] at stands
      split at stands
      · cases stands
        cases armed
      · have kept := sound.timer number link stands armed
        rw [get_set, if_neg]
        · exact kept
        · rintro same
          rw [same, absent] at kept
          cases kept
    · exact sound.lines

end Open

def IsStopped (number : Nat) (transport : TcpLineTransport) : Prop :=
  ∀ link : TcpLink, transport.linkObjects[number]? = some link → link.reconnect.timer = none ∧
      ∀ current, link.socket = some current →
        ∀ socket : Socket, transport.sockets[current]? = some socket → socket.isOpen = false

theorem Sound.tearDown (sound : Sound transport) : Sound (transport.tearDown place) := by
  have stopped : Sound (transport.changeLink place fun link =>
      { link with reconnect := link.reconnect.stop }) := sound.unarmed fun _ => rfl
  rw [TcpLineTransport.tearDown]
  split
  · exact stopped.destroy
  · exact stopped

theorem links_tearDown : (transport.tearDown place).links = transport.links := by
  rw [tearDown]
  split <;> rfl

theorem exists_of_getElem?_tearDown {after : TcpLink}
    (found : (transport.tearDown place).linkObjects[number]? = some after) :
    ∃ before, transport.linkObjects[number]? = some before ∧ after.socket = before.socket ∧
      (place = number → after.reconnect.timer = none) ∧
      (before.reconnect.timer = none → after.reconnect.timer = none) := by
  have changed : (transport.changeLink place fun link =>
      { link with reconnect := link.reconnect.stop }).linkObjects[number]? = some after := by
    rw [tearDown] at found
    split at found <;> exact found
  rcases exists_of_getElem?_changeLink changed with ⟨before, was, rfl⟩
  refine ⟨before, was, ?_⟩
  split
  · exact ⟨rfl, fun _ => rfl, fun _ => rfl⟩
  · rename_i other
    exact ⟨rfl, fun same => absurd same other, id⟩

theorem exists_of_sockets_tearDown {after : Socket}
    (found : (transport.tearDown place).sockets[number]? = some after) :
    ∃ before, transport.sockets[number]? = some before ∧
      (after.isOpen = true → before.isOpen = true ∧
        transport.linkObjects[place]?.bind TcpLink.socket ≠ some number) := by
  rw [tearDown] at found
  split at found
  · rename_i current own
    rcases exists_of_getElem?_changeSocket found with ⟨before, was, rfl⟩
    refine ⟨before, was, fun isOpen => ?_⟩
    split at isOpen
    · cases isOpen
    · rename_i other
      refine ⟨isOpen, fun mine => other ?_⟩
      exact some.inj (own.symm.trans mine)
  · rename_i none
    refine ⟨after, found, fun isOpen => ⟨isOpen, fun mine => ?_⟩⟩
    rw [none] at mine
    cases mine

theorem isStopped_tearDown : IsStopped place (transport.tearDown place) := by
  intro link stands
  rcases exists_of_getElem?_tearDown stands with ⟨before, was, same, unarmed, -⟩
  refine ⟨unarmed rfl, fun current holds socket found => ?_⟩
  rcases exists_of_sockets_tearDown found with ⟨earlier, -, isOpen⟩
  by_contra alive
  refine (isOpen (Bool.not_eq_false _ ▸ alive)).2 ?_
  rw [was]
  exact same.symm.trans holds

theorem IsStopped.tearDown (stopped : IsStopped number transport) :
    IsStopped number (transport.tearDown place) := by
  intro link stands
  rcases exists_of_getElem?_tearDown stands with ⟨before, was, same, -, unarmed⟩
  rcases stopped before was with ⟨none, gone⟩
  refine ⟨unarmed none, fun current holds socket found => ?_⟩
  rcases exists_of_sockets_tearDown found with ⟨earlier, stood, isOpen⟩
  have dead := gone current (same.symm.trans holds) earlier stood
  by_contra alive
  rw [(isOpen (Bool.not_eq_false _ ▸ alive)).1] at dead
  cases dead

theorem Sound.forget (sound : Sound transport) {links : OrderedMap String Nat}
    (kept : ∀ key number, links.get key = some number → transport.links.get key = some number)
    (stopped : ∀ key number, transport.links.get key = some number → links.get key = none →
      IsStopped number transport) :
    Sound { transport with links := links } where
  pooled key number found := sound.pooled key number (kept key number found)
  owned number socket found isOpen := by
    rcases sound.owned number socket found isOpen with ⟨was, link, stands, holds⟩
    refine ⟨?_, link, stands, holds⟩
    cases still : links.get socket.key with
    | none =>
      have dead := (stopped socket.key socket.link was still link stands).2 number holds socket
        found
      rw [isOpen] at dead
      cases dead
    | some place => exact (kept socket.key place still).symm.trans was
  ready number link stands found := sound.ready number link stands (kept link.key number found)
  timer number link stands armed := by
    have was := sound.timer number link stands armed
    cases still : links.get link.key with
    | none =>
      rw [(stopped link.key number was still link stands).1] at armed
      cases armed
    | some place => exact (kept link.key place still).symm.trans was
  lines := sound.lines

theorem Sound.releaseKey (sound : Sound transport) : Sound (transport.releaseKey key) := by
  rw [TcpLineTransport.releaseKey]
  split
  · rename_i place pooled
    have links : (transport.tearDown place).links = transport.links := links_tearDown
    rw [← links] at pooled ⊢
    refine sound.tearDown.forget (fun query number found => ?_) fun query number was gone => ?_
    · rw [OrderedMap.get_delete] at found
      split at found
      · cases found
      · exact found
    · rw [OrderedMap.get_delete] at gone
      split at gone
      · rename_i same
        rw [same, pooled] at was
        exact some.inj was ▸ isStopped_tearDown
      · rw [was] at gone
        cases gone
  · exact sound

theorem tornDown (numbers : List Nat) (sound : Sound transport) :
    Sound (numbers.foldl TcpLineTransport.tearDown transport) ∧
      (numbers.foldl TcpLineTransport.tearDown transport).links = transport.links ∧
      ∀ number, number ∈ numbers ∨ IsStopped number transport →
        IsStopped number (numbers.foldl TcpLineTransport.tearDown transport) := by
  induction numbers generalizing transport with
  | nil => exact ⟨sound, rfl, fun _ stopped => stopped.resolve_left List.not_mem_nil⟩
  | cons first rest ih =>
    rcases ih (sound.tearDown : Sound (transport.tearDown first)) with ⟨soundToo, links, stopped⟩
    refine ⟨soundToo, links.trans links_tearDown, fun number either => stopped number ?_⟩
    rcases either with member | already
    · rcases List.mem_cons.mp member with rfl | later
      · exact .inr isStopped_tearDown
      · exact .inl later
    · exact .inr already.tearDown

theorem Sound.disconnectAll (sound : Sound transport) : Sound transport.disconnectAll := by
  rcases tornDown transport.links.values sound with ⟨soundToo, links, stopped⟩
  refine soundToo.forget (fun key number found => ?_) fun key number was _ => ?_
  · rw [OrderedMap.get_empty] at found
    cases found
  · rw [links] at was
    exact stopped number (.inl (mem_values_iff.mpr ⟨key, was⟩))

variable {options : TcpLineTransportOptions}

theorem Sound.onConnect (sound : Sound transport)
    (found : transport.sockets[number]? = some socket) (isOpen : socket.isOpen = true) :
    Sound (transport.onConnect number socket) := by
  have connected : Sound (transport.changeSocket number fun socket =>
      { socket with connected := true }) :=
    sound.changeSocket (fun _ => rfl) (fun _ => rfl) (fun _ => id) (fun _ _ => rfl)
      fun _ => .inl rfl
  rcases sound.owned number socket found isOpen with ⟨kept, owner, standing, holds⟩
  refine connected.changeLink (fun _ => rfl) (fun _ => rfl) (fun link stands _ => ?_)
    fun link _ armed => by cases armed
  have same : link = owner := some.inj (stands.symm.trans standing)
  refine .inr ⟨number, { socket with connected := true }, same ▸ holds, ?_, ?_, rfl, ?_⟩
  · exact (getElem?_changeSocket found).trans (by rw [if_pos rfl])
  · rcases sound.pooled socket.key socket.link kept with ⟨pooled, stood, named⟩
    rw [same, some.inj (standing.symm.trans stood)]
    exact named.symm
  · rw [Socket.isOpen, Bool.and_eq_true] at isOpen
    simpa using isOpen.2

theorem dropped_of_ne (other : link.socket ≠ some number) :
    dropped options number link = link := if_neg other

@[simp]
theorem key_dropped : (dropped options number link).key = link.key := by
  rw [dropped]
  split <;> rfl

theorem of_ready_dropped (ready : (dropped options number link).ready = true) :
    link.socket ≠ some number := by
  intro own
  rw [dropped, if_pos own] at ready
  cases ready

section

variable (sound : Sound transport)

include sound

theorem Sound.dropped (pooled : transport.links.get key = some place)
    (gone : ∀ socket : Socket, transport.sockets[number]? = some socket → socket.isOpen = false) :
    Sound (transport.changeLink place (dropped options number)) where
  pooled query number kept := by
    rcases sound.pooled query number kept with ⟨link, stands, rfl⟩
    refine ⟨_, getElem?_changeLink stands, ?_⟩
    split
    · exact key_dropped
    · rfl
  owned other socket found isOpen := by
    rcases sound.owned other socket found isOpen with ⟨kept, link, stands, holds⟩
    have apart : link.socket ≠ some number := by
      intro own
      cases holds.symm.trans own
      rw [gone socket found] at isOpen
      cases isOpen
    refine ⟨kept, _, getElem?_changeLink stands, ?_⟩
    rw [dropped_of_ne apart, ite_self]
    exact holds
  ready query after stands kept isReady := by
    rcases exists_of_getElem?_changeLink stands with ⟨before, was, rfl⟩
    split at isReady
    · rename_i same
      have unchanged : TcpLineTransport.dropped options number before = before :=
        dropped_of_ne (of_ready_dropped isReady)
      rw [unchanged] at isReady kept ⊢
      rw [ite_self] at kept ⊢
      exact sound.ready query before was kept isReady
    · rename_i other
      rw [if_neg other] at kept ⊢
      exact sound.ready query before was kept isReady
  timer query after stands armed := by
    rcases exists_of_getElem?_changeLink stands with ⟨before, was, rfl⟩
    split at armed
    · rename_i same
      subst same
      rcases sound.pooled key place pooled with ⟨link, standing, rfl⟩
      cases was.symm.trans standing
      rw [if_pos rfl, key_dropped]
      exact pooled
    · rename_i other
      rw [if_neg other]
      exact sound.timer query before was armed
  lines := sound.lines

theorem Sound.closed
    (apart : ∀ (place : Nat) (link : TcpLink), transport.linkObjects[place]? = some link →
      transport.links.get link.key = some place → link.ready = true → link.socket ≠ some number) :
    Sound (transport.changeSocket number fun socket => { socket with closed := true }) :=
  sound.changeSocket (fun _ => rfl) (fun _ => rfl)
    (fun socket isOpen => by simp [Socket.isOpen] at isOpen) (fun _ => id) fun _ => .inr apart

theorem Sound.onClose
    (found : transport.sockets[number]? = some socket) (destroyed : socket.destroyed = true) :
    Sound (transport.onClose options number socket) := by
  have mine {place : Nat} {link : TcpLink} (stands : transport.linkObjects[place]? = some link)
      (kept : transport.links.get link.key = some place) (isReady : link.ready = true)
      (own : link.socket = some number) : transport.links.get socket.key = some place := by
    rcases sound.ready place link stands kept isReady with ⟨current, other, holds, stood, same, -⟩
    cases own.symm.trans holds
    rw [some.inj (found.symm.trans stood), same]
    exact kept
  rw [TcpLineTransport.onClose]
  split
  · rename_i place pooled
    have gone (other : Socket) (stood : transport.sockets[number]? = some other) :
        other.isOpen = false := by
      rw [← some.inj (found.symm.trans stood), Socket.isOpen, destroyed]
      rfl
    have lost : Sound (transport.changeLink place (TcpLineTransport.dropped options number)) :=
      sound.dropped pooled gone
    refine lost.closed ?_
    intro query after stands kept isReady own
    rcases exists_of_getElem?_changeLink stands with ⟨before, was, rfl⟩
    split at isReady
    · rename_i same
      have apart := of_ready_dropped isReady
      rw [if_pos same, dropped_of_ne apart] at own
      exact apart own
    · rename_i other
      rw [if_neg other] at kept own
      exact other (some.inj (pooled.symm.trans (mine was kept isReady own)))
  · rename_i absent
    refine sound.closed fun query link stands kept isReady own => ?_
    have pooled := mine stands kept isReady own
    rw [show transport.links.get socket.key = none from absent] at pooled
    cases pooled

theorem Sound.buffered {buffer : List Received} :
    Sound (transport.changeLink place fun link => { link with buffer := buffer }) :=
  sound.changeLink (fun _ => rfl) (fun _ => rfl) (fun _ _ => .inl) fun _ _ => .inl

theorem Sound.handed {lines : List LineEvent}
    (single : ∀ event ∈ lines, ∃ number, ∀ character ∈ event.line, character.socket = number) :
    Sound { transport with lines := lines } :=
  { sound with lines := single }

theorem Sound.onData {chunk : List UInt16} (found : transport.sockets[number]? = some socket)
    (orderly : Orderly transport (.data number chunk)) :
    Sound (transport.onData options number socket chunk) := by
  rw [TcpLineTransport.onData]
  split
  · rename_i place link pooled own
    dsimp only
    refine sound.buffered.handed fun event member => ?_
    rcases List.mem_append.mp member with before | new
    · exact sound.lines event before
    · rcases List.mem_map.mp new with ⟨line, handed, rfl⟩
      refine ⟨number, fun character inside => ?_⟩
      rcases mem_of_mem_feed_line handed inside with inBuffer | inChunk
      · exact orderly socket found link own character inBuffer
      · rcases List.mem_map.mp inChunk with ⟨unit, -, rfl⟩
        rfl
  · exact sound

theorem Sound.onReconnectTimer {made : Bool} (found : transport.linkObjects[number]? = some link)
    (armed : link.reconnect.timer.isSome = true)
    (orderly : Orderly transport (.reconnectTimer number made)) :
    Sound (transport.onReconnectTimer options number link made) := by
  have pooled := sound.timer number link found armed
  let fired := transport.changeLink number fun link =>
    { link with reconnect := { link.reconnect with timer := none } }
  have unarmed : Sound fired :=
    @Sound.unarmed transport number sound (fun scheduler => { scheduler with timer := none })
      fun _ => rfl
  rw [TcpLineTransport.onReconnectTimer]
  dsimp only
  split
  · exact unarmed
  · split
    · rename_i current kept
      cases pooled.symm.trans kept
      have attempted : Sound (fired.openSocket number link.key link.host link.port made) :=
        unarmed.openSocket pooled fun possible =>
          sound.none_of_hasSocket pooled (orderly possible)
      cases made with
      | true => exact attempted
      | false =>
        refine attempted.changeLink (fun _ => rfl) (fun _ => rfl) (fun _ _ => .inl) ?_
        intro after stands _
        rcases attempted.pooled link.key number pooled with ⟨same, standing, named⟩
        rw [some.inj (stands.symm.trans standing), named]
        exact .inr pooled
    · exact unarmed

end

section Steps

variable {next : TcpLineTransport}

theorem step_connect (taken : transport.step options (.connect number) = some next) :
    ∃ socket : Socket, transport.sockets[number]? = some socket ∧ socket.isOpen = true ∧
      next = transport.onConnect number socket := by
  simp only [step] at taken
  split at taken
  · rename_i socket found
    split at taken
    · rename_i fresh
      exact ⟨socket, found, (Bool.and_eq_true_iff.mp fresh).1, (some.inj taken).symm⟩
    · cases taken
  · cases taken

theorem step_data {chunk : List UInt16}
    (taken : transport.step options (.data number chunk) = some next) :
    ∃ socket : Socket, transport.sockets[number]? = some socket ∧
      next = transport.onData options number socket chunk := by
  simp only [step] at taken
  split at taken
  · rename_i socket found
    split at taken
    · exact ⟨socket, found, (some.inj taken).symm⟩
    · cases taken
  · cases taken

theorem step_error (taken : transport.step options (.error number) = some next) :
    next = transport := by
  simp only [step] at taken
  split at taken
  · split at taken
    · cases taken
    · exact (some.inj taken).symm
  · cases taken

theorem step_lost (taken : transport.step options (.lost number) = some next) :
    next = transport.changeSocket number fun socket => { socket with destroyed := true } := by
  simp only [step] at taken
  split at taken
  · split at taken
    · exact (some.inj taken).symm
    · cases taken
  · cases taken

theorem step_close (taken : transport.step options (.close number) = some next) :
    ∃ socket : Socket, transport.sockets[number]? = some socket ∧ socket.destroyed = true ∧
      next = transport.onClose options number socket := by
  simp only [step] at taken
  split at taken
  · rename_i socket found
    split at taken
    · rename_i ended
      exact ⟨socket, found, (Bool.and_eq_true_iff.mp ended).1, (some.inj taken).symm⟩
    · cases taken
  · cases taken

theorem step_reconnectTimer {made : Bool}
    (taken : transport.step options (.reconnectTimer number made) = some next) :
    ∃ link : TcpLink, transport.linkObjects[number]? = some link ∧
      link.reconnect.timer.isSome = true ∧
      next = transport.onReconnectTimer options number link made := by
  simp only [step] at taken
  split at taken
  · rename_i link found
    split at taken
    · rename_i armed
      exact ⟨link, found, armed, (some.inj taken).symm⟩
    · cases taken
  · cases taken

end Steps

theorem sound_step {next : TcpLineTransport} {label : TransportLabel} (sound : Sound transport)
    (orderly : Orderly transport label)
    (taken : transport.step options label = some next) : Sound next := by
  cases label with
  | ensureLink key host port made =>
    cases taken
    exact sound.ensureLink
  | releaseKey key =>
    cases taken
    exact sound.releaseKey
  | disconnectAll =>
    cases taken
    exact sound.disconnectAll
  | connect number =>
    rcases step_connect taken with ⟨socket, found, isOpen, rfl⟩
    exact sound.onConnect found isOpen
  | data number chunk =>
    rcases step_data taken with ⟨socket, found, rfl⟩
    exact sound.onData found orderly
  | error number =>
    obtain rfl := step_error taken
    exact sound
  | lost number =>
    obtain rfl := step_lost taken
    exact sound.destroy
  | close number =>
    rcases step_close taken with ⟨socket, found, destroyed, rfl⟩
    exact sound.onClose found destroyed
  | reconnectTimer number made =>
    rcases step_reconnectTimer taken with ⟨link, found, armed, rfl⟩
    exact sound.onReconnectTimer found armed orderly

theorem get_of_releases {next : TcpLineTransport} {label : TransportLabel}
    (gives : releases key label = true)
    (taken : transport.step options label = some next) : next.links.get key = none := by
  cases label with
  | releaseKey other =>
    obtain rfl := beq_iff_eq.mp gives
    cases taken
    rw [releaseKey]
    split
    · rw [OrderedMap.get_delete, if_pos rfl]
    · assumption
  | disconnectAll =>
    cases taken
    exact OrderedMap.get_empty key
  | ensureLink | connect | data | error | lost | close | reconnectTimer => cases gives

theorem leavesNone_step {next : TcpLineTransport} {label : TransportLabel}
    (sound : Sound transport) (orderly : Orderly transport label)
    (taken : transport.step options label = some next) : LeavesNone transport label next := by
  intro key gives number socket found same
  apply (sound_step sound orderly taken).oneLink.released number socket found
  rw [same]
  exact get_of_releases gives taken

/-- Links whose timers find them without a socket, and whose buffers start empty, are single. -/
theorem link_oneSocket (options : TcpLineTransportOptions) (labels : List TransportLabel)
    (orderly : (machine options).Guarded Orderly constructed labels) :
    (machine options).Throughout OneLink constructed labels ∧
      (machine options).EachStep LeavesNone constructed labels := by
  have initial : Sound constructed := by
    constructor <;> simp [constructed]
  have preserved := fun before label after sound met taken =>
    @sound_step before options after label sound met taken
  constructor
  · exact (Machine.throughout_of_guarded preserved initial orderly).mono fun _ => Sound.oneLink
  · exact Machine.eachStep_of_guarded preserved
      (fun before label after sound met taken =>
        @leavesNone_step before options after label sound met taken) initial orderly

def carriageReturn : TcpLineTransportOptions := ⟨[13], none, none⟩

/-- A drop between two lines, a command before the timer, a release and a new link. -/
def droppedBetweenLines : List TransportLabel := [.ensureLink "amp" "10.0.0.7" 23 true,
  .connect 0, .data 0 [80, 87], .data 0 [13], .lost 0, .error 0, .close 0,
  .ensureLink "amp" "10.0.0.7" 23 true, .connect 1, .data 1 [77, 13, 86], .releaseKey "amp",
  .ensureLink "amp" "10.0.0.7" 23 false, .ensureLink "amp" "10.0.0.7" 23 true, .close 1,
  .lost 2, .close 2, .reconnectTimer 1 false, .reconnectTimer 1 true, .connect 3,
  .disconnectAll]

theorem link_oneSocket_droppedBetweenLines :
    (machine carriageReturn).Throughout OneLink constructed droppedBetweenLines ∧
      (machine carriageReturn).EachStep LeavesNone constructed droppedBetweenLines := by
  apply link_oneSocket
  decide +kernel

/-- The unfinished line of a lost connection begins the first line of the next one. -/
example : ((machine carriageReturn).run constructed [.ensureLink "amp" "10.0.0.7" 23 true,
    .connect 0, .data 0 [80, 87], .lost 0, .close 0, .reconnectTimer 0 true, .connect 1,
    .data 1 [79, 78, 13]]).map (fun transport => transport.lines.map LineEvent.line) =
    some [[⟨80, 0⟩, ⟨87, 0⟩, ⟨79, 1⟩, ⟨78, 1⟩]] := by
  decide +kernel

/-- A timer that goes off while a command's socket connects makes a second one. -/
theorem link_oneSocket_fails_connecting :
    ¬∀ (options : TcpLineTransportOptions) (labels : List TransportLabel),
      (machine options).Throughout OneLink constructed labels ∧
        (machine options).EachStep LeavesNone constructed labels := by
  intro every
  let labels : List TransportLabel := [.ensureLink "amp" "10.0.0.7" 23 true, .lost 0, .close 0,
    .ensureLink "amp" "10.0.0.7" 23 true, .reconnectTimer 0 true]
  let socket : Socket := ⟨"amp", "10.0.0.7", 23, 0, false, false, false⟩
  have observed : ((machine carriageReturn).run constructed labels).map (fun transport =>
      transport.sockets) = some [⟨"amp", "10.0.0.7", 23, 0, false, true, true⟩,
        socket, socket] := by
    decide +kernel
  rcases Option.map_eq_some_iff.mp observed with ⟨final, reached, sockets⟩
  have single := (Machine.property_of_throughout (every carriageReturn labels).1 reached).one 1 2
    socket socket (by rw [sockets]; rfl) (by rw [sockets]; rfl) rfl rfl rfl
  exact absurd single (by decide)

end TcpLineTransport

end SupremeOs.AvSdk
