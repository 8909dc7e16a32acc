import SupremeOs.Protocols.AppleTvMrpProtobuf

/-!
# Framed transports

Three connections carry payloads in frames: a length in groups of seven bits and
the payload, the same with lengths of 32 bits and a bound on them, and a type
with a length of three bytes.  Each of them keeps what it has received until a
frame is complete.  Nothing is encrypted here.
-/

namespace SupremeOs.Protocols

open Support.Framing Support.Varint
open DomainModel List

namespace AppleTvMrpTransport

open AppleTvMrpProtobuf

def send (payload : List UInt8) : Except MrpError (List UInt8) := do
  let length ← encodeVarint (.finite payload.length)
  return length ++ payload

/-- The body of the loop of `handleData`; it waits for more bytes where this fails. -/
def readFrame : Reader UInt8 (List UInt8) MrpError := andThen decodeVarint readBytes

def handleData : List UInt8 → List UInt8 → Received UInt8 (List UInt8) MrpError :=
  feed readFrame .outOfFuel fun _ => []

end AppleTvMrpTransport

namespace AppleTvCompanionTransport

inductive CompanionError where
  /-- The runtime refuses a number that does not fit into three bytes. -/
  | rangeError
  | waiting

def lengthBE3 (n : Nat) : Except CompanionError (List UInt8) :=
  if 2 ^ 24 ≤ n then .error .rangeError
  else .ok [UInt8.ofNat (n / 2 ^ 16), UInt8.ofNat (n / 2 ^ 8), UInt8.ofNat n]

/-- A frame type and a payload. -/
def send (frame : UInt8 × List UInt8) : Except CompanionError (List UInt8) := do
  let length ← lengthBE3 frame.2.length
  return frame.1 :: length ++ frame.2

/-- The body of the loop of `handleData`. -/
def readFrame : Reader UInt8 (UInt8 × List UInt8) CompanionError
  | frameType :: high :: middle :: low :: rest =>
    let length := high.toNat * 2 ^ 16 + middle.toNat * 2 ^ 8 + low.toNat
    converting (fun payload => (frameType, payload)) (exactly length .waiting) rest
  | _ => .error .waiting

def handleData : List UInt8 → List UInt8 → Received UInt8 (UInt8 × List UInt8) CompanionError :=
  feed readFrame .waiting fun _ => []

end AppleTvCompanionTransport

namespace FramedSocket

inductive WireError where
  | truncatedVarint
  | varintTooLong
  | frameTooLarge (len : Nat)

def maxFrameSize : Nat := 1 <<< 20

def WireError.message : WireError → String
  | .truncatedVarint => "protobuf-wire: truncated varint"
  | .varintTooLong => "protobuf-wire: varint too long (>32-bit values unsupported)"
  | .frameTooLarge len =>
    "protobuf-wire: frame size " ++ toString len ++ " exceeds MAX_FRAME_SIZE (" ++
      toString maxFrameSize ++ ")"

/-- The operators of the source keep the low 32 bits of a number. -/
def encodeVarint (value : Nat) : List UInt8 := varint (value % 2 ^ 32)

def decodeVarint : Reader UInt8 Nat WireError :=
  converting (fun result => result % 2 ^ 32)
    (readGroups WireError.truncatedVarint
      (fun shift => if 28 < shift then some .varintTooLong else none) 0 0)

def send (message : List UInt8) : List UInt8 := encodeVarint message.length ++ message

/-- This connection refuses no message. -/
def written (message : List UInt8) : Except WireError (List UInt8) := .ok (send message)

/-- Why the loop of `onData` ends. -/
inductive Stop where
  | waiting
  | failed (error : WireError)

/-- The length of a frame, for which five bytes are enough. -/
def readLength : Reader UInt8 Nat Stop := fun buf =>
  match decodeVarint buf with
  | .ok read => .ok read
  | .error error => if buf.length < 5 then .error .waiting else .error (.failed error)

/-- The body of the loop of `onData`. -/
def readFrame : Reader UInt8 (List UInt8) Stop :=
  andThen readLength fun len =>
    if maxFrameSize < len then fun _ => .error (.failed (.frameTooLarge len))
    else exactly len .waiting

/-- The errors that the listeners are told. -/
def reports : Stop → List WireError
  | .waiting => []
  | .failed error => [error]

def onData : List UInt8 → List UInt8 → Received UInt8 (List UInt8) WireError :=
  feed readFrame .waiting reports

end FramedSocket

/--
The frames of some items are delivered in their order, each as soon as it is
complete, in whatever chunks they are received.
-/
def ChunkingIrrelevant {Item Error Report : Type} (send : Item → Except Error (List UInt8))
    (handle : List UInt8 → List UInt8 → Received UInt8 Item Report) (items : List Item) : Prop :=
  ∃ frame : Item → List UInt8, (∀ item ∈ items, send item = .ok (frame item)) ∧
    ∀ chunks, chunks.flatten = items.flatMap frame →
      Reassembles (feedAll handle []) frame items chunks

variable {payload : List UInt8} {payloads : List (List UInt8)}

namespace AppleTvMrpTransport

open AppleTvMrpProtobuf

theorem readFrame_stable : Stable readFrame := decodeVarint_stable.andThen readBytes_stable

theorem readFrame_advances : Advances readFrame := decodeVarint_advances.andThen readBytes_shrinks

theorem send_eq (payload : List UInt8) : send payload = .ok (varint payload.length ++ payload) := by
  rw [send, encodeVarint_natCast]
  rfl

theorem readFrame_send (safe : payload.length < 2 ^ 53) :
    readFrame (varint payload.length ++ payload) = .ok (payload, []) := by
  have whole : exactly payload.length MrpError.truncatedField payload = .ok (payload, []) :=
    exactly_eq_ok_iff.mpr ⟨rfl, (append_nil payload).symm⟩
  rw [readFrame, andThen_of_ok (decodeVarint_varint safe payload), readBytes, Int.floor_natCast,
    Int.toNat_natCast, whole]

theorem chunkingIrrelevant (safe : ∀ payload ∈ payloads, payload.length < 2 ^ 53) :
    ChunkingIrrelevant send handleData payloads := by
  refine ⟨_, fun payload _ => send_eq payload, fun chunks whole => ?_⟩
  exact feedAll_reassembles readFrame_stable readFrame_advances
    (fun payload member => readFrame_send (safe payload member)) (fun _ _ _ _ _ _ _ => rfl)
    (fun _ _ => rfl) whole

end AppleTvMrpTransport

namespace AppleTvCompanionTransport

variable {frame : UInt8 × List UInt8} {frames : List (UInt8 × List UInt8)}

/-- The bytes of a frame whose length fits into three of them. -/
def frameOf (frame : UInt8 × List UInt8) : List UInt8 :=
  frame.1 :: UInt8.ofNat (frame.2.length / 2 ^ 16) :: UInt8.ofNat (frame.2.length / 2 ^ 8) ::
    UInt8.ofNat frame.2.length :: frame.2

theorem send_eq (small : frame.2.length < 2 ^ 24) : send frame = .ok (frameOf frame) := by
  rw [send, lengthBE3, if_neg (Nat.not_le.mpr small)]
  rfl

theorem readFrame_eq_ok_iff {buf rest : List UInt8} : readFrame buf = .ok (frame, rest) ↔
    ∃ frameType high middle low payload, buf = frameType :: high :: middle :: low ::
      (payload ++ rest) ∧ frame = (frameType, payload) ∧
        payload.length = high.toNat * 2 ^ 16 + middle.toNat * 2 ^ 8 + low.toNat := by
  constructor
  · intro ok
    rcases buf with _ | ⟨frameType, _ | ⟨high, _ | ⟨middle, _ | ⟨low, others⟩⟩⟩⟩
    case cons.cons.cons.cons =>
      obtain ⟨payload, taken, rfl⟩ := converting_eq_ok_iff.mp ok
      obtain ⟨length, rfl⟩ := exactly_eq_ok_iff.mp taken
      exact ⟨frameType, high, middle, low, payload, rfl, rfl, length⟩
    all_goals cases ok
  · rintro ⟨frameType, high, middle, low, payload, rfl, rfl, length⟩
    exact converting_eq_ok_iff.mpr ⟨payload, exactly_eq_ok_iff.mpr ⟨length, rfl⟩, rfl⟩

theorem readFrame_stable : Stable readFrame := by
  intro buf frame rest ok more
  obtain ⟨frameType, high, middle, low, payload, rfl, same, length⟩ := readFrame_eq_ok_iff.mp ok
  refine readFrame_eq_ok_iff.mpr ⟨frameType, high, middle, low, payload, ?_, same, length⟩
  rw [← append_assoc]
  rfl

theorem readFrame_advances : Advances readFrame := by
  intro buf frame rest ok
  obtain ⟨frameType, high, middle, low, payload, rfl, -, -⟩ := readFrame_eq_ok_iff.mp ok
  simp only [length_cons, length_append]
  omega

theorem readFrame_frameOf (small : frame.2.length < 2 ^ 24) :
    readFrame (frameOf frame) = .ok (frame, []) := by
  refine readFrame_eq_ok_iff.mpr ⟨frame.1, _, _, _, frame.2, by rw [append_nil]; rfl, rfl, ?_⟩
  simp only [UInt8.toNat_ofNat']
  omega

theorem chunkingIrrelevant (small : ∀ frame ∈ frames, frame.2.length < 2 ^ 24) :
    ChunkingIrrelevant send handleData frames := by
  refine ⟨frameOf, fun frame member => send_eq (small frame member), fun chunks whole => ?_⟩
  exact feedAll_reassembles readFrame_stable readFrame_advances
    (fun frame member => readFrame_frameOf (small frame member)) (fun _ _ _ _ _ _ _ => rfl)
    (fun _ _ => rfl) whole

end AppleTvCompanionTransport

namespace FramedSocket

theorem decodeVarint_stable : Stable decodeVarint := (readGroups_stable _ _ _ _).converting _

theorem decodeVarint_advances : Advances decodeVarint := (readGroups_advances _ _ _ _).converting _

theorem decodeVarint_varint {value : Nat} (small : value < 2 ^ 32) (rest : List UInt8) :
    decodeVarint (varint value ++ rest) = .ok (value, rest) := by
  have allowed : ∀ groups, 2 ^ (7 * groups) ≤ value →
      (if 28 < 0 + 7 * groups then some WireError.varintTooLong else none) = none := by
    intro groups large
    have few : 7 * groups < 32 :=
      (Nat.pow_lt_pow_iff_right (by decide)).mp (Nat.lt_of_le_of_lt large small)
    rw [if_neg (by omega)]
  rw [decodeVarint, converting, readGroups_varint Nat.one_pos allowed]
  simp only [Except.map, Nat.zero_add, pow_zero, mul_one, Nat.mod_eq_of_lt small]

theorem readLength_eq_ok_iff {buf rest : List UInt8} {len : Nat} :
    readLength buf = .ok (len, rest) ↔ decodeVarint buf = .ok (len, rest) := by
  rw [readLength]
  cases decodeVarint buf with
  | ok read => simp
  | error error =>
    dsimp only
    split <;> simp

theorem readLength_stable : Stable readLength := by
  intro buf len rest ok more
  rw [readLength_eq_ok_iff] at ok ⊢
  exact decodeVarint_stable ok more

theorem readLength_advances : Advances readLength := fun _ _ _ ok =>
  decodeVarint_advances (readLength_eq_ok_iff.mp ok)

theorem readFrame_stable : Stable readFrame := by
  refine readLength_stable.andThen fun len => ?_
  split
  · exact fun _ _ _ ok => nomatch ok
  · exact stable_exactly _ _

theorem readFrame_advances : Advances readFrame := by
  refine readLength_advances.andThen fun len => ?_
  split
  · exact fun _ _ _ ok => nomatch ok
  · exact shrinks_exactly _ _

variable (small : payload.length ≤ maxFrameSize)
include small

theorem send_eq : send payload = varint payload.length ++ payload := by
  rw [send, encodeVarint, Nat.mod_eq_of_lt (Nat.lt_of_le_of_lt small (by decide))]

theorem readFrame_length (rest : List UInt8) :
    readFrame (varint payload.length ++ rest) = exactly payload.length .waiting rest := by
  have read : readLength (varint payload.length ++ rest) = .ok (payload.length, rest) :=
    readLength_eq_ok_iff.mpr
      (decodeVarint_varint (Nat.lt_of_le_of_lt small (by decide)) rest)
  rw [readFrame, andThen_of_ok read, if_neg (Nat.not_lt.mpr small)]

theorem readFrame_send : readFrame (send payload) = .ok (payload, []) := by
  rw [send_eq small, readFrame_length small]
  exact exactly_eq_ok_iff.mpr ⟨rfl, (append_nil payload).symm⟩

theorem readFrame_part {part : List UInt8} (starts : part <+: send payload)
    {stop : Stop} (stops : readFrame part = .error stop) : stop = .waiting := by
  rw [send_eq small] at starts
  by_cases length : varint payload.length <+: part
  · obtain ⟨rest, rfl⟩ := length
    rw [readFrame_length small, exactly] at stops
    split at stops
    · exact (Except.error.inj stops).symm
    · cases stops
  · have inside : part <+: varint payload.length :=
      (List.prefix_or_prefix_of_prefix starts (prefix_append _ _)).resolve_right length
    have short : part.length < 5 := by
      have groups : (varint payload.length).length ≤ 2 + 1 :=
        length_varint_le (Nat.lt_of_le_of_lt small (by decide))
      have le := inside.length_le
      omega
    have differs : part ≠ varint payload.length := by
      rintro rfl
      exact length (prefix_refl _)
    have whole := decodeVarint_varint (Nat.lt_of_le_of_lt small (by decide)) []
    rw [append_nil] at whole
    obtain ⟨error, truncated⟩ := read_truncated decodeVarint_stable whole inside differs
    have waits : readLength part = .error .waiting := by
      rw [readLength, truncated]
      exact if_pos short
    rw [readFrame, andThen, waits] at stops
    exact (Except.error.inj stops).symm

omit small

theorem chunkingIrrelevant (small : ∀ payload ∈ payloads, payload.length ≤ maxFrameSize) :
    ChunkingIrrelevant written onData payloads := by
  refine ⟨send, fun _ _ => rfl, fun chunks whole => ?_⟩
  refine feedAll_reassembles readFrame_stable readFrame_advances
    (fun payload member => readFrame_send (small payload member)) ?_ ?_ whole
  · intro payload member part starts _ stop stops
    rw [readFrame_part (small payload member) starts stops]
    rfl
  · intro stop stops
    cases stops
    rfl

end FramedSocket

/-- Each of the three connections delivers what was sent, however it is cut. -/
theorem transports_chunkingIrrelevant (frames : List (UInt8 × List UInt8))
    (small : ∀ frame ∈ frames, frame.2.length ≤ 2 ^ 20) :
    ChunkingIrrelevant AppleTvMrpTransport.send AppleTvMrpTransport.handleData
        (frames.map Prod.snd) ∧
      ChunkingIrrelevant AppleTvCompanionTransport.send AppleTvCompanionTransport.handleData
        frames ∧
      ChunkingIrrelevant FramedSocket.written FramedSocket.onData (frames.map Prod.snd) := by
  have payloads : ∀ payload ∈ frames.map Prod.snd, payload.length ≤ 2 ^ 20 := by
    intro payload member
    obtain ⟨frame, inside, rfl⟩ := mem_map.mp member
    exact small frame inside
  refine ⟨AppleTvMrpTransport.chunkingIrrelevant fun payload member => ?_,
    AppleTvCompanionTransport.chunkingIrrelevant fun frame member => ?_,
    FramedSocket.chunkingIrrelevant payloads⟩
  · exact Nat.lt_of_le_of_lt (payloads payload member) (by decide)
  · exact Nat.lt_of_le_of_lt (small frame member) (by decide)

/-- An empty payload between two others. -/
theorem transports_chunkingIrrelevant_empty :
    ChunkingIrrelevant AppleTvMrpTransport.send AppleTvMrpTransport.handleData
      [[1, 2], [], [3]] :=
  (transports_chunkingIrrelevant [(3, [1, 2]), (4, []), (8, [3])] (by decide)).1

end SupremeOs.Protocols
