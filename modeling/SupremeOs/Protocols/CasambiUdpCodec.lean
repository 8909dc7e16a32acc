import SupremeOs.DomainModel.JsValue

/-!
# Casambi packets as text

A packet travels as a line of numbers: the network, the direction, the length,
the opcode and the arguments, in hexadecimal digits between dots or in decimal
digits between hashes.  A token `ACK` may stand at the end.  What is encoded is
decoded to the same packet.  The decoder looks at the number of the tokens and
at the direction only, so a text with other flaws becomes a packet with them.
-/

namespace SupremeOs.Protocols.CasambiUdpCodec

open DomainModel List

inductive CasambiWireFormat where
  | hexDot
  | decHash

inductive CasambiCommandDirection where
  | fromCasambi
  | toCasambi
deriving DecidableEq

/-- A packet; its fields are natural numbers when it is sent, and any numbers when it comes in. -/
structure CasambiPacket (Field : Type) where
  netId : Field
  direction : CasambiCommandDirection
  opcode : Field
  args : List Field
  ack : Bool
deriving DecidableEq

def directionByte : CasambiCommandDirection → Nat
  | .fromCasambi => 0x70
  | .toCasambi => 0x72

def byteDirection : JsNumber → Option CasambiCommandDirection
  | .finite value =>
    if value = 0x70 then some .fromCasambi
    else if value = 0x72 then some .toCasambi
    else none
  | _ => none

def separator : CasambiWireFormat → Char
  | .hexDot => '.'
  | .decHash => '#'

def radix : CasambiWireFormat → Nat
  | .hexDot => 16
  | .decHash => 10

variable (format : CasambiWireFormat)

def toToken (value : Nat) : List Char :=
  Nat.toDigits (radix format) value

def fromToken (token : List Char) : JsNumber :=
  parseInt (radix format) token

def packetTokens (packet : CasambiPacket Nat) : List (List Char) :=
  ([packet.netId, directionByte packet.direction, 1 + packet.args.length, packet.opcode] ++
    packet.args).map (toToken format)

def line (tokens : List (List Char)) : String :=
  String.ofList ([separator format].intercalate tokens ++ ['\r', '\n'])

def encodeCasambiPacket (packet : CasambiPacket Nat) (format : CasambiWireFormat) : String :=
  line format (packetTokens format packet)

def trimLineEnd (text : List Char) : List Char :=
  match text.reverse with
  | '\n' :: '\r' :: reversed => reversed.reverse
  | '\n' :: reversed => reversed.reverse
  | _ => text

def ackToken : List Char := ['A', 'C', 'K']

/-- The token acknowledges, in upper or lower case. -/
def isAck (token : List Char) : Bool := token.map Char.toUpper = ackToken

def fieldTokens (raw : String) : List (List Char) × Bool :=
  let tokens := (trimLineEnd raw.toList).splitOn (separator format)
  if tokens.getLast?.any isAck then (tokens.dropLast, true) else (tokens, false)

/-- How many of the arguments are kept: one less than the length, and at least none. -/
def expectedArgCount (available : Nat) : JsNumber → Nat
  | .notANumber => 0
  | .negativeInfinity => 0
  | .finite length => ⌊length - 1⌋.toNat
  | .positiveInfinity => available

/-- The digits of an integer, as an error message shows it. -/
def integerText (base : Nat) : JsNumber → String
  | .notANumber => "NaN"
  | .negativeInfinity => "-Infinity"
  | .positiveInfinity => "Infinity"
  | .finite value =>
    (if value < 0 then "-" else "") ++ String.ofList (Nat.toDigits base value.num.natAbs)

def malformed (count : Nat) (raw : String) : String :=
  "Malformed Casambi UDP packet (expected at least 4 fields, got " ++ toString count ++ "): " ++ raw

def unknownDirection (byte : JsNumber) (raw : String) : String :=
  "Unknown Casambi Command_Direction byte 0x" ++ integerText 16 byte ++ " in packet: " ++ raw

def decodeCasambiPacket (raw : String) (format : CasambiWireFormat) :
    Except String (CasambiPacket JsNumber) :=
  let (tokens, ack) := fieldTokens format raw
  match tokens with
  | netIdTok :: dirTok :: lengthTok :: opcodeTok :: argTokens =>
    match byteDirection (fromToken format dirTok) with
    | none => .error (unknownDirection (fromToken format dirTok) raw)
    | some direction =>
      let allArgs := argTokens.map (fromToken format)
      .ok
        { netId := fromToken format netIdTok, direction := direction
          opcode := fromToken format opcodeTok
          args := allArgs.take
            (expectedArgCount allArgs.length (fromToken format lengthTok))
          ack := ack }
  | _ => .error (malformed tokens.length raw)

def IsByte (value : JsNumber) : Prop := ∃ byte : UInt8, value = .finite (byte.toNat : ℚ)

/-- The length that a text gives, if it has that many tokens. -/
def wireLength (raw : String) : Option JsNumber :=
  (fieldTokens format raw).1[2]?.map (fromToken format)

/-- All fields are bytes, and there are as many arguments as the text says. -/
structure Sound (format : CasambiWireFormat) (raw : String) (packet : CasambiPacket JsNumber) :
    Prop where
  netId : IsByte packet.netId
  opcode : IsByte packet.opcode
  args : ∀ argument ∈ packet.args, IsByte argument
  count : wireLength format raw = some (.finite ((packet.args.length + 1 : Nat) : ℚ))

/-- The numbers of a text are bytes, and the arguments that its length counts are there. -/
structure WellFormedTokens (format : CasambiWireFormat)
    (netIdTok lengthTok opcodeTok : List Char) (argTokens : List (List Char)) : Prop where
  netId : IsByte (fromToken format netIdTok)
  opcode : IsByte (fromToken format opcodeTok)
  args : ∃ count : Nat, fromToken format lengthTok = .finite ((count + 1 : Nat) : ℚ) ∧
    count ≤ argTokens.length ∧ ∀ token ∈ argTokens.take count, IsByte (fromToken format token)

def WellFormedText (raw : String) : Prop :=
  match (fieldTokens format raw).1 with
  | netIdTok :: dirTok :: lengthTok :: opcodeTok :: argTokens =>
    byteDirection (fromToken format dirTok) = none ∨
      WellFormedTokens format netIdTok lengthTok opcodeTok argTokens
  | _ => True

/-- A packet whose fields are bytes, with at most 254 arguments. -/
structure BytePacket where
  packet : CasambiPacket UInt8
  short : packet.args.length ≤ 254

def CasambiPacket.mapFields {Field Other : Type} (image : Field → Other)
    (packet : CasambiPacket Field) : CasambiPacket Other :=
  ⟨image packet.netId, packet.direction, image packet.opcode, packet.args.map image, packet.ack⟩

def BytePacket.sent (bytes : BytePacket) : CasambiPacket Nat :=
  bytes.packet.mapFields UInt8.toNat

/-- The packet that should be received, with or without an acknowledgement. -/
def BytePacket.received (bytes : BytePacket) (ack : Bool) : CasambiPacket JsNumber :=
  { bytes.packet.mapFields fun byte => JsNumber.finite (byte.toNat : ℚ) with ack := ack }

/-- The text of a packet with an acknowledgement before the end of the line. -/
def encodeWithAck (packet : CasambiPacket Nat) (format : CasambiWireFormat) : String :=
  line format (packetTokens format packet ++ [ackToken])

section RoundTrip

variable {format : CasambiWireFormat}

theorem radix_bounds (format : CasambiWireFormat) : 1 < radix format ∧ radix format ≤ 16 := by
  cases format <;> decide

theorem fromToken_toToken {value : Nat} (safe : value < 2 ^ 53) :
    fromToken format (toToken format value) = .finite (value : ℚ) :=
  parseInt_toDigits (radix_bounds format).1 (radix_bounds format).2 safe

theorem digit_plain : ∀ number < 16, ∀ format : CasambiWireFormat,
    number.digitChar ≠ separator format ∧ number.digitChar.toUpper ≠ 'K' := by
  intro number below format
  cases format <;> revert number <;> decide

theorem toToken_plain (value : Nat) : ∀ character ∈ toToken format value,
      character ≠ separator format ∧ character.toUpper ≠ 'K' :=
  forall_mem_toDigits (radix_bounds format).1
    (fun character => character ≠ separator format ∧ character.toUpper ≠ 'K')
    (fun number below =>
      digit_plain number (Nat.lt_of_lt_of_le below (radix_bounds format).2) format) value

theorem isAck_toToken (value : Nat) : isAck (toToken format value) = false := by
  by_contra ack
  simp only [isAck, Bool.not_eq_false, decide_eq_true_eq] at ack
  have member : 'K' ∈ (toToken format value).map Char.toUpper := by
    rw [ack]
    decide
  rcases mem_map.mp member with ⟨character, found, upper⟩
  exact (toToken_plain value character found).2 upper

theorem trimLineEnd_line (tokens : List (List Char)) :
    trimLineEnd (line format tokens).toList = [separator format].intercalate tokens := by
  simp [trimLineEnd, line]

theorem splitOn_line {tokens : List (List Char)} (some : tokens ≠ [])
    (plain : ∀ token ∈ tokens, separator format ∉ token) :
    (trimLineEnd (line format tokens).toList).splitOn (separator format) = tokens := by
  rw [trimLineEnd_line, splitOn_intercalate _ plain some]

variable (packet : CasambiPacket Nat)

theorem packetTokens_plain : ∀ token ∈ packetTokens format packet,
      separator format ∉ token ∧ isAck token = false := by
  intro token member
  rcases mem_map.mp member with ⟨value, _, rfl⟩
  constructor
  · intro found
    exact (toToken_plain value _ found).1 rfl
  · exact isAck_toToken value

theorem packetTokens_ne_nil : packetTokens format packet ≠ [] := by
  simp [packetTokens]

theorem fieldTokens_encode : fieldTokens format (encodeCasambiPacket packet format) =
      (packetTokens format packet, false) := by
  have plain := @packetTokens_plain format packet
  have tokens := splitOn_line (@packetTokens_ne_nil format packet)
    fun token member => (plain token member).1
  have last : (packetTokens format packet).getLast?.any isAck = false := by
    rw [getLast?_eq_some_getLast (packetTokens_ne_nil packet)]
    exact (plain _ (getLast_mem _)).2
  simp [fieldTokens, encodeCasambiPacket, tokens, last]

theorem fieldTokens_encodeWithAck :
    fieldTokens format (encodeWithAck packet format) = (packetTokens format packet, true) := by
  have plain : ∀ token ∈ packetTokens format packet ++ [ackToken], separator format ∉ token := by
    intro token member
    rcases mem_append.mp member with field | ack
    · exact (packetTokens_plain packet token field).1
    · rw [mem_singleton.mp ack]
      cases format <;> decide
  have tokens := splitOn_line (by simp) plain
  have ack : isAck ackToken = true := by decide
  simp [fieldTokens, encodeWithAck, tokens, ack]

theorem byteDirection_directionByte (direction : CasambiCommandDirection) :
    byteDirection (.finite (directionByte direction : ℚ)) = some direction := by
  cases direction <;> norm_num [byteDirection, directionByte]

theorem expectedArgCount_natCast (available count : Nat) :
    expectedArgCount available (.finite ((count + 1 : Nat) : ℚ)) = count := by
  simp [expectedArgCount]

theorem decode_of_fieldTokens {raw : String} {ack : Bool} (bytes : BytePacket)
    (tokens : fieldTokens format raw = (packetTokens format bytes.sent, ack)) :
    decodeCasambiPacket raw format = .ok (bytes.received ack) := by
  rcases bytes with ⟨packet, short⟩
  have byte (value : UInt8) :
      fromToken format (toToken format value.toNat) = .finite (value.toNat : ℚ) :=
    fromToken_toToken (by have := value.toNat_lt; omega)
  have direction : byteDirection (fromToken format
      (toToken format (directionByte packet.direction))) = some packet.direction := by
    rw [fromToken_toToken (by cases packet.direction <;> decide), byteDirection_directionByte]
  have length : fromToken format (toToken format (1 + packet.args.length)) =
      .finite ((packet.args.length + 1 : Nat) : ℚ) := by
    rw [fromToken_toToken (by omega), Nat.add_comm]
  have arguments : ((packet.args.map UInt8.toNat).map (toToken format)).map (fromToken format) =
      packet.args.map fun value => JsNumber.finite (value.toNat : ℚ) := by
    rw [map_map, map_map]
    exact map_congr_left fun value _ => byte value
  simp only [decodeCasambiPacket, tokens, packetTokens, BytePacket.sent, BytePacket.received,
    CasambiPacket.mapFields, length_map, cons_append, nil_append, map_cons,
    direction, length, arguments, byte, expectedArgCount_natCast]
  rw [take_of_length_le (by simp)]

end RoundTrip

section Acceptance

variable {format : CasambiWireFormat}

theorem sound_iff_tokens {raw : String} {direction : CasambiCommandDirection} {ack : Bool}
    {netIdTok dirTok lengthTok opcodeTok : List Char} {argTokens : List (List Char)}
    (tokens : (fieldTokens format raw).1 =
      netIdTok :: dirTok :: lengthTok :: opcodeTok :: argTokens) :
    Sound format raw
        { netId := fromToken format netIdTok, direction := direction
          opcode := fromToken format opcodeTok
          args := (argTokens.map (fromToken format)).take
            (expectedArgCount (argTokens.map (fromToken format)).length
              (fromToken format lengthTok))
          ack := ack } ↔ WellFormedTokens format netIdTok lengthTok opcodeTok argTokens := by
  have wire : wireLength format raw = some (fromToken format lengthTok) := by
    simp [wireLength, tokens]
  constructor
  · rintro ⟨netId, opcode, args, count⟩
    rw [wire, Option.some.injEq] at count
    dsimp only at args count
    generalize kept : (List.take _ (argTokens.map (fromToken format))).length = number at count
    rw [count, expectedArgCount_natCast] at kept args
    refine ⟨netId, opcode, number, count, ?_, ?_⟩
    · rw [length_take, length_map] at kept
      omega
    · intro token member
      rw [← map_take] at args
      exact args _ (mem_map_of_mem member)
  · rintro ⟨netId, opcode, number, length, enough, bytes⟩
    refine ⟨netId, opcode, ?_, ?_⟩
    · intro argument member
      dsimp only at member
      rw [length, expectedArgCount_natCast, ← map_take] at member
      rcases mem_map.mp member with ⟨token, among, rfl⟩
      exact bytes token among
    · dsimp only
      rw [wire, length, expectedArgCount_natCast, length_take, length_map, Nat.min_eq_left enough]

theorem accepts_iff_wellFormed (raw : String) :
    (∀ packet, decodeCasambiPacket raw format = .ok packet → Sound format raw packet) ↔
      WellFormedText format raw := by
  unfold decodeCasambiPacket WellFormedText
  rcases fields : fieldTokens format raw with ⟨tokens, ack⟩
  dsimp only
  split
  · rename_i netIdTok dirTok lengthTok opcodeTok argTokens
    have sound {direction : CasambiCommandDirection} :=
      @sound_iff_tokens format raw direction ack _ _ _ _ _ (congrArg Prod.fst fields)
    cases known : byteDirection (fromToken format dirTok) with
    | none => simp
    | some direction => simpa using sound
  · simp

end Acceptance

/-- The line of a packet gives the packet back, and other lines are read soundly exactly if they
are refused or well formed. -/
theorem codec_sound_iff (format : CasambiWireFormat) (bytes : BytePacket) (raw : String) :
    (decodeCasambiPacket (encodeCasambiPacket bytes.sent format) format =
        .ok (bytes.received false) ∧ decodeCasambiPacket (encodeWithAck bytes.sent format) format =
        .ok (bytes.received true)) ∧
    ((∀ packet, decodeCasambiPacket raw format = .ok packet → Sound format raw packet) ↔
      WellFormedText format raw) := by
  refine ⟨⟨?_, ?_⟩, accepts_iff_wellFormed raw⟩
  · exact decode_of_fieldTokens bytes (fieldTokens_encode bytes.sent)
  · exact decode_of_fieldTokens bytes (fieldTokens_encodeWithAck bytes.sent)

/-- A network that is no number becomes a packet. -/
theorem unreadable_network_is_accepted :
    ¬ ∀ (format : CasambiWireFormat) (raw : String) (packet : CasambiPacket JsNumber),
      decodeCasambiPacket raw format = .ok packet → Sound format raw packet := by
  intro sound
  have accepted : decodeCasambiPacket "zz.70.1.1" .hexDot =
      .ok ⟨.notANumber, .fromCasambi, .finite 1, [], false⟩ := by
    decide +kernel
  rcases (sound _ _ _ accepted).netId with ⟨byte, number⟩
  exact JsNumber.noConfusion number

end SupremeOs.Protocols.CasambiUdpCodec
