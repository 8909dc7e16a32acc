import SupremeOs.DomainModel.JsValue
import SupremeOs.Support.Varint

/-!
# Fields of protocol messages

A message is a list of fields: a number in groups of seven bits, or some bytes
after their length.  A key before each field has its number and its type.

Groups are put together exactly and converted to a number of the language, keys
are built and taken apart with operators on 32 bits.
-/

namespace SupremeOs.Protocols.AppleTvMrpProtobuf

open DomainModel Support.Framing
open Support.Varint List

inductive MrpError where
  | invalidVarint (value : JsNumber)
  | truncatedVarint
  | truncatedField
  | unsupportedWireType (wireType fieldNumber : Nat)
  | outOfFuel

def MrpError.message (text : JsNumber → String) : MrpError → String
  | .invalidVarint value => "mrp-protobuf: invalid varint value " ++ text value
  | .truncatedVarint => "mrp-protobuf: truncated varint"
  | .truncatedField => "mrp-protobuf: truncated length-delimited field"
  | .unsupportedWireType wireType fieldNumber =>
    "mrp-protobuf: unsupported wire type " ++ toString wireType ++ " (field " ++
      toString fieldNumber ++ ")"
  | .outOfFuel => ""

/-- A field is of wire type 0 if its value is a number, and of type 2 if it is bytes. -/
inductive FieldValue where
  | varint (value : JsNumber)
  | bytes (value : List UInt8)

structure RawField where
  fieldNumber : Nat
  value : FieldValue

def encodeVarint : JsNumber → Except MrpError (List UInt8)
  | .finite value =>
    if value < 0 then .error (.invalidVarint (.finite value)) else .ok (varint ⌊value⌋.toNat)
  | value => .error (.invalidVarint value)

/-- `(fieldNumber << 3) | wireType` -/
def keyOf (fieldNumber wireType : Nat) : Int :=
  ((BitVec.ofNat 32 fieldNumber <<< 3) ||| BitVec.ofNat 32 wireType).toInt

def tag (fieldNumber wireType : Nat) : Except MrpError (List UInt8) :=
  encodeVarint (.finite (keyOf fieldNumber wireType))

def fieldBytes (fieldNumber : Nat) (value : List UInt8) : Except MrpError (List UInt8) := do
  let key ← tag fieldNumber 2
  let length ← encodeVarint (.finite value.length)
  return key ++ length ++ value

/-- `true` and `false` are written as one and zero. -/
def numberOf : JsNumber ⊕ Bool → JsNumber
  | .inl value => value
  | .inr value => .finite (if value then 1 else 0)

def fieldVarint (fieldNumber : Nat) (value : JsNumber ⊕ Bool) : Except MrpError (List UInt8) := do
  let key ← tag fieldNumber 0
  let number ← encodeVarint (numberOf value)
  return key ++ number

def decodeVarint : Reader UInt8 JsNumber MrpError :=
  converting (fun result => roundToDouble (result : Nat))
    (readGroups MrpError.truncatedVarint (fun _ => none) 0 0)

/-- The low 32 bits of a number. -/
def toUint32 : JsNumber → Nat
  | .finite value => ((if value < 0 then ⌈value⌉ else ⌊value⌋) % 2 ^ 32).toNat
  | _ => 0

/-- Read as many bytes as a number says; none of the sums it is compared by rounds down. -/
def readBytes : JsNumber → Reader UInt8 (List UInt8) MrpError
  | .finite len => exactly ⌊len⌋.toNat .truncatedField
  | _ => fun _ => .error .truncatedField

def readValue (fieldNumber wireType : Nat) : Reader UInt8 RawField MrpError :=
  if wireType = 0 then
    converting (fun value => ⟨fieldNumber, .varint value⟩) decodeVarint
  else if wireType = 2 then
    converting (fun value => ⟨fieldNumber, .bytes value⟩) (andThen decodeVarint readBytes)
  else fun _ => .error (.unsupportedWireType wireType fieldNumber)

/-- The body of the loop of `decodeFields`. -/
def readField : Reader UInt8 RawField MrpError :=
  andThen decodeVarint fun key => readValue (toUint32 key >>> 3) (toUint32 key &&& 0x7)

def decodeFields (buf : List UInt8) : Except MrpError (List RawField) :=
  readAll readField .outOfFuel buf.length buf

variable {value fieldNumber wireType : Nat} {field : RawField} {fields : List RawField}
variable {bytes rest : List UInt8}

theorem decodeVarint_stable : Stable decodeVarint := (readGroups_stable _ _ _ _).converting _

theorem decodeVarint_advances : Advances decodeVarint := (readGroups_advances _ _ _ _).converting _

theorem readBytes_stable (len : JsNumber) : Stable (readBytes len) := by
  cases len with
  | finite len => exact stable_exactly _ _
  | _ => exact fun _ _ _ ok => nomatch ok

theorem readBytes_shrinks (len : JsNumber) : Shrinks (readBytes len) := by
  cases len with
  | finite len => exact shrinks_exactly _ _
  | _ => exact fun _ _ _ ok => nomatch ok

theorem readField_stable : Stable readField := by
  refine decodeVarint_stable.andThen fun key => ?_
  unfold readValue
  split
  · exact decodeVarint_stable.converting _
  · split
    · exact (decodeVarint_stable.andThen readBytes_stable).converting _
    · exact fun _ _ _ ok => nomatch ok

theorem readField_advances : Advances readField := by
  refine decodeVarint_advances.andThen fun key => ?_
  unfold readValue
  split
  · exact decodeVarint_advances.shrinks.converting _
  · split
    · exact (decodeVarint_advances.shrinks.andThen readBytes_shrinks).converting _
    · exact fun _ _ _ ok => nomatch ok

theorem encodeVarint_natCast (value : Nat) : encodeVarint (.finite value) = .ok (varint value) := by
  rw [encodeVarint, if_neg (not_lt.mpr (Nat.cast_nonneg value)), Int.floor_natCast,
    Int.toNat_natCast]

theorem decodeVarint_varint (safe : value < 2 ^ 53) (rest : List UInt8) :
    decodeVarint (varint value ++ rest) = .ok (.finite value, rest) := by
  rw [decodeVarint, converting, readGroups_varint Nat.one_pos fun _ _ => rfl]
  simp [Except.map, pow_zero, mul_one, roundToDouble_natCast safe]

theorem keyOf_eq (field : fieldNumber < 2 ^ 28) (type : wireType < 8) :
    keyOf fieldNumber wireType = (fieldNumber * 8 + wireType : Nat) := by
  have bits := toNat_key field type
  rw [keyOf, BitVec.toInt_eq_toNat_of_lt (by omega), bits]

theorem toUint32_natCast (small : value < 2 ^ 32) : toUint32 (.finite value) = value := by
  rw [toUint32, if_neg (not_lt.mpr (Nat.cast_nonneg value)), Int.floor_natCast]
  omega

theorem tag_eq (field : fieldNumber < 2 ^ 28) (type : wireType < 8) :
    tag fieldNumber wireType = .ok (varint (fieldNumber * 8 + wireType)) := by
  have cast : ((keyOf fieldNumber wireType : Int) : ℚ) = (fieldNumber * 8 + wireType : Nat) := by
    rw [keyOf_eq field type, Int.cast_natCast]
  rw [tag, cast, encodeVarint_natCast]

theorem readField_key (field : fieldNumber < 2 ^ 28) (type : wireType < 8) :
    readField (varint (fieldNumber * 8 + wireType) ++ rest) =
      readValue fieldNumber wireType rest := by
  rw [readField, andThen_of_ok (decodeVarint_varint (by omega) rest),
    toUint32_natCast (by omega), key_shiftRight type, key_and type]

/-- A field with a number in range, and a safe integer or a buffer for its value. -/
structure ValidField (field : RawField) : Prop where
  positive : 0 < field.fieldNumber
  small : field.fieldNumber < 2 ^ 28
  value : match field.value with
    | .varint value => ∃ number : Nat, number < 2 ^ 53 ∧ value = .finite number
    | .bytes value => value.length < 2 ^ 53

def encodeField (field : RawField) : Except MrpError (List UInt8) :=
  match field.value with
  | .varint value => fieldVarint field.fieldNumber (.inl value)
  | .bytes value => fieldBytes field.fieldNumber value

theorem exists_encodeField (valid : ValidField field) :
    ∃ encoding, encodeField field = .ok encoding ∧ readField encoding = .ok (field, []) := by
  obtain ⟨fieldNumber, value⟩ := field
  obtain ⟨-, small, inRange⟩ := valid
  cases value with
  | varint value =>
    obtain ⟨number, safe, rfl⟩ := inRange
    refine ⟨varint (fieldNumber * 8 + 0) ++ varint number, ?_, ?_⟩
    · simp only [encodeField, fieldVarint, numberOf, tag_eq small (Nat.zero_lt_succ 7),
        encodeVarint_natCast]
      rfl
    · have read := decodeVarint_varint safe []
      rw [append_nil] at read
      rw [readField_key small (Nat.zero_lt_succ 7), readValue, if_pos rfl, converting, read]
      rfl
  | bytes value =>
    refine ⟨varint (fieldNumber * 8 + 2) ++ (varint value.length ++ value), ?_, ?_⟩
    · simp only [encodeField, fieldBytes, tag_eq small (show 2 < 8 by decide), encodeVarint_natCast]
      exact congrArg Except.ok (append_assoc _ _ _)
    · have whole : exactly value.length MrpError.truncatedField value = .ok (value, []) :=
        exactly_eq_ok_iff.mpr ⟨rfl, (append_nil value).symm⟩
      rw [readField_key small (by decide), readValue, if_neg (by decide), if_pos rfl, converting,
        andThen_of_ok (decodeVarint_varint inRange _), readBytes, Int.floor_natCast,
        Int.toNat_natCast, whole]
      rfl

def wire (field : RawField) : List UInt8 := (encodeField field).toOption.getD []

theorem encodeField_wire (valid : ValidField field) :
    encodeField field = .ok (wire field) ∧ readField (wire field) = .ok (field, []) := by
  obtain ⟨encoding, ok, read⟩ := exists_encodeField valid
  have same : wire field = encoding := by
    rw [wire, ok]
    rfl
  rw [same]
  exact ⟨ok, read⟩

theorem mapM_encodeField (valid : ∀ field ∈ fields, ValidField field) :
    fields.mapM encodeField = .ok (fields.map wire) := by
  induction fields with
  | nil => rfl
  | cons field others ih =>
    rw [mapM_cons, (encodeField_wire (valid field (.head _))).1,
      ih fun field member => valid field (.tail _ member)]
    rfl

theorem decodeFields_eq_ok_iff : decodeFields bytes = .ok fields ↔ Takes readField
    bytes fields [] :=
  readAll_eq_ok_iff readField_advances (Nat.le_refl _)

/--
Written fields are read back, and a part of what was written is refused, or ends
where a field does and is read as the fields before.
-/
theorem decodeFields_exact (fields : List RawField) (valid : ∀ field ∈ fields, ValidField field) :
    ∃ encodings, fields.mapM encodeField = .ok encodings ∧
      decodeFields encodings.flatten = .ok fields ∧
      ∀ part, part <+: encodings.flatten → part ≠ encodings.flatten →
        (∃ error, decodeFields part = .error error) ∨
          ∃ count < fields.length, part = (encodings.take count).flatten ∧
            decodeFields part = .ok (fields.take count) := by
  have reads : ∀ field ∈ fields, readField (wire field) = .ok (field, []) :=
    fun field member => (encodeField_wire (valid field member)).2
  refine ⟨fields.map wire, mapM_encodeField valid, ?_, fun part starts short => ?_⟩
  · have takes := takes_written readField_stable reads []
    rw [append_nil, flatMap_def] at takes
    exact decodeFields_eq_ok_iff.mpr takes
  · cases decoded : decodeFields part with
    | error error => exact .inl ⟨error, rfl⟩
    | ok taken =>
      right
      rw [← flatMap_def] at starts short
      obtain ⟨error, stops⟩ := readField_advances.nil
      obtain ⟨count, rfl, started⟩ := takes_started readField_stable readField_advances reads
        starts (decodeFields_eq_ok_iff.mp decoded) stops
      have whole : part = (fields.take count).flatMap wire := by
        rw [started.stream_eq, append_nil]
      refine ⟨count, ?_, ?_, rfl⟩
      · refine lt_of_le_of_ne started.le fun all => short ?_
        rw [whole, all, take_length]
      · rw [whole, ← map_take, flatMap_def]

/-- A number of two groups and some bytes. -/
def someFields : List RawField := [⟨1, .varint (.finite (300 : Nat))⟩, ⟨2 ^ 28 - 1, .bytes [1, 2]⟩]

theorem someFields_valid : ∀ field ∈ someFields, ValidField field := by
  intro field member
  rcases mem_cons.mp member with rfl | member
  · exact ⟨by decide, by decide, 300, by decide, rfl⟩
  · obtain rfl := mem_singleton.mp member
    exact ⟨by decide, by decide, by decide⟩

theorem decodeFields_exact_some : ∃ encodings, someFields.mapM encodeField = .ok encodings ∧
    decodeFields encodings.flatten = .ok someFields := by
  obtain ⟨encodings, written, read, -⟩ := decodeFields_exact someFields someFields_valid
  exact ⟨encodings, written, read⟩

end SupremeOs.Protocols.AppleTvMrpProtobuf
