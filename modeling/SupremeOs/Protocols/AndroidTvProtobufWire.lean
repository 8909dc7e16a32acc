import SupremeOs.Support.Varint

/-!
# Fields of remote control messages

A message is a list of fields: a number in groups of seven bits, or some bytes
after their length.  Numbers have 32 bits.  Fields of other types that have a
fixed width are not skipped: the decoder refuses a message that has one.
-/

namespace SupremeOs.Protocols.AndroidTvProtobufWire

open Support.Framing Support.Varint List

inductive WireError where
  | truncatedVarint
  | varintTooLong
  | overrun
  | unsupportedWireType (wireType : Nat)
  | outOfFuel

def WireError.message : WireError → String
  | .truncatedVarint => "protobuf-wire: truncated varint"
  | .varintTooLong => "protobuf-wire: varint too long (>32-bit values unsupported)"
  | .overrun => "protobuf-wire: length-delimited field overruns buffer"
  | .unsupportedWireType wireType =>
    "protobuf-wire: unsupported wire type " ++ toString wireType ++
      " (this codec only implements varint and length-delimited)"
  | .outOfFuel => ""

/-- A field is of wire type 0 if its value is a number, and of type 2 if it is bytes. -/
inductive FieldValue where
  | varint (value : Nat)
  | bytes (value : List UInt8)

structure RawField where
  fieldNumber : Nat
  value : FieldValue

/-- `value >>> 0` -/
def toUint32 (value : Int) : Nat := (value % 2 ^ 32).toNat

/-- The operators of the loop take the low 32 bits of a number. -/
def encodeVarint (value : Int) : List UInt8 := varint (toUint32 value)

/-- `(fieldNumber << 3) | wireType` -/
def encodeTag (fieldNumber wireType : Nat) : List UInt8 :=
  encodeVarint ((BitVec.ofNat 32 fieldNumber <<< 3) ||| BitVec.ofNat 32 wireType).toInt

def encodeVarintField (fieldNumber value : Nat) : List UInt8 :=
  encodeTag fieldNumber 0 ++ encodeVarint value

def encodeBytesField (fieldNumber : Nat) (payload : List UInt8) : List UInt8 :=
  encodeTag fieldNumber 2 ++ (encodeVarint payload.length ++ payload)

/-- No group is read at a shift of more than 28 bits. -/
def refuseShift (shift : Nat) : Option WireError :=
  if 28 < shift then some .varintTooLong else none

def decodeVarint : Reader UInt8 Nat WireError :=
  converting (fun result => result % 2 ^ 32) (readGroups .truncatedVarint refuseShift 0 0)

def readValue (fieldNumber wireType : Nat) : Reader UInt8 RawField WireError :=
  if wireType = 0 then converting (fun value => ⟨fieldNumber, .varint value⟩) decodeVarint
  else if wireType = 2 then
    converting (fun value => ⟨fieldNumber, .bytes value⟩)
      (andThen decodeVarint fun len => exactly len .overrun)
  else fun _ => .error (.unsupportedWireType wireType)

/-- The body of the loop of `decodeFields`. -/
def readField : Reader UInt8 RawField WireError :=
  andThen decodeVarint fun tag => readValue (tag >>> 3) (tag &&& 0x7)

def decodeFields (buf : List UInt8) : Except WireError (List RawField) :=
  readAll readField .outOfFuel buf.length buf

variable {value fieldNumber wireType : Nat} {rest : List UInt8}

theorem decodeVarint_advances : Advances decodeVarint := (readGroups_advances _ _ _ _).converting _

theorem readField_advances : Advances readField := by
  refine decodeVarint_advances.andThen fun tag => ?_
  unfold readValue
  split
  · exact decodeVarint_advances.shrinks.converting _
  · split
    · exact (decodeVarint_advances.shrinks.andThen fun len => shrinks_exactly len _).converting _
    · exact fun _ _ _ ok => nomatch ok

theorem toUint32_natCast (value : Nat) : toUint32 value = value % 2 ^ 32 := by
  rw [toUint32]
  omega

theorem decodeVarint_encodeVarint (value : Nat) (rest : List UInt8) :
    decodeVarint (encodeVarint value ++ rest) = .ok (value % 2 ^ 32, rest) := by
  have allowed : ∀ groups, 2 ^ (7 * groups) ≤ value % 2 ^ 32 →
      refuseShift (0 + 7 * groups) = none := by
    intro groups large
    have below : 7 * groups < 32 :=
      (Nat.pow_lt_pow_iff_right (by decide)).mp (large.trans_lt (Nat.mod_lt _ (by decide)))
    rw [refuseShift, if_neg (by omega)]
  rw [decodeVarint, converting, encodeVarint, toUint32_natCast,
    readGroups_varint Nat.one_pos allowed]
  simp [Except.map, pow_zero, mul_one]

theorem encodeTag_eq (field : fieldNumber < 2 ^ 28) (type : wireType < 8) :
    encodeTag fieldNumber wireType = encodeVarint (fieldNumber * 8 + wireType : Nat) := by
  have bits := toNat_key field type
  rw [encodeTag, BitVec.toInt_eq_toNat_of_lt (by omega), bits]

theorem readField_tag (field : fieldNumber < 2 ^ 28) (type : wireType < 8) :
    readField (encodeTag fieldNumber wireType ++ rest) = readValue fieldNumber wireType rest := by
  have whole : (fieldNumber * 8 + wireType) % 2 ^ 32 = fieldNumber * 8 + wireType :=
    Nat.mod_eq_of_lt (by omega)
  rw [readField, encodeTag_eq field type, andThen_of_ok (decodeVarint_encodeVarint _ rest), whole,
    key_shiftRight type, key_and type]

/-- A field of 64 or of 32 bits: of wire type 1 or 5. -/
structure FixedField where
  fieldNumber : Nat
  wide : Bool
  payload : List UInt8

def FixedField.width (field : FixedField) : Nat := if field.wide then 8 else 4

def FixedField.type (field : FixedField) : Nat := if field.wide then 1 else 5

inductive MessageItem where
  | raw (field : RawField)
  | fixed (field : FixedField)

def ValidNumber (fieldNumber : Nat) : Prop := 0 < fieldNumber ∧ fieldNumber < 2 ^ 28

def ValidItem : MessageItem → Prop
  | .raw ⟨fieldNumber, .varint value⟩ => ValidNumber fieldNumber ∧ value < 2 ^ 32
  | .raw ⟨fieldNumber, .bytes _⟩ => ValidNumber fieldNumber
  | .fixed field => ValidNumber field.fieldNumber ∧ field.payload.length = field.width

/-- An item on the wire. -/
def encodeItem : MessageItem → List UInt8
  | .raw ⟨fieldNumber, .varint value⟩ => encodeVarintField fieldNumber value
  | .raw ⟨fieldNumber, .bytes value⟩ => encodeBytesField fieldNumber value
  | .fixed field => encodeTag field.fieldNumber field.type ++ field.payload

def rawField : MessageItem → Option RawField
  | .raw field => some field
  | .fixed _ => none

/-- An item that is read as it was written: its length has 32 bits if it is bytes. -/
def Implemented : MessageItem → Prop
  | .raw ⟨_, .varint _⟩ => True
  | .raw ⟨_, .bytes value⟩ => value.length < 2 ^ 32
  | .fixed _ => False

/-- The fields that the codec knows are read, the other ones are skipped. -/
def SkipsUnknown (items : List MessageItem) : Prop :=
  decodeFields (items.flatMap encodeItem) = .ok (items.filterMap rawField)

theorem readField_varint (field : fieldNumber < 2 ^ 28) (small : value < 2 ^ 32) :
    readField (encodeVarintField fieldNumber value ++ rest) =
      .ok (⟨fieldNumber, .varint value⟩, rest) := by
  rw [encodeVarintField, append_assoc, readField_tag field (by decide), readValue, if_pos rfl,
    converting, decodeVarint_encodeVarint, Nat.mod_eq_of_lt small]
  rfl

theorem readField_bytes (field : fieldNumber < 2 ^ 28) (payload : List UInt8) :
    readField (encodeBytesField fieldNumber payload ++ rest) =
      .ok (⟨fieldNumber, .bytes ((payload ++ rest).take (payload.length % 2 ^ 32))⟩,
        (payload ++ rest).drop (payload.length % 2 ^ 32)) := by
  have enough : ¬(payload ++ rest).length < payload.length % 2 ^ 32 := by
    have less := Nat.mod_le payload.length (2 ^ 32)
    rw [length_append]
    omega
  rw [encodeBytesField, append_assoc, append_assoc, readField_tag field (by decide),
    readValue, if_neg (by decide), if_pos rfl, converting,
    andThen_of_ok (decodeVarint_encodeVarint _ _), exactly, if_neg enough]
  rfl

theorem decodeFields_error {buf : List UInt8} {error : WireError}
    (refused : readField buf = .error error) (some : error ≠ .truncatedVarint) :
    decodeFields buf = .error error := by
  cases buf with
  | nil => exact (some (Except.error.inj refused).symm).elim
  | cons byte rest => simp only [decodeFields, length_cons, readAll, refused]

theorem FixedField.type_eq (field : FixedField) : field.type = 1 ∨ field.type = 5 := by
  rw [FixedField.type]
  split
  · exact .inl rfl
  · exact .inr rfl

theorem readField_fixed {field : FixedField} (small : field.fieldNumber < 2 ^ 28) :
    readField (encodeItem (.fixed field) ++ rest) = .error (.unsupportedWireType field.type) := by
  have type := field.type_eq
  rw [encodeItem, append_assoc, readField_tag small (by omega), readValue,
    if_neg (by omega), if_neg (by omega)]

theorem readField_implemented {item : MessageItem} (valid : ValidItem item)
    (implemented : Implemented item) :
    ∃ field, rawField item = some field ∧
      ∀ rest, readField (encodeItem item ++ rest) = .ok (field, rest) := by
  rcases item with ⟨fieldNumber, value | payload⟩ | field
  · exact ⟨_, rfl, fun rest => readField_varint valid.1.2 valid.2⟩
  · refine ⟨_, rfl, fun rest => ?_⟩
    rw [encodeItem, readField_bytes valid.2, Nat.mod_eq_of_lt implemented, take_left, drop_left]
  · exact implemented.elim

theorem takes_implemented {items : List MessageItem} (valid : ∀ item ∈ items, ValidItem item)
    (implemented : ∀ item ∈ items, Implemented item) (more : List UInt8) :
    Takes readField (items.flatMap encodeItem ++ more) (items.filterMap rawField) more := by
  induction items with
  | nil => exact .nil more
  | cons item others ih =>
    obtain ⟨field, known, reads⟩ := readField_implemented (valid item (.head _))
      (implemented item (.head _))
    rw [flatMap_cons, append_assoc, filterMap_cons_some known]
    exact .cons (reads _) (ih (fun other member => valid other (.tail _ member))
      fun other member => implemented other (.tail _ member))

theorem not_takes_unimplemented {item : MessageItem} (valid : ValidItem item)
    (not : ¬Implemented item) (others : List MessageItem) :
    ¬Takes readField (encodeItem item ++ rest) ((item :: others).filterMap rawField) [] := by
  intro takes
  rcases item with ⟨fieldNumber, value | payload⟩ | field
  · exact not trivial
  · cases takes with
    | cons taken _ =>
      rw [encodeItem, readField_bytes valid.2] at taken
      have same := congrArg RawField.value (Prod.mk.inj (Except.ok.inj taken)).1
      have lengths := congrArg List.length (FieldValue.bytes.inj same)
      have less := Nat.mod_lt payload.length (show 0 < 2 ^ 32 by decide)
      rw [length_take] at lengths
      exact not (by rw [Implemented]; omega)
  · have refused := @readField_fixed rest field valid.1.2
    generalize encodeItem (.fixed field) ++ rest = stream at takes refused
    generalize (MessageItem.fixed field :: others).filterMap rawField = fields at takes
    cases takes with
    | nil => cases refused
    | cons taken _ =>
      rw [refused] at taken
      cases taken

theorem implemented_of_takes {items : List MessageItem} (valid : ∀ item ∈ items, ValidItem item)
    (takes : Takes readField (items.flatMap encodeItem) (items.filterMap rawField) []) :
    ∀ item ∈ items, Implemented item := by
  induction items with
  | nil => exact fun item member => (nomatch member)
  | cons item others ih =>
    have first := valid item (.head _)
    rw [flatMap_cons] at takes
    by_cases implemented : Implemented item
    · obtain ⟨field, known, reads⟩ := readField_implemented first implemented
      rw [filterMap_cons_some known] at takes
      cases takes with
      | cons taken later =>
        rw [reads] at taken
        obtain ⟨-, rfl⟩ := Prod.mk.inj (Except.ok.inj taken)
        exact forall_mem_cons.mpr
          ⟨implemented, ih (fun other member => valid other (mem_cons_of_mem
            _ member)) later⟩
    · exact (not_takes_unimplemented first implemented others takes).elim

/--
The fields of a message are read back, and other ones skipped, if and only if
there are no other ones and no length needs more than 32 bits.
-/
theorem skipsUnknown_iff (items : List MessageItem) (valid : ∀ item ∈ items, ValidItem item) :
    SkipsUnknown items ↔ ∀ item ∈ items, Implemented item := by
  rw [SkipsUnknown, decodeFields, readAll_eq_ok_iff readField_advances (Nat.le_refl _)]
  refine ⟨implemented_of_takes valid, fun implemented => ?_⟩
  have takes := takes_implemented valid implemented []
  rwa [append_nil] at takes

/-- A number of two groups and some bytes. -/
def someItems : List MessageItem :=
  [.raw ⟨1, .varint 300⟩, .raw ⟨2 ^ 28 - 1, .bytes [1, 2]⟩]

theorem someItems_valid : ∀ item ∈ someItems, ValidItem item := by
  intro item member
  rcases mem_cons.mp member with rfl | member
  · exact ⟨⟨by decide, by decide⟩, by decide⟩
  · obtain rfl := mem_singleton.mp member
    exact ⟨by decide, by decide⟩

theorem someItems_skipsUnknown : SkipsUnknown someItems := by
  refine (skipsUnknown_iff someItems someItems_valid).mpr fun item member => ?_
  rcases mem_cons.mp member with rfl | member
  · exact trivial
  · obtain rfl := mem_singleton.mp member
    exact show (2 : Nat) < 2 ^ 32 by decide

/-- A field of 32 bits before a known one. -/
def fixedBefore : List MessageItem :=
  [.fixed ⟨9, false, [1, 2, 3, 4]⟩, .raw ⟨1, .varint 5⟩]

theorem fixedBefore_is_fatal : (∀ item ∈ fixedBefore, ValidItem item) ∧
      decodeFields (fixedBefore.flatMap encodeItem) = .error (.unsupportedWireType 5) ∧
      ¬SkipsUnknown fixedBefore := by
  have refused : decodeFields (fixedBefore.flatMap encodeItem) =
      .error (.unsupportedWireType 5) :=
    decodeFields_error (@readField_fixed _ ⟨9, false, [1, 2, 3, 4]⟩ (by decide)) nofun
  refine ⟨fun item member => ?_, refused, fun skips => ?_⟩
  · rcases mem_cons.mp member with rfl | member
    · exact ⟨⟨by decide, by decide⟩, rfl⟩
    · obtain rfl := mem_singleton.mp member
      exact ⟨⟨by decide, by decide⟩, by decide⟩
  · rw [SkipsUnknown, refused] at skips
    cases skips

end SupremeOs.Protocols.AndroidTvProtobufWire
