import SupremeOs.DomainModel.JsValue
import SupremeOs.Support.Utf16

/-!
# OPACK codec

The binary format of the payloads of a media player.  Every value starts with a
tag byte, which holds a small integer, a short length or the number of bytes of
a longer one.  Arrays and objects of fifteen or more entries are ended by a
terminator byte.  The encoder never uses back references; the decoder resolves
them against the list of values it has seen.

An object lists its members in the order in which the language enumerates them.
-/

namespace SupremeOs.Protocols.AppleTvOpack

open Support DomainModel

abbrev JsString := List UInt16

inductive OpackValue where
  | null
  | boolean (value : Bool)
  | number (value : JsNumber)
  | bigint (value : Int)
  | text (value : JsString)
  | bytes (data : List UInt8)
  | array (items : List OpackValue)
  | object (members : List (JsString × OpackValue))

inductive OpackError where
  | error (message : String)
  /-- The runtime refuses a number, or a read outside a buffer. -/
  | rangeError
  /-- The runtime refuses to convert an object to a string. -/
  | typeError
  | outOfFuel

def isDigit (unit : UInt16) : Bool := 0x30 ≤ unit.toNat && unit.toNat ≤ 0x39

def arrayIndex (key : JsString) : Option Nat :=
  let value := key.foldl (fun value unit => value * 10 + (unit.toNat - 0x30)) 0
  if key.all isDigit && key ≠ [] && (key.head? ≠ some 0x30 || key = [0x30]) &&
      value < 2 ^ 32 - 1 then
    some value
  else none

/-- Two keys of one object are enumerated in this order. -/
def enumeratesBefore (first second : JsString) : Bool :=
  match arrayIndex first, arrayIndex second with
  | some left, some right => decide (left < right)
  | some _, none => true
  | none, some _ => false
  | none, none => decide (first ≠ second)

/-- The key whose assignment sets the prototype of an object and makes no member. -/
def protoKey : JsString :=
  [0x5F, 0x5F, 0x70, 0x72, 0x6F, 0x74, 0x6F, 0x5F, 0x5F]

/-- The members with an index that is less than a given one. -/
def hasIndexBelow (index : Nat) (member : JsString × OpackValue) : Bool :=
  (arrayIndex member.1).any fun other => other < index

def assign (members : List (JsString × OpackValue)) (key : JsString) (value : OpackValue) :
    List (JsString × OpackValue) :=
  if key = protoKey then members
  else if key ∈ members.map Prod.fst then
    members.map fun member => if member.1 = key then (key, value) else member
  else
    match arrayIndex key with
    | none => members ++ [(key, value)]
    | some index =>
      members.takeWhile (hasIndexBelow index) ++ (key, value) ::
        members.dropWhile (hasIndexBelow index)

/-- The low bytes of a number, the least significant one first. -/
def u (value : Nat) : Nat → List UInt8
  | 0 => []
  | count + 1 => UInt8.ofNat value :: u (value / 256) count

/-- The number that bytes denote, the least significant one first. -/
def ofLittleEndian : List UInt8 → Nat
  | [] => 0
  | byte :: rest => byte.toNat + 256 * ofLittleEndian rest

/-- The number with these bits in a binary floating-point format. -/
def ofFloatBits (exponentBits fractionBits bits : Nat) : JsNumber :=
  let fraction := bits % 2 ^ fractionBits
  let exponent := bits / 2 ^ fractionBits % 2 ^ exponentBits
  let negative := bits / 2 ^ (exponentBits + fractionBits) % 2 = 1
  let bias : Int := 2 ^ (exponentBits - 1) - 1
  if exponent = 2 ^ exponentBits - 1 then
    if fraction ≠ 0 then .notANumber
    else if negative then .negativeInfinity else .positiveInfinity
  else
    let magnitude : ℚ :=
      if exponent = 0 then fraction * (2 : ℚ) ^ (1 - bias - fractionBits)
      else (2 ^ fractionBits + fraction) * (2 : ℚ) ^ (exponent - bias - fractionBits)
    .finite (if negative then -magnitude else magnitude)

def doubleBits (value : ℚ) : Nat :=
  let step : ℤ := max (Int.log 2 |value| - 52) (-1074)
  let scaled : Nat := ⌊|value| / (2 : ℚ) ^ step⌋.toNat
  let magnitude :=
    if scaled < 2 ^ 52 then scaled else (step + 1075).toNat * 2 ^ 52 + (scaled - 2 ^ 52)
  if value < 0 then 2 ^ 63 + magnitude else magnitude

/-- The byte that a number becomes in a buffer. -/
def toUint8 : JsNumber → UInt8
  | .finite value => UInt8.ofNat ((if value < 0 then ⌈value⌉ else ⌊value⌋) % 256).toNat
  | _ => 0

def packInteger (value : Int) : List UInt8 :=
  if value < 0x28 then
    match roundToDouble value with
    | .finite number => [toUint8 (roundToDouble (number + 8))]
    | other => [toUint8 other]
  else if value ≤ 0xff then 0x30 :: u value.toNat 1
  else if value ≤ 0xffff then 0x31 :: u value.toNat 2
  else if value ≤ 0xffffffff then 0x32 :: u value.toNat 4
  else 0x33 :: u value.toNat 8

def packNumber : JsNumber → Except OpackError (List UInt8)
  | .finite value =>
    if value.den = 1 then .ok (packInteger value.num)
    else .ok (0x36 :: u (doubleBits value) 8)
  -- The conversion to a bigint comes first.
  | _ => .error .rangeError

def packString (value : JsString) : List UInt8 :=
  let encoded := Utf16.utf8Bytes value
  let length := encoded.length
  if length ≤ 0x20 then UInt8.ofNat (0x40 + length) :: encoded
  else if length ≤ 0xff then 0x61 :: u length 1 ++ encoded
  else if length ≤ 0xffff then 0x62 :: u length 2 ++ encoded
  else if length ≤ 0xffffff then 0x63 :: u length 3 ++ encoded
  else 0x64 :: u length 4 ++ encoded

def packBytes (data : List UInt8) : List UInt8 :=
  let length := data.length
  if length ≤ 0x20 then UInt8.ofNat (0x70 + length) :: data
  else if length ≤ 0xff then 0x91 :: u length 1 ++ data
  else if length ≤ 0xffff then 0x92 :: u length 2 ++ data
  else if length ≤ 0xffffffff then 0x93 :: u length 4 ++ data
  else 0x94 :: u length 8 ++ data

/-- The byte that ends a long container. -/
def terminator (count : Nat) : List UInt8 := if 0xf ≤ count then [0x03] else []

mutual

def packValue : OpackValue → Except OpackError (List UInt8)
  | .null => .ok [0x04]
  | .boolean value => .ok [if value then 1 else 2]
  | .number value => packNumber value
  | .bigint value => .ok (packInteger value)
  | .text value => .ok (packString value)
  | .bytes data => .ok (packBytes data)
  | .array items => do
    let parts ← packItems items
    .ok (UInt8.ofNat (0xd0 + min items.length 0xf) :: parts ++ terminator items.length)
  | .object members => do
    let parts ← packMembers members
    .ok (UInt8.ofNat (0xe0 + min members.length 0xf) :: parts ++ terminator members.length)

def packItems : List OpackValue → Except OpackError (List UInt8)
  | [] => .ok []
  | item :: rest => do
    let first ← packValue item
    let others ← packItems rest
    .ok (first ++ others)

def packMembers : List (JsString × OpackValue) → Except OpackError (List UInt8)
  | [] => .ok []
  | (key, value) :: rest => do
    let first ← packValue value
    let others ← packMembers rest
    .ok (packString key ++ first ++ others)

end

def opackPack (data : OpackValue) : Except OpackError (List UInt8) := packValue data

/-- What has been read, the bytes after it, and the values seen so far. -/
structure Unpacked (Value : Type) where
  value : Value
  remaining : List UInt8
  objectList : List OpackValue

/-- Read an unsigned number from the start of some bytes. -/
def readUIntLE (count : Nat) (body : List UInt8) : Except OpackError Nat :=
  if count = 0 ∨ 6 < count ∨ body.length < count then .error .rangeError
  else .ok (ofLittleEndian (body.take count))

/-- Read eight bytes, or the four or eight bytes of a floating-point number. -/
def readWord (count : Nat) (body : List UInt8) : Except OpackError Nat :=
  if body.length < count then .error .rangeError else .ok (ofLittleEndian (body.take count))

/-- A value that later back references can refer to. -/
def remember (value : OpackValue) (remaining : List UInt8) (objectList : List OpackValue) :
    Except OpackError (Unpacked OpackValue) :=
  .ok ⟨value, remaining, objectList ++ [value]⟩

def unpackUnsigned (size : Nat) (body : List UInt8) (objectList : List OpackValue) :
    Except OpackError (Unpacked OpackValue) := do
  let value ← readUIntLE (min size 6) body
  if size = 8 then
    let wide ← readWord 8 body
    remember (.number (roundToDouble wide)) (body.drop size) objectList
  else remember (.number (.finite value)) (body.drop size) objectList

def unpackText (length : Nat) (body : List UInt8) (objectList : List OpackValue) :
    Except OpackError (Unpacked OpackValue) :=
  remember (.text (Utf16.text (body.take length))) (body.drop length) objectList

def unpackBytes (length : Nat) (body : List UInt8) (objectList : List OpackValue) :
    Except OpackError (Unpacked OpackValue) :=
  remember (.bytes (body.take length)) (body.drop length) objectList

def backReference (index : Nat) (remaining : List UInt8) (objectList : List OpackValue) :
    Except OpackError (Unpacked OpackValue) :=
  match objectList[index]? with
  | none => .error (.error ("opack: back-reference " ++ toString index ++ " out of range"))
  | some value => remember value remaining objectList

/-- A tag as an error message shows it. -/
def hexadecimal (tag : Nat) : String := String.ofList (Nat.toDigits 16 tag)

/-- The key of a member; `stringOf` converts values that are not strings. -/
def keyText (stringOf : OpackValue → Option JsString) : OpackValue → Except OpackError JsString
  | .text value => .ok value
  | other =>
    match stringOf other with
    | some value => .ok value
    | none => .error .typeError

section Unpack

variable (stringOf : OpackValue → Option JsString)

mutual

def unpackValue : Nat → List UInt8 → List OpackValue → Except OpackError (Unpacked OpackValue)
  | 0, _, _ => .error .outOfFuel
  | _ + 1, [], _ => .error (.error "opack: unexpected end of data")
  | fuel + 1, first :: body, objectList =>
    let tag := first.toNat
    if tag = 0x01 then .ok ⟨.boolean true, body, objectList⟩
    else if tag = 0x02 then .ok ⟨.boolean false, body, objectList⟩
    else if tag = 0x04 then .ok ⟨.null, body, objectList⟩
    else if tag = 0x05 then unpackBytes 16 body objectList
    -- An integer of eight bytes is more than the runtime reads.
    else if tag = 0x06 then .error .rangeError
    else if 0x08 ≤ tag ∧ tag ≤ 0x2f then
      .ok ⟨.number (.finite ((tag - 8 : Nat) : ℚ)), body, objectList⟩
    else if tag = 0x35 then do
      let bits ← readWord 4 body
      remember (.number (ofFloatBits 8 23 bits)) (body.drop 4) objectList
    else if tag = 0x36 then do
      let bits ← readWord 8 body
      remember (.number (ofFloatBits 11 52 bits)) (body.drop 8) objectList
    else if tag / 16 = 0x3 then unpackUnsigned (2 ^ (tag % 16)) body objectList
    else if 0x40 ≤ tag ∧ tag ≤ 0x60 then unpackText (tag - 0x40) body objectList
    else if 0x60 < tag ∧ tag ≤ 0x64 then do
      let length ← readUIntLE (tag % 16) body
      unpackText length (body.drop (tag % 16)) objectList
    else if 0x70 ≤ tag ∧ tag ≤ 0x90 then unpackBytes (tag - 0x70) body objectList
    else if 0x91 ≤ tag ∧ tag ≤ 0x94 then do
      let length ← readUIntLE (2 ^ (tag % 16 - 1)) body
      unpackBytes length (body.drop (2 ^ (tag % 16 - 1))) objectList
    else if tag / 16 = 0xd then do
      let items ← unpackItems fuel (if tag % 16 = 0xf then none else some (tag % 16)) body
        objectList
      .ok ⟨.array items.value, items.remaining, items.objectList⟩
    else if tag / 32 = 0x7 then do
      let members ← unpackMembers fuel (if tag % 16 = 0xf then none else some (tag % 16)) []
        body objectList
      .ok ⟨.object members.value, members.remaining, members.objectList⟩
    else if 0xa0 ≤ tag ∧ tag ≤ 0xc0 then backReference (tag - 0xa0) body objectList
    else if 0xc1 ≤ tag ∧ tag ≤ 0xc4 then do
      let index ← readUIntLE (tag - 0xc0) body
      backReference index (body.drop (tag - 0xc0)) objectList
    else .error (.error ("opack: unknown tag 0x" ++ hexadecimal tag))

/-- The entries of an array; without a count they go on to the terminator. -/
def unpackItems : Nat → Option Nat → List UInt8 → List OpackValue →
    Except OpackError (Unpacked (List OpackValue))
  | 0, _, _, _ => .error .outOfFuel
  | fuel + 1, count, data, objectList =>
    if count = some 0 then .ok ⟨[], data, objectList⟩
    else if count = none ∧ data.head? = some 0x03 then .ok ⟨[], data.drop 1, objectList⟩
    else do
      let item ← unpackValue fuel data objectList
      let rest ← unpackItems fuel (count.map (· - 1)) item.remaining item.objectList
      .ok ⟨item.value :: rest.value, rest.remaining, rest.objectList⟩

def unpackMembers : Nat → Option Nat → List (JsString × OpackValue) → List UInt8 →
    List OpackValue → Except OpackError (Unpacked (List (JsString × OpackValue)))
  | 0, _, _, _, _ => .error .outOfFuel
  | fuel + 1, count, output, data, objectList =>
    if count = some 0 then .ok ⟨output, data, objectList⟩
    else if count = none ∧ data.head? = some 0x03 then .ok ⟨output, data.drop 1, objectList⟩
    else do
      let key ← unpackValue fuel data objectList
      let value ← unpackValue fuel key.remaining key.objectList
      let name ← keyText stringOf key.value
      unpackMembers fuel (count.map (· - 1)) (assign output name value.value)
        value.remaining value.objectList

end

/-- Unpack the first value; twice the number of bytes is fuel enough. -/
def opackUnpack (data : List UInt8) : Except OpackError (OpackValue × List UInt8) := do
  let unpacked ← unpackValue stringOf (2 * data.length + 1) data []
  .ok (unpacked.value, unpacked.remaining)

end Unpack

/-- An outcome that leaves less bytes than a bound, or an error that is not for want of fuel. -/
def Within {Value : Type} (bound : Nat) : Except OpackError (Unpacked Value) → Prop
  | .ok unpacked => unpacked.remaining.length < bound
  | .error error => error ≠ .outOfFuel

namespace Within

variable {Value : Type} {bound : Nat}

theorem ite {condition : Prop} [Decidable condition]
    {first second : Except OpackError (Unpacked Value)} (left : Within bound first)
    (right : Within bound second) : Within bound (if condition then first else second) := by
  split
  · exact left
  · exact right

theorem bind {Read : Type} {read : Except OpackError Read}
    {next : Read → Except OpackError (Unpacked Value)} (fueled : read ≠ .error .outOfFuel)
    (onward : ∀ result, read = .ok result → Within bound (next result)) :
    Within bound (read >>= next) := by
  cases read with
  | error error => exact fun same => fueled (congrArg Except.error same)
  | ok result => exact onward result rfl

theorem bind_unpacked {Read : Type} {inner : Nat} {read : Except OpackError (Unpacked Read)}
    {next : Unpacked Read → Except OpackError (Unpacked Value)} (within : Within inner read)
    (onward : ∀ result, result.remaining.length < inner → Within bound (next result)) :
    Within bound (read >>= next) := by
  cases read with
  | error error => exact within
  | ok result => exact onward result within

theorem mono {larger : Nat} {outcome : Except OpackError (Unpacked Value)}
    (within : Within bound outcome) (order : bound ≤ larger) : Within larger outcome := by
  cases outcome with
  | error error => exact within
  | ok result => exact Nat.lt_of_lt_of_le within order

theorem remember_drop (value : OpackValue) (count : Nat) (body : List UInt8)
    (objectList : List OpackValue) :
    Within (body.length + 1) (remember value (body.drop count) objectList) := by
  show (body.drop count).length < body.length + 1
  rw [List.length_drop]
  omega

end Within

theorem readUIntLE_fueled (count : Nat) (body : List UInt8) :
    readUIntLE count body ≠ .error .outOfFuel := by
  unfold readUIntLE
  split <;> simp

theorem readWord_fueled (count : Nat) (body : List UInt8) :
    readWord count body ≠ .error .outOfFuel := by
  unfold readWord
  split <;> simp

theorem keyText_fueled (stringOf : OpackValue → Option JsString) (value : OpackValue) :
    keyText stringOf value ≠ .error .outOfFuel := by
  unfold keyText
  split
  · simp
  · split <;> simp

theorem backReference_within (index : Nat) {remaining : List UInt8} {bound : Nat}
    (short : remaining.length < bound) (objectList : List OpackValue) :
    Within bound (backReference index remaining objectList) := by
  unfold backReference
  split
  · exact fun same => OpackError.noConfusion same
  · exact short

theorem unpackUnsigned_within (size : Nat) (body : List UInt8) (objectList : List OpackValue) :
    Within (body.length + 1) (unpackUnsigned size body objectList) := by
  refine Within.bind (readUIntLE_fueled _ _) fun value _ => Within.ite ?_ ?_
  · exact Within.bind (readWord_fueled _ _) fun wide _ => Within.remember_drop ..
  · exact Within.remember_drop ..

theorem longReference_within (count : Nat) (body : List UInt8) (objectList : List OpackValue) :
    Within (body.length + 1) (readUIntLE count body >>= fun index =>
      backReference index (body.drop count) objectList) := by
  refine Within.bind (readUIntLE_fueled count body) fun index _ => ?_
  refine backReference_within index ?_ objectList
  rw [List.length_drop]
  omega

theorem length_drop_drop (first second : Nat) (body : List UInt8) :
    ((body.drop first).drop second).length < body.length + 1 := by
  rw [List.length_drop, List.length_drop]
  omega

variable {stringOf : OpackValue → Option JsString} {fuel : Nat}

theorem unpackItems_within (values : ∀ data objectList, 2 * data.length + 1 ≤ fuel →
      Within data.length (unpackValue stringOf fuel data objectList))
    (items : ∀ count data objectList, 2 * data.length + 2 ≤ fuel →
      Within (data.length + 1) (unpackItems stringOf fuel count data objectList))
    (count : Option Nat) (data : List UInt8) (objectList : List OpackValue)
    (enough : 2 * data.length + 2 ≤ fuel + 1) :
    Within (data.length + 1) (unpackItems stringOf (fuel + 1) count data objectList) := by
  rw [unpackItems]
  refine Within.ite (Nat.lt_succ_self _) (Within.ite (length_drop_drop 0 1 data) ?_)
  refine Within.bind_unpacked (values data objectList (by omega)) fun item shorter => ?_
  refine Within.bind_unpacked (items _ _ _ (by omega)) fun rest within => ?_
  exact Nat.lt_of_lt_of_le within (by omega)

theorem unpackMembers_within (values : ∀ data objectList, 2 * data.length + 1 ≤ fuel →
      Within data.length (unpackValue stringOf fuel data objectList))
    (members : ∀ count output data objectList, 2 * data.length + 2 ≤ fuel →
      Within (data.length + 1) (unpackMembers stringOf fuel count output data objectList))
    (count : Option Nat) (output : List (JsString × OpackValue)) (data : List UInt8)
    (objectList : List OpackValue) (enough : 2 * data.length + 2 ≤ fuel + 1) :
    Within (data.length + 1)
      (unpackMembers stringOf (fuel + 1) count output data objectList) := by
  rw [unpackMembers]
  refine Within.ite (Nat.lt_succ_self _) (Within.ite (length_drop_drop 0 1 data) ?_)
  refine Within.bind_unpacked (values data objectList (by omega)) fun key shorter => ?_
  refine Within.bind_unpacked (values _ _ (by omega)) fun value shortest => ?_
  refine Within.bind (keyText_fueled _ _) fun name _ => ?_
  have within := members (count.map (· - 1)) (assign output name value.value) value.remaining
    value.objectList (by omega)
  exact within.mono (by omega)

theorem unpackValue_within (items : ∀ count data objectList, 2 * data.length + 2 ≤ fuel →
      Within (data.length + 1) (unpackItems stringOf fuel count data objectList))
    (members : ∀ count output data objectList, 2 * data.length + 2 ≤ fuel →
      Within (data.length + 1) (unpackMembers stringOf fuel count output data objectList))
    (data : List UInt8) (objectList : List OpackValue) (enough : 2 * data.length + 1 ≤ fuel + 1) :
    Within data.length (unpackValue stringOf (fuel + 1) data objectList) := by
  cases data with
  | nil => exact fun same => OpackError.noConfusion same
  | cons first body =>
    have whole : body.length < body.length + 1 := Nat.lt_succ_self _
    rw [List.length_cons] at enough ⊢
    rw [unpackValue]
    refine Within.ite whole (Within.ite whole (Within.ite whole
      (Within.ite (Within.remember_drop ..) (Within.ite ?_ (Within.ite whole
        (Within.ite ?_ (Within.ite ?_ (Within.ite (unpackUnsigned_within ..)
          (Within.ite (Within.remember_drop ..) (Within.ite ?_
            (Within.ite (Within.remember_drop ..) (Within.ite ?_ (Within.ite ?_
              (Within.ite ?_ (Within.ite (backReference_within _ whole _)
                (Within.ite ?_ ?_))))))))))))))))
    · exact fun same => OpackError.noConfusion same
    · exact Within.bind (readWord_fueled _ _) fun bits _ => Within.remember_drop ..
    · exact Within.bind (readWord_fueled _ _) fun bits _ => Within.remember_drop ..
    · exact Within.bind (readUIntLE_fueled _ _) fun length _ => length_drop_drop ..
    · exact Within.bind (readUIntLE_fueled _ _) fun length _ => length_drop_drop ..
    · exact Within.bind_unpacked (items _ _ _ (by omega)) fun rest within => within
    · exact Within.bind_unpacked (members _ _ _ _ (by omega)) fun rest within => within
    · generalize first.toNat - 0xc0 = count
      exact longReference_within count body objectList
    · exact fun same => OpackError.noConfusion same

theorem unpack_within (stringOf : OpackValue → Option JsString) (fuel : Nat) :
    (∀ data objectList, 2 * data.length + 1 ≤ fuel →
        Within data.length (unpackValue stringOf fuel data objectList)) ∧
      (∀ count data objectList, 2 * data.length + 2 ≤ fuel →
        Within (data.length + 1) (unpackItems stringOf fuel count data objectList)) ∧
      ∀ count output data objectList, 2 * data.length + 2 ≤ fuel →
        Within (data.length + 1) (unpackMembers stringOf fuel count output data objectList) := by
  induction fuel with
  | zero => exact ⟨fun _ _ _ => by omega, fun _ _ _ _ => by omega, fun _ _ _ _ _ => by omega⟩
  | succ fuel ih =>
    rcases ih with ⟨values, items, members⟩
    exact ⟨unpackValue_within items members, unpackItems_within values items,
      unpackMembers_within values members⟩

theorem opackUnpack_fueled (stringOf : OpackValue → Option JsString) (data : List UInt8) :
    opackUnpack stringOf data ≠ .error .outOfFuel := by
  have within := (unpack_within stringOf (2 * data.length + 1)).1 data [] (Nat.le_refl _)
  unfold opackUnpack
  cases unpacked : unpackValue stringOf (2 * data.length + 1) data [] with
  | ok result => exact fun same => nomatch same
  | error error =>
    rw [unpacked] at within
    exact fun same => within (Except.error.inj same)

end SupremeOs.Protocols.AppleTvOpack
