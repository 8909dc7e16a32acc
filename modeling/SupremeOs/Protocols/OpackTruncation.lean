import SupremeOs.Protocols.OpackCuts

/-!
# Truncated OPACK

The start of what a value is packed into should be refused.  It is taken for a
shorter value if nothing has to follow the string or byte string that is cut off:
if the value is that string, or a container of less than fifteen entries whose
last one is.

Byte strings whose length takes eight bytes are refused wherever they stand.
-/

namespace SupremeOs.Protocols.AppleTvOpack

open Support DomainModel List

/-- The values whose integers are not negative. -/
inductive Nonnegative : OpackValue → Prop where
  | null : Nonnegative .null
  | boolean (value : Bool) : Nonnegative (.boolean value)
  | number (value : JsNumber)
      (nonnegative : ∀ number : ℚ, value = .finite number → number.den = 1 → 0 ≤ number) :
      Nonnegative (.number value)
  | bigint (value : Int) (nonnegative : 0 ≤ value) : Nonnegative (.bigint value)
  /-- The runtime has no strings of more bytes. -/
  | text (value : JsString) (short : (Utf16.utf8Bytes value).length < 2 ^ 32) :
      Nonnegative (.text value)
  | bytes (data : List UInt8) : Nonnegative (.bytes data)
  | array (items : List OpackValue) (each : ∀ item ∈ items, Nonnegative item) :
      Nonnegative (.array items)
  | object (members : List (JsString × OpackValue))
      (keys : ∀ member ∈ members, (Utf16.utf8Bytes member.1).length < 2 ^ 32)
      (each : ∀ member ∈ members, Nonnegative member.2) : Nonnegative (.object members)

/-- A byte string whose length is not read is somewhere inside. -/
inductive Unreadable : OpackValue → Prop where
  | bytes (data : List UInt8) (long : 2 ^ 32 ≤ data.length) : Unreadable (.bytes data)
  | item {items : List OpackValue} {item : OpackValue} (member : item ∈ items)
      (unreadable : Unreadable item) : Unreadable (.array items)
  | value {members : List (JsString × OpackValue)} {member : JsString × OpackValue}
      (found : member ∈ members) (unreadable : Unreadable member.2) :
      Unreadable (.object members)

/-- The last bytes of a value are those of a string that nothing follows. -/
inductive EndsOpen : OpackValue → Prop where
  | text (value : JsString) (nonempty : value ≠ []) : EndsOpen (.text value)
  | bytes (data : List UInt8) (nonempty : data ≠ []) (short : data.length < 2 ^ 32) :
      EndsOpen (.bytes data)
  | array (items : List OpackValue) (last : OpackValue) (few : items.length + 1 < 0xf)
      (readable : ∀ item ∈ items, ¬Unreadable item) (endsOpen : EndsOpen last) :
      EndsOpen (.array (items ++ [last]))
  | object (members : List (JsString × OpackValue)) (last : JsString × OpackValue)
      (few : members.length + 1 < 0xf) (readable : ∀ member ∈ members, ¬Unreadable member.2)
      (endsOpen : EndsOpen last.2) : EndsOpen (.object (members ++ [last]))

/-- Nothing is built from bytes of which some are missing. -/
def RejectsTruncation (stringOf : OpackValue → Option JsString) (bytes : List UInt8) : Prop :=
  ∀ part, part <+: bytes → part ≠ bytes → ∃ error, opackUnpack stringOf part = .error error

variable {items : List OpackValue} {members : List (JsString × OpackValue)}

theorem packItems_pieces {Piece : OpackValue → List UInt8 → Prop} {parts : List UInt8}
    (each : ∀ item ∈ items, ∀ bytes, packValue item = .ok bytes → Piece item bytes)
    (packed : packItems items = .ok parts) :
    ∃ pieces, parts = pieces.flatten ∧ List.Forall₂ Piece items pieces := by
  induction items generalizing parts with
  | nil => exact ⟨[], (Except.ok.inj packed).symm, .nil⟩
  | cons item items ih =>
    rw [packItems] at packed
    obtain ⟨first, firstPacked, packed⟩ := exists_of_bind_eq_ok packed
    obtain ⟨others, othersPacked, packed⟩ := exists_of_bind_eq_ok packed
    obtain ⟨pieces, rfl, all⟩ := ih
      (fun other member => each other (.tail _ member)) othersPacked
    refine ⟨first :: pieces, (Except.ok.inj packed).symm, .cons ?_ all⟩
    exact each item (.head _) first firstPacked

theorem packMembers_pieces {Piece : JsString × OpackValue → List UInt8 → Prop} {parts : List UInt8}
    (each : ∀ member ∈ members, ∀ bytes, packValue member.2 = .ok bytes →
      Piece member (packString member.1 ++ bytes))
    (packed : packMembers members = .ok parts) :
    ∃ pieces, parts = pieces.flatten ∧ List.Forall₂ Piece members pieces := by
  induction members generalizing parts with
  | nil => exact ⟨[], (Except.ok.inj packed).symm, .nil⟩
  | cons member members ih =>
    obtain ⟨key, value⟩ := member
    rw [packMembers] at packed
    obtain ⟨first, firstPacked, packed⟩ := exists_of_bind_eq_ok packed
    obtain ⟨others, othersPacked, packed⟩ := exists_of_bind_eq_ok packed
    obtain ⟨pieces, rfl, all⟩ := ih
      (fun other member => each other (.tail _ member)) othersPacked
    refine ⟨(packString key ++ first) :: pieces, (Except.ok.inj packed).symm, .cons ?_ all⟩
    exact each (key, value) (.head _) first firstPacked

theorem unreadable_array : Unreadable (.array items) ↔ ∃ item ∈ items, Unreadable item := by
  constructor
  · rintro (_ | ⟨member, unreadable⟩)
    exact ⟨_, member, unreadable⟩
  · rintro ⟨item, member, unreadable⟩
    exact .item member unreadable

theorem unreadable_object :
    Unreadable (.object members) ↔ ∃ member ∈ members, Unreadable member.2 := by
  constructor
  · rintro (_ | _ | ⟨found, unreadable⟩)
    exact ⟨_, found, unreadable⟩
  · rintro ⟨member, found, unreadable⟩
    exact .value found unreadable

theorem endsOpen_text {value : JsString} : EndsOpen (.text value) ↔ value ≠ [] := by
  constructor
  · intro ended
    cases ended with
    | text _ nonempty => exact nonempty
  · exact .text value

theorem endsOpen_bytes {data : List UInt8} (short : data.length < 2 ^ 32) :
    EndsOpen (.bytes data) ↔ data ≠ [] := by
  constructor
  · intro ended
    cases ended with
    | bytes _ nonempty _ => exact nonempty
  · exact fun nonempty => .bytes data nonempty short

theorem endsOpen_array : EndsOpen (.array items) ↔
      decide (0xf ≤ items.length) = false ∧ LastOpen Unreadable EndsOpen items := by
  constructor
  · intro ends
    cases ends with
    | array items last few readable ended =>
      refine ⟨decide_eq_false ?_, items, last, rfl, readable, ended⟩
      rw [length_append, length_singleton]
      omega
  · rintro ⟨few, items, last, rfl, readable, ended⟩
    refine .array items last ?_ readable ended
    have few := of_decide_eq_false few
    rw [length_append, length_singleton] at few
    omega

theorem endsOpen_object : EndsOpen (.object members) ↔ decide (0xf ≤ members.length) = false ∧
        LastOpen (fun member => Unreadable member.2) (fun member => EndsOpen member.2) members := by
  constructor
  · intro ends
    cases ends with
    | object members last few readable ended =>
      refine ⟨decide_eq_false ?_, members, last, rfl, readable, ended⟩
      rw [length_append, length_singleton]
      omega
  · rintro ⟨few, members, last, rfl, readable, ended⟩
    refine .object members last ?_ readable ended
    have few := of_decide_eq_false few
    rw [length_append, length_singleton] at few
    omega

theorem utf8Bytes_eq_nil {value : JsString} : Utf16.utf8Bytes value = [] ↔ value = [] := by
  constructor
  · intro none
    by_contra nonempty
    have points : Utf16.codePoints value ≠ [] := by
      cases value with
      | nil => exact absurd rfl nonempty
      | cons unit rest =>
        cases rest with
        | nil => exact cons_ne_nil _ _
        | cons low rest =>
          rw [Utf16.codePoints]
          split <;> exact cons_ne_nil _ _
    obtain ⟨point, others, same⟩ := exists_cons_of_ne_nil points
    rw [Utf16.utf8Bytes, same, flatMap_cons] at none
    have encoded := congrArg List.length (append_eq_nil_iff.mp none).1
    rw [String.length_utf8EncodeChar] at encoded
    exact (Char.utf8Size_pos _).ne' encoded
  · rintro rfl
    rfl

theorem packString_textual (value : JsString) :
    ∃ tag more, packString value = tag :: more ∧ 0x40 ≤ tag.toNat ∧ tag.toNat ≤ 0x64 := by
  unfold packString
  dsimp only
  split
  · rename_i tiny
    have tag := toNat_tag (show 0x40 + (Utf16.utf8Bytes value).length < 256 by omega)
    exact ⟨_, _, rfl, by omega, by omega⟩
  · split
    · exact ⟨_, _, rfl, by decide, by decide⟩
    · split
      · exact ⟨_, _, rfl, by decide, by decide⟩
      · split <;> exact ⟨_, _, rfl, by decide, by decide⟩

theorem Nonnegative.cut (stringOf : OpackValue → Option JsString) {value : OpackValue}
    (nonnegative : Nonnegative value) {bytes : List UInt8} (packed : packValue value = .ok bytes) :
    Cut (unpackValue stringOf) (Unreadable value) (EndsOpen value) bytes := by
  induction nonnegative generalizing bytes with
  | null =>
    cases packed
    exact cut_null (by rintro ⟨⟩) (by rintro ⟨⟩)
  | boolean value =>
    cases packed
    exact cut_boolean (by rintro ⟨⟩) (by rintro ⟨⟩) value
  | number value nonnegative =>
    exact cut_number (by rintro ⟨⟩) (by rintro ⟨⟩) nonnegative packed
  | bigint value nonnegative =>
    cases packed
    rw [← Int.toNat_of_nonneg nonnegative]
    exact cut_integer (by rintro ⟨⟩) (by rintro ⟨⟩) _
  | text value short =>
    cases packed
    refine cut_string (by rintro ⟨⟩) short ?_
    rw [endsOpen_text, Ne, Ne, utf8Bytes_eq_nil]
  | bytes data =>
    cases packed
    by_cases short : data.length < 2 ^ 32
    · refine cut_bytes ?_ short (endsOpen_bytes short)
      rintro ⟨_, long⟩
      omega
    · refine cut_longBytes (.bytes data (by omega)) ?_ (by omega)
      rintro ⟨_, _, short⟩
      omega
  | array items _ ih =>
    rw [packValue] at packed
    obtain ⟨parts, partsPacked, packed⟩ := exists_of_bind_eq_ok packed
    cases packed
    obtain ⟨pieces, rfl, cuts⟩ := packItems_pieces
      (fun item member bytes packed => ih item member packed) partsPacked
    obtain ⟨tag, count, ends⟩ := tag_container 0xd0 items.length (by omega) (by omega)
    rw [propext unreadable_array, propext endsOpen_array, ends]
    refine cut_container (cutLoop repeats_items cuts) (by omega) () .array
      fun body objectList fuel => ?_
    rw [unpack_array (by omega), tag, count]
  | object members keys _ ih =>
    rw [packValue] at packed
    obtain ⟨parts, partsPacked, packed⟩ := exists_of_bind_eq_ok packed
    cases packed
    have readKey : ∀ member ∈ members, Cut (unpackValue stringOf) False
        (Utf16.utf8Bytes member.1 ≠ []) (packString member.1) := fun member found =>
      cut_string not_false (keys member found) Iff.rfl
    obtain ⟨pieces, rfl, cuts⟩ := packMembers_pieces
      (fun member found bytes packed => cut_member (readKey member found) not_false
        (packString_textual member.1) (ih member found packed)) partsPacked
    obtain ⟨tag, count, ends⟩ := tag_container 0xe0 members.length (by omega) (by omega)
    rw [propext unreadable_object, propext endsOpen_object, ends]
    refine cut_container (cutLoop repeats_members cuts) (by omega) [] .object
      fun body objectList fuel => ?_
    rw [unpack_object (by omega), tag, count]

/--
Every part of the bytes of a value is refused exactly if the value does not end in
a string that nothing follows.
-/
theorem rejectsTruncation_iff (stringOf : OpackValue → Option JsString) (value : OpackValue)
    (nonnegative : Nonnegative value) (bytes : List UInt8) (packed : opackPack value = .ok bytes) :
    RejectsTruncation stringOf bytes ↔ ¬EndsOpen value := by
  have cut := nonnegative.cut stringOf packed
  constructor
  · intro rejects ended
    obtain ⟨read, seen, unpacked⟩ := cut.opened ended [] (2 * bytes.dropLast.length + 1) le_rfl
    obtain ⟨error, failed⟩ := rejects bytes.dropLast (List.dropLast_prefix bytes) fun same => by
      have shorter := congrArg List.length same
      have positive := cut.length_pos
      rw [length_dropLast] at shorter
      omega
    rw [opackUnpack, unpacked] at failed
    cases failed
  · intro closed part starts differs
    rcases cut.truncated part [] (2 * part.length + 1) starts differs le_rfl with
      ⟨error, failed⟩ | ⟨ended, _⟩
    · exact ⟨error, by rw [opackUnpack, failed]; rfl⟩
    · exact absurd ended closed

/-- No part of the bytes of an array with a number at its end is read. -/
theorem payload_rejectsTruncation :
    RejectsTruncation Payload.objectText [0xd2, 0x42, 0x61, 0x62, 0x04] := by
  refine (rejectsTruncation_iff Payload.objectText (.array [.text [0x61, 0x62], .null]) ?_ _
    (by rfl)).mpr ?_
  · refine .array _ fun item member => ?_
    simp only [mem_cons, not_mem_nil, or_false] at member
    rcases member with rfl | rfl
    · exact .text _ (by decide)
    · exact .null
  · rw [endsOpen_array]
    rintro ⟨_, before, last, same, _, ended⟩
    obtain rfl : last = .null := by
      have ends := congrArg List.getLast? same
      rw [getLast?_concat] at ends
      exact (Option.some.inj ends).symm
    cases ended

/-- A string of two characters that is cut off is taken for a string of one. -/
theorem text_is_cut :
    ¬ ∀ (stringOf : OpackValue → Option JsString) (value : OpackValue), Nonnegative value →
      ∀ bytes, opackPack value = .ok bytes → RejectsTruncation stringOf bytes := by
  intro claim
  obtain ⟨error, failed⟩ := claim Payload.objectText (.text [0x61, 0x62]) (.text _ (by decide))
    [0x42, 0x61, 0x62] rfl [0x42, 0x61] (by decide) (by decide)
  cases failed

end SupremeOs.Protocols.AppleTvOpack
