import SupremeOs.Protocols.AppleTvOpack

/-!
# Reading back what OPACK writes

A value that is packed and unpacked again should come out as it went in, with
the bytes after it untouched.  Negative integers do not: they are written as
one byte that holds another tag.  Neither do strings with unpaired surrogates,
strings whose length does not fit into four bytes, and objects with a key that
sets the prototype when it is assigned.  A value without any of these is read
back from its bytes wherever they stand.
-/

namespace SupremeOs.Protocols.AppleTvOpack

open Support DomainModel List Nat

inductive InDomain : OpackValue → Prop where
  | null : InDomain .null
  | boolean (value : Bool) : InDomain (.boolean value)
  | integer (value : ℤ) (safe : value.natAbs ≤ 2 ^ 53 - 1) : InDomain (.number (.finite value))
  | text (value : JsString) : InDomain (.text value)
  | bytes (data : List UInt8) (short : data.length < 2 ^ 32) : InDomain (.bytes data)
  | array (items : List OpackValue) (each : ∀ item ∈ items, InDomain item) :
      InDomain (.array items)
  | object (members : List (JsString × OpackValue))
      (keys : (members.map Prod.fst).Pairwise fun first second =>
        enumeratesBefore first second = true)
      (each : ∀ member ∈ members, InDomain member.2) : InDomain (.object members)

/-- The string survives its conversion, and its length fits into four bytes. -/
def FaithfulText (value : JsString) : Prop :=
  Utf16.WellFormed value ∧ (Utf16.utf8Bytes value).length < 2 ^ 32

instance (value : JsString) : Decidable (FaithfulText value) := inferInstanceAs (Decidable (_ ∧ _))

/-- No negative integer, no unfaithful string and no prototype key anywhere inside. -/
inductive Faithful : OpackValue → Prop where
  | null : Faithful .null
  | boolean (value : Bool) : Faithful (.boolean value)
  | number (value : ℚ) (nonnegative : 0 ≤ value) : Faithful (.number (.finite value))
  | text (value : JsString) (faithful : FaithfulText value) : Faithful (.text value)
  | bytes (data : List UInt8) : Faithful (.bytes data)
  | array (items : List OpackValue) (each : ∀ item ∈ items, Faithful item) :
      Faithful (.array items)
  | object (members : List (JsString × OpackValue))
      (keys : ∀ member ∈ members, FaithfulText member.1 ∧ member.1 ≠ protoKey)
      (each : ∀ member ∈ members, Faithful member.2) : Faithful (.object members)

inductive Inside : OpackValue → OpackValue → Prop where
  | self (value : OpackValue) : Inside value value
  | item {part item : OpackValue} {items : List OpackValue} (member : item ∈ items)
      (inside : Inside part item) : Inside part (.array items)
  | key {key : JsString} {value : OpackValue} {members : List (JsString × OpackValue)}
      (member : (key, value) ∈ members) : Inside (.text key) (.object members)
  | value {part value : OpackValue} {key : JsString}
      {members : List (JsString × OpackValue)} (member : (key, value) ∈ members)
      (inside : Inside part value) : Inside part (.object members)

/-- What the value is packed into is unpacked to the value, whatever follows. -/
def RoundTrips (stringOf : OpackValue → Option JsString) (value : OpackValue) : Prop :=
  ∀ bytes, opackPack value = .ok bytes →
    ∀ rest, opackUnpack stringOf (bytes ++ rest) = .ok (value, rest)

@[simp]
theorem length_u (value count : Nat) : (u value count).length = count := by
  induction count generalizing value with
  | zero => rfl
  | succ count ih => simp [u, ih]

theorem ofLittleEndian_u (value count : Nat) :
    ofLittleEndian (u value count) = value % 256 ^ count := by
  induction count generalizing value with
  | zero => simp [u, ofLittleEndian, mod_one]
  | succ count ih =>
    have byte : (UInt8.ofNat value).toNat = value % 256 := UInt8.toNat_ofNat'
    rw [u, ofLittleEndian, ih, byte, pow_succ', mod_mul]

theorem readWord_u {value count : Nat} (fits : value < 256 ^ count) (rest : List UInt8) :
    readWord count (u value count ++ rest) = .ok value := by
  simp [readWord, ofLittleEndian_u, mod_eq_of_lt fits]

theorem readUIntLE_u {value count : Nat} (positive : 0 < count) (small : count ≤ 6)
    (rest : List UInt8) :
    readUIntLE count (u value count ++ rest) = .ok (value % 256 ^ count) := by
  have allowed : ¬ (count = 0 ∨ 6 < count ∨ (u value count ++ rest).length < count) := by
    simp only [length_append, length_u]
    omega
  rw [readUIntLE, if_neg allowed]
  simp [ofLittleEndian_u]

section Tags

variable {stringOf : OpackValue → Option JsString}
variable {fuel : Nat} {tag : UInt8} {body : List UInt8} {objectList : List OpackValue}

theorem unpack_smallInteger (low : 0x08 ≤ tag.toNat) (high : tag.toNat ≤ 0x2f) :
    unpackValue stringOf (fuel + 1) (tag :: body) objectList =
      .ok ⟨.number (.finite ((tag.toNat - 8 : Nat) : ℚ)), body, objectList⟩ := by
  simp only [unpackValue]
  repeat rw [if_neg (by omega)]
  rw [if_pos ⟨low, high⟩]

theorem unpack_unsigned (low : 0x30 ≤ tag.toNat) (high : tag.toNat ≤ 0x33) :
    unpackValue stringOf (fuel + 1) (tag :: body) objectList =
      unpackUnsigned (2 ^ (tag.toNat % 16)) body objectList := by
  simp only [unpackValue]
  iterate 8 rw [if_neg (by omega)]
  rw [if_pos (by omega)]

theorem unpack_shortText (low : 0x40 ≤ tag.toNat) (high : tag.toNat ≤ 0x60) :
    unpackValue stringOf (fuel + 1) (tag :: body) objectList =
      unpackText (tag.toNat - 0x40) body objectList := by
  simp only [unpackValue]
  iterate 9 rw [if_neg (by omega)]
  rw [if_pos ⟨low, high⟩]

theorem unpack_longText (low : 0x60 < tag.toNat) (high : tag.toNat ≤ 0x64) :
    unpackValue stringOf (fuel + 1) (tag :: body) objectList =
      (readUIntLE (tag.toNat % 16) body >>= fun length =>
        unpackText length (body.drop (tag.toNat % 16)) objectList) := by
  simp only [unpackValue]
  iterate 10 rw [if_neg (by omega)]
  rw [if_pos ⟨low, high⟩]

theorem unpack_shortBytes (low : 0x70 ≤ tag.toNat) (high : tag.toNat ≤ 0x90) :
    unpackValue stringOf (fuel + 1) (tag :: body) objectList =
      unpackBytes (tag.toNat - 0x70) body objectList := by
  simp only [unpackValue]
  iterate 11 rw [if_neg (by omega)]
  rw [if_pos ⟨low, high⟩]

theorem unpack_longBytes (low : 0x91 ≤ tag.toNat) (high : tag.toNat ≤ 0x94) :
    unpackValue stringOf (fuel + 1) (tag :: body) objectList =
      (readUIntLE (2 ^ (tag.toNat % 16 - 1)) body >>= fun length =>
        unpackBytes length (body.drop (2 ^ (tag.toNat % 16 - 1))) objectList) := by
  simp only [unpackValue]
  iterate 12 rw [if_neg (by omega)]
  rw [if_pos ⟨low, high⟩]

theorem unpack_array (high : tag.toNat / 16 = 0xd) :
    unpackValue stringOf (fuel + 1) (tag :: body) objectList = (unpackItems stringOf fuel
          (if tag.toNat % 16 = 0xf then none else some (tag.toNat % 16)) body objectList >>=
        fun items => .ok ⟨.array items.value, items.remaining, items.objectList⟩) := by
  simp only [unpackValue]
  iterate 13 rw [if_neg (by omega)]
  rw [if_pos high]

theorem unpack_object (high : tag.toNat / 32 = 0x7) :
    unpackValue stringOf (fuel + 1) (tag :: body) objectList = (unpackMembers stringOf fuel
          (if tag.toNat % 16 = 0xf then none else some (tag.toNat % 16)) [] body objectList >>=
        fun members => .ok ⟨.object members.value, members.remaining, members.objectList⟩) := by
  simp only [unpackValue]
  iterate 14 rw [if_neg (by omega)]
  rw [if_pos high]

end Tags

section Atoms

variable {stringOf : OpackValue → Option JsString} {fuel : Nat}
variable {rest : List UInt8} {objectList : List OpackValue}

theorem toNat_tag {base length : Nat} (fits : base + length < 256) :
    (UInt8.ofNat (base + length)).toNat = base + length :=
  UInt8.toNat_ofNat_of_lt' fits

theorem unpack_packString {value : JsString} (short : (Utf16.utf8Bytes value).length < 2 ^ 32) :
    unpackValue stringOf (fuel + 1) (packString value ++ rest) objectList =
      remember (.text (Utf16.text (Utf16.utf8Bytes value))) rest objectList := by
  have long : ∀ (tag : UInt8) (count : Nat), 0x60 < tag.toNat → tag.toNat ≤ 0x64 →
      tag.toNat % 16 = count → 0 < count → count ≤ 4 →
      (Utf16.utf8Bytes value).length < 256 ^ count → unpackValue stringOf (fuel + 1)
          ((tag :: u (Utf16.utf8Bytes value).length count ++ Utf16.utf8Bytes value) ++ rest)
          objectList = remember (.text (Utf16.text (Utf16.utf8Bytes value))) rest objectList := by
    intro tag count low high equal positive small fits
    rw [cons_append, cons_append, unpack_longText low high, equal, append_assoc,
      readUIntLE_u positive (by omega), mod_eq_of_lt fits]
    simp [unpackText, bind, Except.bind]
  unfold packString
  dsimp only
  split
  · rename_i tiny
    have tag := toNat_tag (show 0x40 + (Utf16.utf8Bytes value).length < 256 by omega)
    rw [cons_append, unpack_shortText (by omega) (by omega), tag]
    simp [unpackText]
  · split
    · exact long 0x61 1 (by decide) (by decide) rfl (by omega) (by omega) (by omega)
    · split
      · exact long 0x62 2 (by decide) (by decide) rfl (by omega) (by omega) (by omega)
      · split
        · exact long 0x63 3 (by decide) (by decide) rfl (by omega) (by omega) (by omega)
        · exact long 0x64 4 (by decide) (by decide) rfl (by omega) (by omega) (by omega)

theorem unpack_packBytes {data : List UInt8} (short : data.length < 2 ^ 32) :
    unpackValue stringOf (fuel + 1) (packBytes data ++ rest) objectList =
      remember (.bytes data) rest objectList := by
  have long : ∀ (tag : UInt8) (count : Nat), 0x91 ≤ tag.toNat → tag.toNat ≤ 0x94 →
      2 ^ (tag.toNat % 16 - 1) = count → 0 < count → count ≤ 4 → data.length < 256 ^ count →
      unpackValue stringOf (fuel + 1) ((tag :: u data.length count ++ data) ++ rest)
          objectList = remember (.bytes data) rest objectList := by
    intro tag count low high equal positive small fits
    rw [cons_append, cons_append, unpack_longBytes low high, equal, append_assoc,
      readUIntLE_u positive (by omega), mod_eq_of_lt fits]
    simp [unpackBytes, bind, Except.bind]
  unfold packBytes
  dsimp only
  split
  · rename_i tiny
    have tag := toNat_tag (show 0x70 + data.length < 256 by omega)
    rw [cons_append, unpack_shortBytes (by omega) (by omega), tag]
    simp [unpackBytes]
  · split
    · exact long 0x91 1 (by decide) (by decide) rfl (by omega) (by omega) (by omega)
    · split
      · exact long 0x92 2 (by decide) (by decide) rfl (by omega) (by omega) (by omega)
      · rw [if_pos (by omega)]
        exact long 0x93 4 (by decide) (by decide) rfl (by omega) (by omega) (by omega)

theorem toUint8_natCast (value : Nat) : toUint8 (.finite (value : ℚ)) = UInt8.ofNat value := by
  have nonnegative : ¬ (value : ℚ) < 0 := not_lt.mpr (cast_nonneg value)
  rw [toUint8, if_neg nonnegative, Int.floor_natCast]
  apply UInt8.toNat_inj.mp
  rw [UInt8.toNat_ofNat', UInt8.toNat_ofNat']
  omega

theorem unpack_packInteger {value : Nat} (safe : value < 2 ^ 53) :
    ∃ seen, unpackValue stringOf (fuel + 1) (packInteger value ++ rest) objectList =
      .ok ⟨.number (.finite (value : ℚ)), rest, seen⟩ := by
  have wide : ∀ (tag : UInt8) (count : Nat), 0x30 ≤ tag.toNat → tag.toNat ≤ 0x33 →
      2 ^ (tag.toNat % 16) = count → 0 < count → count ≤ 6 → value < 256 ^ count →
      unpackValue stringOf (fuel + 1) ((tag :: u value count) ++ rest) objectList =
        remember (.number (.finite (value : ℚ))) rest objectList := by
    intro tag count low high equal positive small fits
    rw [cons_append, unpack_unsigned low high, equal, unpackUnsigned, Nat.min_eq_left small,
      readUIntLE_u positive small, mod_eq_of_lt fits]
    simp [bind, Except.bind, show count ≠ 8 by omega]
  unfold packInteger
  rw [Int.toNat_natCast]
  split
  · rename_i tiny
    have tiny : value < 0x28 := by exact_mod_cast tiny
    have sum : ((value : ℤ) : ℚ) + 8 = ((value + 8 : Nat) : ℚ) := by push_cast; rfl
    have tag : (UInt8.ofNat (value + 8)).toNat = value + 8 :=
      UInt8.toNat_ofNat_of_lt' (show value + 8 < 256 by omega)
    rw [roundToDouble_intCast (by simpa using safe)]
    dsimp only
    rw [sum, roundToDouble_natCast (by omega), toUint8_natCast, cons_append,
      unpack_smallInteger (by omega) (by omega), tag]
    exact ⟨objectList, rfl⟩
  · split
    · rename_i fits
      exact ⟨_, wide 0x30 1 (by decide) (by decide) rfl (by omega) (by omega)
        (by rw [pow_one]; omega)⟩
    · split
      · rename_i fits
        exact ⟨_, wide 0x31 2 (by decide) (by decide) rfl (by omega) (by omega) (by omega)⟩
      · split
        · rename_i fits
          exact ⟨_, wide 0x32 4 (by decide) (by decide) rfl (by omega) (by omega) (by omega)⟩
        · -- Eight bytes are read twice, the second time all of them.
          have enough : ¬ (6 = 0 ∨ 6 < 6 ∨ (u value 8 ++ rest).length < 6) := by
            simp only [length_append, length_u]
            omega
          refine ⟨objectList ++ [.number (.finite (value : ℚ))], ?_⟩
          rw [cons_append, unpack_unsigned (by decide) (by decide)]
          show unpackUnsigned 8 (u value 8 ++ rest) objectList = _
          rw [unpackUnsigned, show min 8 6 = 6 from rfl, readUIntLE, if_neg enough]
          simp only [bind, Except.bind, if_true, readWord_u (show value < 256 ^ 8 by omega),
            roundToDouble_natCast safe]
          rw [drop_left' (length_u value 8)]
          rfl

end Atoms

section Containers

variable {stringOf : OpackValue → Option JsString}

/-- The value is read back from its bytes, wherever they stand. -/
structure Reads (stringOf : OpackValue → Option JsString) (value : OpackValue)
    (bytes : List UInt8) : Prop where
  packed : packValue value = .ok bytes
  nonempty : 0 < bytes.length
  /-- The bytes are not taken for the end of a container. -/
  begins : ∀ rest, (bytes ++ rest).head? ≠ some 0x03
  unpacked : ∀ rest objectList fuel, 2 * bytes.length ≤ fuel →
    ∃ seen, unpackValue stringOf fuel (bytes ++ rest) objectList = .ok ⟨value, rest, seen⟩

/-- The count of a container, none for one that is terminated. -/
def openCount (long : Bool) (count : Nat) : Option Nat := if long then none else some count

def closing (long : Bool) : List UInt8 := if long then [0x03] else []

theorem unpackItems_pack {items : List OpackValue}
    (each : ∀ item ∈ items, ∃ bytes, Reads stringOf item bytes) :
    ∃ parts, packItems items = .ok parts ∧
      ∀ long rest objectList fuel, 2 * parts.length + 1 ≤ fuel →
        ∃ seen, unpackItems stringOf fuel (openCount long items.length)
          (parts ++ closing long ++ rest) objectList = .ok ⟨items, rest, seen⟩ := by
  induction items with
  | nil =>
    refine ⟨[], rfl, ?_⟩
    intro long rest objectList fuel enough
    obtain ⟨fuel, rfl⟩ : ∃ less, fuel = less + 1 := ⟨fuel - 1, by omega⟩
    exact ⟨objectList, by cases long <;> simp [unpackItems, openCount, closing]⟩
  | cons item items ih =>
    rcases each item (.head _) with ⟨bytes, reads⟩
    rcases ih (fun other member => each other (.tail _ member)) with
      ⟨parts, packed, others⟩
    refine ⟨bytes ++ parts, by simp [packItems, reads.packed, packed, bind, Except.bind], ?_⟩
    intro long rest objectList fuel enough
    have positive := reads.nonempty
    rw [length_append] at enough
    obtain ⟨fuel, rfl⟩ : ∃ less, fuel = less + 1 := ⟨fuel - 1, by omega⟩
    rcases reads.unpacked (parts ++ closing long ++ rest) objectList fuel (by omega) with
      ⟨seen, first⟩
    rcases others long rest seen fuel (by omega) with ⟨final, onward⟩
    refine ⟨final, ?_⟩
    have begins := reads.begins (parts ++ closing long ++ rest)
    have more : openCount long (item :: items).length ≠ some 0 := by
      cases long <;> simp [openCount]
    have next : (openCount long (item :: items).length).map (· - 1) =
        openCount long items.length := by
      cases long <;> simp [openCount]
    simp only [unpackItems, append_assoc] at begins first onward ⊢
    rw [if_neg more, if_neg fun ends => begins ends.2, first]
    simp only [bind, Except.bind, next, onward]

variable {members : List (JsString × OpackValue)}

theorem unpackMembers_pack
    (keys : ∀ member ∈ members, ∃ bytes, Reads stringOf (.text member.1) bytes)
    (each : ∀ member ∈ members, ∃ bytes, Reads stringOf member.2 bytes) :
    ∃ parts, packMembers members = .ok parts ∧
      ∀ long output rest objectList fuel, 2 * parts.length + 1 ≤ fuel →
        ∃ seen, unpackMembers stringOf fuel (openCount long members.length) output
            (parts ++ closing long ++ rest) objectList =
          .ok ⟨members.foldl (fun output member => assign output member.1 member.2) output,
            rest, seen⟩ := by
  induction members with
  | nil =>
    refine ⟨[], rfl, ?_⟩
    intro long output rest objectList fuel enough
    obtain ⟨fuel, rfl⟩ : ∃ less, fuel = less + 1 := ⟨fuel - 1, by omega⟩
    exact ⟨objectList, by cases long <;> simp [unpackMembers, openCount, closing]⟩
  | cons member members ih =>
    rcases member with ⟨key, value⟩
    rcases keys (key, value) (.head _) with ⟨keyBytes, readsKey⟩
    rcases each (key, value) (.head _) with ⟨valueBytes, readsValue⟩
    rcases ih (fun other member => keys other (.tail _ member))
      (fun other member => each other (.tail _ member)) with
      ⟨parts, packed, others⟩
    have keyPacked : packString key = keyBytes := Except.ok.inj readsKey.packed
    refine ⟨keyBytes ++ valueBytes ++ parts,
      by simp [packMembers, keyPacked, readsValue.packed, packed, bind, Except.bind], ?_⟩
    intro long output rest objectList fuel enough
    have keyPositive := readsKey.nonempty
    have valuePositive := readsValue.nonempty
    rw [length_append, length_append] at enough
    obtain ⟨fuel, rfl⟩ : ∃ less, fuel = less + 1 := ⟨fuel - 1, by omega⟩
    rcases readsKey.unpacked (valueBytes ++ parts ++ closing long ++ rest) objectList fuel
      (by omega) with ⟨afterKey, first⟩
    rcases readsValue.unpacked (parts ++ closing long ++ rest) afterKey fuel (by omega) with
      ⟨afterValue, second⟩
    rcases others long (assign output key value) rest afterValue fuel (by omega) with
      ⟨final, onward⟩
    refine ⟨final, ?_⟩
    have begins := readsKey.begins (valueBytes ++ parts ++ closing long ++ rest)
    have more : openCount long ((key, value) :: members).length ≠ some 0 := by
      cases long <;> simp [openCount]
    have next : (openCount long ((key, value) :: members).length).map (· - 1) =
        openCount long members.length := by
      cases long <;> simp [openCount]
    simp only [unpackMembers, append_assoc] at begins first second onward ⊢
    rw [if_neg more, if_neg fun ends => begins ends.2, first]
    simp only [bind, Except.bind, second, keyText, next, onward, foldl_cons]

theorem head_ne_terminator {tag : UInt8} {more : List UInt8} (differs : tag.toNat ≠ 0x03)
    (rest : List UInt8) : (tag :: more ++ rest).head? ≠ some 0x03 := by
  intro equal
  rw [cons_append, head?_cons, Option.some.injEq] at equal
  rw [equal] at differs
  exact differs rfl

theorem tag_container (base count : Nat) (fits : base + 0xf < 256) (aligned : base % 16 = 0) :
    (UInt8.ofNat (base + min count 0xf)).toNat = base + min count 0xf ∧
      (if (base + min count 0xf) % 16 = 0xf then none
        else some ((base + min count 0xf) % 16)) = openCount (decide (0xf ≤ count)) count ∧
      terminator count = closing (decide (0xf ≤ count)) := by
  refine ⟨UInt8.toNat_ofNat_of_lt' (show _ < 256 by omega), ?_, ?_⟩
  · by_cases long : 0xf ≤ count
    · rw [if_pos (by omega), openCount, decide_eq_true long, if_pos rfl]
    · rw [if_neg (by omega), openCount, decide_eq_false long, show (base + min count 0xf) % 16 =
        count by omega]
      rfl
  · simp [terminator, closing]

theorem reads_array {items : List OpackValue}
    (each : ∀ item ∈ items, ∃ bytes, Reads stringOf item bytes) :
    ∃ bytes, Reads stringOf (.array items) bytes := by
  rcases unpackItems_pack each with ⟨parts, packed, unpacked⟩
  rcases tag_container 0xd0 items.length (by omega) (by omega) with ⟨tag, count, ends⟩
  refine ⟨UInt8.ofNat (0xd0 + min items.length 0xf) :: parts ++ terminator items.length,
    ?_, by simp, ?_, ?_⟩
  · simp [packValue, packed, bind, Except.bind]
  · exact head_ne_terminator (by rw [tag]; omega)
  · intro rest objectList fuel enough
    simp only [length_append, length_cons] at enough
    obtain ⟨fuel, rfl⟩ : ∃ less, fuel = less + 1 := ⟨fuel - 1, by omega⟩
    rcases unpacked (decide (0xf ≤ items.length)) rest objectList fuel (by omega) with
      ⟨seen, inner⟩
    refine ⟨seen, ?_⟩
    rw [cons_append, cons_append, unpack_array (by rw [tag]; omega), tag, count, ends, inner]
    rfl

theorem unpack_members (stringOf : OpackValue → Option JsString)
    (keys : ∀ member ∈ members, ∃ bytes, Reads stringOf (.text member.1) bytes)
    (each : ∀ member ∈ members, ∃ bytes, Reads stringOf member.2 bytes) :
    ∃ bytes, packValue (.object members) = .ok bytes ∧ 0 < bytes.length ∧
      (∀ rest, (bytes ++ rest).head? ≠ some 0x03) ∧
      ∀ rest objectList fuel, 2 * bytes.length ≤ fuel →
        ∃ seen, unpackValue stringOf fuel (bytes ++ rest) objectList =
          .ok ⟨.object (members.foldl
            (fun output member => assign output member.1 member.2) []), rest, seen⟩ := by
  rcases unpackMembers_pack keys each with ⟨parts, packed, unpacked⟩
  rcases tag_container 0xe0 members.length (by omega) (by omega) with ⟨tag, count, ends⟩
  refine ⟨UInt8.ofNat (0xe0 + min members.length 0xf) :: parts ++ terminator members.length,
    ?_, by simp, ?_, ?_⟩
  · simp [packValue, packed, bind, Except.bind]
  · exact head_ne_terminator (by rw [tag]; omega)
  · intro rest objectList fuel enough
    simp only [length_append, length_cons] at enough
    obtain ⟨fuel, rfl⟩ : ∃ less, fuel = less + 1 := ⟨fuel - 1, by omega⟩
    rcases unpacked (decide (0xf ≤ members.length)) [] rest objectList fuel (by omega) with
      ⟨seen, inner⟩
    refine ⟨seen, ?_⟩
    rw [cons_append, cons_append, unpack_object (by rw [tag]; omega), tag, count, ends, inner]
    rfl

end Containers

theorem enumeratesBefore_irrefl (key : JsString) : enumeratesBefore key key = false := by
  unfold enumeratesBefore
  cases arrayIndex key <;> simp

variable {members : List (JsString × OpackValue)}

theorem assign_last {key : JsString} (value : OpackValue) (plain : key ≠ protoKey)
    (last : ∀ member ∈ members, enumeratesBefore member.1 key = true) :
    assign members key value = members ++ [(key, value)] := by
  have absent : key ∉ members.map Prod.fst := by
    intro present
    rcases mem_map.mp present with ⟨member, found, same⟩
    have before := last member found
    rw [same, enumeratesBefore_irrefl] at before
    cases before
  rw [assign, if_neg plain, if_neg absent]
  cases index : arrayIndex key with
  | none => rfl
  | some number =>
    have below : ∀ member ∈ members, hasIndexBelow number member = true := by
      intro member found
      have before := last member found
      simp only [enumeratesBefore, index] at before
      cases other : arrayIndex member.1 with
      | none => simp [other] at before
      | some smaller => simpa [hasIndexBelow, other] using before
    dsimp only
    rw [takeWhile_eq_self_iff.mpr below, dropWhile_eq_nil_iff.mpr below]

theorem foldl_assign {output : List (JsString × OpackValue)}
    (keys : ((output ++ members).map Prod.fst).Pairwise fun first second =>
      enumeratesBefore first second = true)
    (plain : ∀ member ∈ members, member.1 ≠ protoKey) :
    members.foldl (fun output member => assign output member.1 member.2) output =
      output ++ members := by
  induction members generalizing output with
  | nil => simp
  | cons member members ih =>
    have split : output ++ member :: members = (output ++ [member]) ++ members := by simp
    have last : ∀ other ∈ output, enumeratesBefore other.1 member.1 = true := by
      intro other found
      rw [map_append, pairwise_append] at keys
      exact keys.2.2 _ (mem_map_of_mem found) _ (by simp)
    rw [foldl_cons, assign_last member.2 (plain member (.head _)) last,
      ih (split ▸ keys) fun other found => plain other (.tail _ found), split]

theorem protoKey_notMem_assign (key : JsString)
    (value : OpackValue) (absent : protoKey ∉ members.map Prod.fst) :
    protoKey ∉ (assign members key value).map Prod.fst := by
  unfold assign
  split
  · exact absent
  · rename_i plain
    split
    · intro present
      rcases mem_map.mp present with ⟨member, found, same⟩
      rcases mem_map.mp found with ⟨old, oldFound, replaced⟩
      split at replaced
      · exact plain (by rw [← same, ← replaced])
      · exact absent (by rw [← same, ← replaced]; exact mem_map_of_mem oldFound)
    · split
      · simp only [map_append, mem_append, not_or]
        exact ⟨absent, by simpa using fun same => plain same.symm⟩
      · intro present
        rcases mem_map.mp present with ⟨member, found, same⟩
        rcases mem_append.mp found with before | rest
        · exact absent (same ▸ mem_map_of_mem (takeWhile_subset _ before))
        · rcases mem_cons.mp rest with rfl | after
          · exact plain same
          · exact absent (same ▸ mem_map_of_mem (dropWhile_subset _ after))

theorem protoKey_notMem_foldl (members output : List (JsString × OpackValue))
    (absent : protoKey ∉ output.map Prod.fst) :
    protoKey ∉ (members.foldl
      (fun output member => assign output member.1 member.2) output).map Prod.fst := by
  induction members generalizing output with
  | nil => exact absent
  | cons member members ih => exact ih _ (protoKey_notMem_assign member.1 member.2 absent)

/-! ## Every value -/

variable {stringOf : OpackValue → Option JsString}

theorem reads_of_tag {value : OpackValue} {tag : UInt8} {more : List UInt8}
    (packed : packValue value = .ok (tag :: more)) (differs : tag.toNat ≠ 0x03)
    (unpacked : ∀ rest objectList fuel,
      ∃ seen, unpackValue stringOf (fuel + 1) (tag :: more ++ rest) objectList =
        .ok ⟨value, rest, seen⟩) : Reads stringOf value (tag :: more) where
  packed := packed
  nonempty := succ_pos _
  begins := head_ne_terminator differs
  unpacked rest objectList fuel enough := by
    rw [length_cons] at enough
    obtain ⟨fuel, rfl⟩ : ∃ less, fuel = less + 1 := ⟨fuel - 1, by omega⟩
    exact unpacked rest objectList fuel

theorem packString_tag (value : JsString) :
    ∃ tag more, packString value = tag :: more ∧ tag.toNat ≠ 0x03 := by
  unfold packString
  dsimp only
  split
  · exact ⟨_, _, rfl, by rw [toNat_tag (by omega)]; omega⟩
  · split
    · exact ⟨_, _, rfl, by decide⟩
    · split
      · exact ⟨_, _, rfl, by decide⟩
      · split <;> exact ⟨_, _, rfl, by decide⟩

theorem packBytes_tag (data : List UInt8) :
    ∃ tag more, packBytes data = tag :: more ∧ tag.toNat ≠ 0x03 := by
  unfold packBytes
  dsimp only
  split
  · exact ⟨_, _, rfl, by rw [toNat_tag (by omega)]; omega⟩
  · split
    · exact ⟨_, _, rfl, by decide⟩
    · split
      · exact ⟨_, _, rfl, by decide⟩
      · split <;> exact ⟨_, _, rfl, by decide⟩

theorem packInteger_tag {value : Nat} (safe : value < 2 ^ 53) :
    ∃ tag more, packInteger value = tag :: more ∧ tag.toNat ≠ 0x03 := by
  unfold packInteger
  split
  · rename_i tiny
    have tiny : value < 0x28 := by exact_mod_cast tiny
    have sum : ((value : ℤ) : ℚ) + 8 = ((value + 8 : Nat) : ℚ) := by push_cast; rfl
    rw [roundToDouble_intCast (by simpa using safe)]
    dsimp only
    rw [sum, roundToDouble_natCast (by omega), toUint8_natCast]
    refine ⟨_, _, rfl, ?_⟩
    rw [UInt8.toNat_ofNat_of_lt' (show value + 8 < 256 by omega)]
    omega
  · split
    · exact ⟨_, _, rfl, by decide⟩
    · split
      · exact ⟨_, _, rfl, by decide⟩
      · split <;> exact ⟨_, _, rfl, by decide⟩

theorem reads_text {value : JsString} (faithful : FaithfulText value) :
    ∃ bytes, Reads stringOf (.text value) bytes := by
  rcases packString_tag value with ⟨tag, more, packed, differs⟩
  refine ⟨tag :: more, reads_of_tag (congrArg Except.ok packed) differs ?_⟩
  intro rest objectList fuel
  rw [← packed, unpack_packString faithful.2, Utf16.text_utf8Bytes_iff.mpr faithful.1]
  exact ⟨_, rfl⟩

theorem reads_bytes {data : List UInt8} (short : data.length < 2 ^ 32) :
    ∃ bytes, Reads stringOf (.bytes data) bytes := by
  rcases packBytes_tag data with ⟨tag, more, packed, differs⟩
  refine ⟨tag :: more, reads_of_tag (congrArg Except.ok packed) differs ?_⟩
  intro rest objectList fuel
  rw [← packed, unpack_packBytes short]
  exact ⟨_, rfl⟩

theorem packValue_integer (value : ℤ) :
    packValue (.number (.finite (value : ℚ))) = .ok (packInteger value) := by
  simp [packValue, packNumber]

theorem reads_integer {value : Nat} (safe : value < 2 ^ 53) :
    ∃ bytes, Reads stringOf (.number (.finite (value : ℚ))) bytes := by
  rcases packInteger_tag safe with ⟨tag, more, packed, differs⟩
  refine ⟨tag :: more, reads_of_tag ?_ differs ?_⟩
  · have cast : ((value : ℤ) : ℚ) = (value : ℚ) := Int.cast_natCast value
    rw [← cast, packValue_integer, packed]
  · intro rest objectList fuel
    rw [← packed]
    exact unpack_packInteger safe

/-- A faithful value is read back from its bytes wherever they stand. -/
theorem reads_of_faithful (stringOf : OpackValue → Option JsString) {value : OpackValue}
    (domain : InDomain value)
    (faithful : Faithful value) : ∃ bytes, Reads stringOf value bytes := by
  induction domain with
  | null => exact ⟨[0x04], reads_of_tag rfl (by decide) fun _ _ _ => ⟨_, rfl⟩⟩
  | boolean flag =>
    cases flag
    · exact ⟨[0x02], reads_of_tag rfl (by decide) fun _ _ _ => ⟨_, rfl⟩⟩
    · exact ⟨[0x01], reads_of_tag rfl (by decide) fun _ _ _ => ⟨_, rfl⟩⟩
  | integer number safe =>
    cases faithful with
    | number _ nonnegative =>
      rcases Int.eq_ofNat_of_zero_le (Int.cast_nonneg_iff.mp nonnegative) with
        ⟨natural, rfl⟩
      have cast : ((natural : ℤ) : ℚ) = (natural : ℚ) := Int.cast_natCast natural
      rw [cast]
      exact reads_integer (by omega)
  | text string =>
    cases faithful with
    | text _ faithful => exact reads_text faithful
  | bytes data short => exact reads_bytes short
  | array items _ ih =>
    cases faithful with
    | array _ each => exact reads_array fun item member => ih item member (each item member)
  | object members keys _ ih =>
    cases faithful with
    | object _ plain each =>
      rcases unpack_members stringOf
        (fun member found => reads_text (plain member found).1)
        (fun member found => ih member found (each member found)) with
        ⟨bytes, packed, nonempty, begins, unpacked⟩
      rw [foldl_assign (by simpa using keys) fun member found => (plain member found).2]
        at unpacked
      exact ⟨bytes, packed, nonempty, begins, unpacked⟩

theorem Reads.roundTrips {value : OpackValue} {bytes : List UInt8}
    (reads : Reads stringOf value bytes) : RoundTrips stringOf value := by
  intro packed same rest
  have equal : bytes = packed := Except.ok.inj (reads.packed.symm.trans same)
  rcases reads.unpacked rest [] (2 * (bytes ++ rest).length + 1)
    (by rw [length_append]; omega) with ⟨seen, unpacked⟩
  rw [← equal, opackUnpack, unpacked]
  rfl

theorem eq_of_ite_eq {Result : Type} {condition : Prop} [Decidable condition]
    {first second result : Result} (equal : (if condition then first else second) = result)
    (differs : first ≠ result) : second = result := by
  split at equal
  · exact (differs equal).elim
  · exact equal

theorem exists_of_bind_eq_ok {First Result : Type} {first : Except OpackError First}
    {next : First → Except OpackError Result} {result : Result}
    (equal : (first >>= next) = .ok result) :
    ∃ value, first = .ok value ∧ next value = .ok result := by
  cases first with
  | error error => cases equal
  | ok value => exact ⟨value, rfl, equal⟩

theorem readUIntLE_nil (count : Nat) : readUIntLE count [] = .error .rangeError := by
  rw [readUIntLE, if_pos]
  simp only [length_nil]
  omega

theorem smallInteger_of_single {fuel : Nat} {tag : UInt8} {number : JsNumber}
    {rest : List UInt8} {seen : List OpackValue}
    (unpacked : unpackValue stringOf (fuel + 1) [tag] [] = .ok ⟨.number number, rest, seen⟩) :
    0x08 ≤ tag.toNat ∧ tag.toNat ≤ 0x2f := by
  by_contra outside
  rw [unpackValue] at unpacked
  iterate 5 replace unpacked := eq_of_ite_eq unpacked (by intro equal; cases equal)
  rw [if_neg outside] at unpacked
  iterate 2 replace unpacked := eq_of_ite_eq unpacked (by intro equal; cases equal)
  replace unpacked := eq_of_ite_eq unpacked
    (by rw [unpackUnsigned, readUIntLE_nil]; intro equal; cases equal)
  replace unpacked := eq_of_ite_eq unpacked (by intro equal; cases equal)
  replace unpacked := eq_of_ite_eq unpacked
    (by rw [readUIntLE_nil]; intro equal; cases equal)
  replace unpacked := eq_of_ite_eq unpacked (by intro equal; cases equal)
  replace unpacked := eq_of_ite_eq unpacked
    (by rw [readUIntLE_nil]; intro equal; cases equal)
  iterate 2
    replace unpacked := eq_of_ite_eq unpacked (by
      intro equal
      rcases exists_of_bind_eq_ok equal with ⟨inner, _, outer⟩
      cases outer)
  replace unpacked := eq_of_ite_eq unpacked (by intro equal; cases equal)
  replace unpacked := eq_of_ite_eq unpacked
    (by rw [readUIntLE_nil]; intro equal; cases equal)
  cases unpacked

theorem unpackValue_of_opackUnpack {data rest : List UInt8} {value : OpackValue}
    (unpacked : opackUnpack stringOf data = .ok (value, rest)) :
    ∃ seen, unpackValue stringOf (2 * data.length + 1) data [] = .ok ⟨value, rest, seen⟩ := by
  rcases exists_of_bind_eq_ok unpacked with ⟨⟨first, remaining, seen⟩, inner, outer⟩
  cases outer
  exact ⟨seen, inner⟩

theorem nonneg_of_roundTrips {value : ℤ}
    (trips : RoundTrips stringOf (.number (.finite (value : ℚ)))) : 0 ≤ value := by
  by_contra negative
  obtain ⟨tag, single⟩ : ∃ tag, packInteger value = [tag] := by
    unfold packInteger
    rw [if_pos (by omega)]
    cases roundToDouble value <;> exact ⟨_, rfl⟩
  have unpacked := trips [tag] (by rw [opackPack, packValue_integer, single]) []
  rcases unpackValue_of_opackUnpack unpacked with ⟨seen, inner⟩
  rcases smallInteger_of_single inner with ⟨low, high⟩
  rw [append_nil, length_singleton, unpack_smallInteger low high] at inner
  have equal := inner
  simp only [Except.ok.injEq, Unpacked.mk.injEq, OpackValue.number.injEq,
    JsNumber.finite.injEq] at equal
  have nonnegative : (0 : ℚ) ≤ value := equal.1 ▸ cast_nonneg _
  exact negative (Int.cast_nonneg_iff.mp nonnegative)

theorem faithfulText_of_roundTrips {value : JsString}
    (trips : RoundTrips stringOf (.text value)) : FaithfulText value := by
  have unpacked := trips (packString value) rfl []
  rcases unpackValue_of_opackUnpack unpacked with ⟨seen, inner⟩
  have short : (Utf16.utf8Bytes value).length < 2 ^ 32 := by
    -- A longer string is read up to its length modulo 2 ^ 32, and bytes remain.
    by_contra long
    have packed : packString value = 0x64 :: u (Utf16.utf8Bytes value).length 4 ++
        Utf16.utf8Bytes value := by
      unfold packString
      dsimp only
      repeat rw [if_neg (by omega)]
    rw [append_nil, packed, cons_append, unpack_longText (by decide) (by decide)] at inner
    rw [show UInt8.toNat 0x64 % 16 = 4 from rfl, readUIntLE_u (by omega) (by omega)] at inner
    simp only [bind, Except.bind, unpackText, remember, Except.ok.injEq, Unpacked.mk.injEq] at inner
    have remaining := congrArg List.length inner.2.1
    simp only [length_drop, length_append, length_u, length_nil] at remaining
    omega
  refine ⟨?_, short⟩
  rw [unpack_packString short] at inner
  simp only [remember, Except.ok.injEq, Unpacked.mk.injEq, OpackValue.text.injEq] at inner
  exact Utf16.text_utf8Bytes_iff.mp inner.1

theorem faithful_of_roundTrips {value : OpackValue} (domain : InDomain value)
    (trips : ∀ part, Inside part value → RoundTrips stringOf part) : Faithful value := by
  induction domain with
  | null => exact .null
  | boolean flag => exact .boolean flag
  | integer number safe =>
    exact .number _ (Int.cast_nonneg (nonneg_of_roundTrips (trips _ (.self _))))
  | text string => exact .text _ (faithfulText_of_roundTrips (trips _ (.self _)))
  | bytes data short => exact .bytes data
  | array items _ ih =>
    refine .array items fun item member => ih item member ?_
    intro part inside
    exact trips part (.item member inside)
  | object members keys each ih =>
    have faithfulKeys : ∀ member ∈ members, FaithfulText member.1 := fun member found =>
      faithfulText_of_roundTrips (trips _ (.key found))
    have faithfulValues : ∀ member ∈ members, Faithful member.2 := fun member found =>
      ih member found fun part inside => trips part (.value found inside)
    refine .object members (fun member found => ⟨faithfulKeys member found, ?_⟩) faithfulValues
    -- The members that are unpacked have no prototype key.
    rcases unpack_members stringOf
      (fun member found => reads_text (faithfulKeys member found))
      (fun member found => reads_of_faithful stringOf (each member found)
        (faithfulValues member found)) with ⟨bytes, packed, _, _, unpacked⟩
    rcases unpackValue_of_opackUnpack (trips _ (.self _) bytes packed []) with ⟨seen, inner⟩
    rcases unpacked [] [] (2 * (bytes ++ []).length + 1) (by simp) with ⟨final, folded⟩
    have equal := folded.symm.trans inner
    simp only [Except.ok.injEq, Unpacked.mk.injEq, OpackValue.object.injEq] at equal
    intro same
    have present : protoKey ∈ members.map Prod.fst := same ▸ mem_map_of_mem found
    rw [← equal.1] at present
    exact protoKey_notMem_foldl members [] (by simp) present

theorem Inside.inDomain {part value : OpackValue} (inside : Inside part value)
    (domain : InDomain value) : InDomain part := by
  induction inside with
  | self value => exact domain
  | item member _ ih =>
    cases domain with
    | array _ each => exact ih (each _ member)
  | key member => exact .text _
  | value member _ ih =>
    cases domain with
    | object _ _ each => exact ih (each _ member)

theorem Inside.faithful {part value : OpackValue} (inside : Inside part value)
    (faithful : Faithful value) : Faithful part := by
  induction inside with
  | self value => exact faithful
  | item member _ ih =>
    cases faithful with
    | array _ each => exact ih (each _ member)
  | key member =>
    cases faithful with
    | object _ keys _ => exact .text _ (keys _ member).1
  | value member _ ih =>
    cases faithful with
    | object _ _ each => exact ih (each _ member)

/--
A value, the values in it and the keys in it all come back as they were packed,
exactly if the value has no negative integer, no unfaithful string and no
prototype key.
-/
theorem roundTrips_iff_faithful (stringOf : OpackValue → Option JsString)
    (value : OpackValue) (domain : InDomain value) :
    (∀ part, Inside part value → RoundTrips stringOf part) ↔ Faithful value := by
  constructor
  · exact faithful_of_roundTrips domain
  · intro faithful part inside
    rcases reads_of_faithful stringOf (inside.inDomain domain)
      (inside.faithful faithful) with ⟨bytes, reads⟩
    exact reads.roundTrips

namespace Payload

def code : JsString := [0x63, 0x6F, 0x64, 0x65]

/-- An object without a method of its own is converted to this text. -/
def objectText (value : OpackValue) : Option JsString :=
  match value with
  | .object _ => some ("[object Object]".toList.map fun unit => UInt16.ofNat unit.toNat)
  | _ => none

def value : OpackValue :=
  .object [(code, .array [.number (.finite ((7 : ℤ) : ℚ)), .number (.finite ((300 : ℤ) : ℚ)),
    .null])]

theorem inDomain : InDomain value := by
  refine .object _ (pairwise_singleton _ _) ?_
  simp only [mem_singleton, forall_eq]
  refine .array _ ?_
  simp only [mem_cons, not_mem_nil, or_false, forall_eq_or_imp, forall_eq]
  exact ⟨.integer 7 (by decide), .integer 300 (by decide), .null⟩

theorem faithful : Faithful value := by
  refine .object _ ?_ ?_
  · simp only [mem_singleton, forall_eq]
    exact ⟨by decide, by decide⟩
  · simp only [mem_singleton, forall_eq]
    refine .array _ ?_
    simp only [mem_cons, not_mem_nil, or_false, forall_eq_or_imp, forall_eq]
    exact ⟨.number _ (by norm_num), .number _ (by norm_num), .null⟩

end Payload

/-- A payload with a member that is an array comes back. -/
theorem payload_roundTrips : RoundTrips Payload.objectText Payload.value :=
  (roundTrips_iff_faithful Payload.objectText Payload.value Payload.inDomain).mpr
    Payload.faithful Payload.value (.self _)

theorem packInteger_negThree : packInteger (-3) = [0x05] := by
  have sum : ((-3 : ℤ) : ℚ) + 8 = ((5 : ℕ) : ℚ) := by norm_num
  rw [packInteger, if_pos (by decide), roundToDouble_intCast (by decide)]
  dsimp only
  rw [sum, roundToDouble_natCast (by decide), toUint8_natCast]
  rfl

/-- The integer -3 is packed into the tag of an identifier, and no identifier follows. -/
theorem negThree_does_not_roundTrip :
    ¬ ∀ (stringOf : OpackValue → Option JsString) (value : OpackValue), InDomain value →
      RoundTrips stringOf value := by
  intro claim
  have packed : opackPack (.number (.finite ((-3 : ℤ) : ℚ))) = .ok [0x05] := by
    rw [opackPack, packValue_integer, packInteger_negThree]
  have unpacked := claim Payload.objectText _ (.integer (-3) (by decide)) [0x05] packed []
  cases unpacked

end SupremeOs.Protocols.AppleTvOpack
