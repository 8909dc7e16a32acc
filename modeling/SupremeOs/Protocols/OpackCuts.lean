import SupremeOs.Protocols.AppleTvOpackRoundTrip

/-!
# Parts of OPACK bytes

What becomes of the bytes of a value if some of them are missing.  A number is
refused.  Lengths are not compared with what is left, so a string or a byte
string is read as a shorter one, and nothing is left after it.  The loops over
the entries of arrays and objects are refused if an entry is, or if one has to
follow and nothing is left.
-/

namespace SupremeOs.Protocols.AppleTvOpack

open Support DomainModel List

section Outcomes

variable {Value : Type}

def Fails (outcome : Except OpackError (Unpacked Value)) : Prop := ∃ error, outcome = .error error

/-- A value is read, and these bytes are left. -/
def Leaves (rest : List UInt8) (outcome : Except OpackError (Unpacked Value)) : Prop :=
  ∃ value objectList, outcome = .ok ⟨value, rest, objectList⟩

abbrev Reading (Value : Type) :=
  Nat → List UInt8 → List OpackValue → Except OpackError (Unpacked Value)

/-- One of two streams starts with the other one. -/
def Agree (data bytes : List UInt8) : Prop := data <+: bytes ∨ bytes <+: data

theorem agree_append {data bytes rest : List UInt8} (agree : Agree data (bytes ++ rest)) :
    (data <+: bytes ∧ data ≠ bytes) ∨ ∃ others, data = bytes ++ others ∧ Agree others rest := by
  by_cases complete : bytes <+: data
  · obtain ⟨others, rfl⟩ := complete
    refine .inr ⟨others, rfl, agree.imp ?_ ?_⟩
    · exact (prefix_append_right_inj _).mp
    · exact (prefix_append_right_inj _).mp
  · refine .inl ⟨?_, fun same => complete (same ▸ prefix_refl _)⟩
    rcases agree with starts | starts
    · exact (List.prefix_or_prefix_of_prefix starts (prefix_append _ _)).resolve_right complete
    · exact absurd ((prefix_append _ _).trans starts) complete

theorem part_append {data bytes rest : List UInt8} (starts : data <+: bytes ++ rest)
    (differs : data ≠ bytes ++ rest) :
    (data <+: bytes ∧ data ≠ bytes) ∨
      ∃ others, data = bytes ++ others ∧ others <+: rest ∧ others ≠ rest := by
  rcases agree_append (.inl starts) with within | ⟨others, rfl, _⟩
  · exact .inl within
  · refine .inr ⟨others, rfl, (prefix_append_right_inj _).mp starts, fun same => ?_⟩
    exact differs (congrArg _ same)

/--
How some bytes are read, and what becomes of a part of them: whether they are
read at all, and whether they end in a string that may be cut.
-/
structure Cut (read : Reading Value) (unreadable endsOpen : Prop) (bytes : List UInt8) :
    Prop where
  /-- The bytes are not taken for the end of a container. -/
  begins : ∃ tag more, bytes = tag :: more ∧ tag.toNat ≠ 0x03
  reads : ¬unreadable → ∀ rest objectList fuel, 2 * (bytes ++ rest).length + 1 ≤ fuel →
    Leaves rest (read fuel (bytes ++ rest) objectList)
  refused : unreadable → ∀ data objectList fuel, Agree data bytes →
    2 * data.length + 1 ≤ fuel → Fails (read fuel data objectList)
  truncated : ∀ data objectList fuel, data <+: bytes → data ≠ bytes → 2 * data.length + 1 ≤ fuel →
    Fails (read fuel data objectList) ∨ endsOpen ∧ Leaves [] (read fuel data objectList)
  opened : endsOpen → ∀ objectList fuel, 2 * bytes.dropLast.length + 1 ≤ fuel →
    Leaves [] (read fuel bytes.dropLast objectList)

end Outcomes

section Values

variable {stringOf : OpackValue → Option JsString}
variable {fuel : Nat} {tag : UInt8} {body data bytes : List UInt8} {objectList : List OpackValue}
variable {unreadable endsOpen : Prop}

theorem unpack_nil : Fails (unpackValue stringOf fuel [] objectList) := by
  cases fuel <;> exact ⟨_, rfl⟩

theorem unpack_double (same : tag.toNat = 0x36) :
    unpackValue stringOf (fuel + 1) (tag :: body) objectList = (readWord 8 body >>= fun bits =>
        remember (.number (ofFloatBits 11 52 bits)) (body.drop 8) objectList) := by
  simp only [unpackValue]
  iterate 7 rw [if_neg (by omega)]
  rw [if_pos same]

theorem cut_fixed {more : List UInt8} (differs : tag.toNat ≠ 0x03)
    (readable : ¬unreadable) (closed : ¬endsOpen) (whole : ∀ rest objectList fuel,
      Leaves rest (unpackValue stringOf (fuel + 1) (tag :: (more ++ rest)) objectList))
    (short : ∀ body objectList fuel, body.length < more.length →
      Fails (unpackValue stringOf (fuel + 1) (tag :: body) objectList)) :
    Cut (unpackValue stringOf) unreadable endsOpen (tag :: more) where
  begins := ⟨tag, more, rfl, differs⟩
  reads _ rest objectList fuel enough := by
    obtain ⟨fuel, rfl⟩ : ∃ less, fuel = less + 1 := ⟨fuel - 1, by omega⟩
    exact whole rest objectList fuel
  refused refused := absurd refused readable
  truncated data objectList fuel starts differs enough := by
    obtain ⟨fuel, rfl⟩ : ∃ less, fuel = less + 1 := ⟨fuel - 1, by omega⟩
    left
    cases data with
    | nil => exact unpack_nil
    | cons first body =>
      obtain ⟨rfl, within⟩ := cons_prefix_cons.mp starts
      refine short body objectList fuel (lt_of_le_of_ne within.length_le fun same => ?_)
      exact differs (congrArg _ (within.eq_of_length same))
  opened ends := absurd ends closed

theorem cut_null (readable : ¬unreadable) (closed : ¬endsOpen) :
    Cut (unpackValue stringOf) unreadable endsOpen [0x04] :=
  cut_fixed (by decide) readable closed (fun _ _ _ => ⟨_, _, rfl⟩) fun _ _ _ short => by
    cases short

theorem cut_boolean (readable : ¬unreadable) (closed : ¬endsOpen) (value : Bool) :
    Cut (unpackValue stringOf) unreadable endsOpen [if value then 1 else 2] := by
  refine cut_fixed (by cases value <;> decide) readable closed (fun _ _ _ => ?_)
    fun _ _ _ short => by cases short
  cases value <;> exact ⟨_, _, rfl⟩

theorem unpackUnsigned_whole {size : Nat} (positive : 0 < size) (value : Nat)
    (rest : List UInt8) : Leaves rest (unpackUnsigned size (u value size ++ rest) objectList) := by
  have enough : ¬(min size 6 = 0 ∨ 6 < min size 6 ∨
      (u value size ++ rest).length < min size 6) := by
    rw [length_append, length_u]
    omega
  rw [unpackUnsigned, readUIntLE, if_neg enough, drop_left' (length_u value size)]
  by_cases wide : size = 8
  · have word : ¬(u value size ++ rest).length < 8 := by
      rw [length_append, length_u]
      omega
    simp only [bind, Except.bind, if_pos wide, readWord, if_neg word]
    exact ⟨_, _, rfl⟩
  · simp only [bind, Except.bind, if_neg wide]
    exact ⟨_, _, rfl⟩

theorem unpackUnsigned_short {size : Nat} (known : size ≤ 6 ∨ size = 8)
    (short : body.length < size) : Fails (unpackUnsigned size body objectList) := by
  rw [unpackUnsigned, readUIntLE]
  split
  · exact ⟨_, rfl⟩
  · have wide : size = 8 := by omega
    have word : body.length < 8 := by omega
    simp only [bind, Except.bind, if_pos wide, readWord, if_pos word]
    exact ⟨_, rfl⟩

theorem cut_unsigned (readable : ¬unreadable) (closed : ¬endsOpen) (number : Nat) {size : Nat}
    (low : 0x30 ≤ tag.toNat) (high : tag.toNat ≤ 0x33) (same : 2 ^ (tag.toNat % 16) = size)
    (known : size ≤ 6 ∨ size = 8) (positive : 0 < size) :
    Cut (unpackValue stringOf) unreadable endsOpen (tag :: u number size) := by
  refine cut_fixed (by omega) readable closed (fun rest objectList fuel => ?_)
    fun body objectList fuel short => ?_
  · rw [unpack_unsigned low high, same]
    exact unpackUnsigned_whole positive number rest
  · rw [unpack_unsigned low high, same]
    rw [length_u] at short
    exact unpackUnsigned_short known short

theorem cut_integer (readable : ¬unreadable) (closed : ¬endsOpen) (number : Nat) :
    Cut (unpackValue stringOf) unreadable endsOpen (packInteger number) := by
  unfold packInteger
  rw [Int.toNat_natCast]
  split
  · rename_i tiny
    have tiny : number < 0x28 := by exact_mod_cast tiny
    have sum : ((number : ℤ) : ℚ) + 8 = ((number + 8 : Nat) : ℚ) := by push_cast; rfl
    have tag : (UInt8.ofNat (number + 8)).toNat = number + 8 :=
      UInt8.toNat_ofNat_of_lt' (show number + 8 < 256 by omega)
    rw [roundToDouble_intCast (by omega)]
    dsimp only
    rw [sum, roundToDouble_natCast (by omega), toUint8_natCast]
    refine cut_fixed (by omega) readable closed (fun rest objectList fuel => ?_)
      fun _ _ _ short => by cases short
    rw [unpack_smallInteger (by omega) (by omega)]
    exact ⟨_, _, rfl⟩
  · split
    · exact cut_unsigned readable closed number (by decide) (by decide) rfl (by decide) (by decide)
    · split
      · exact cut_unsigned readable closed number (by decide) (by decide) rfl (by decide)
          (by decide)
      · split
        · exact cut_unsigned readable closed number (by decide) (by decide) rfl (by decide)
            (by decide)
        · exact cut_unsigned readable closed number (by decide) (by decide) rfl (by decide)
            (by decide)

theorem cut_double (readable : ¬unreadable) (closed : ¬endsOpen) (bits : Nat) :
    Cut (unpackValue stringOf) unreadable endsOpen (0x36 :: u bits 8) := by
  refine cut_fixed (by decide) readable closed (fun rest objectList fuel => ?_)
    fun body objectList fuel short => ?_
  · have word : ¬(u bits 8 ++ rest).length < 8 := by
      rw [length_append, length_u]
      omega
    rw [unpack_double rfl, readWord, if_neg word, drop_left' (length_u bits 8)]
    exact ⟨_, _, rfl⟩
  · rw [length_u] at short
    rw [unpack_double rfl, readWord, if_pos short]
    exact ⟨_, rfl⟩

theorem cut_number (readable : ¬unreadable) (closed : ¬endsOpen) {value : JsNumber}
    (nonnegative : ∀ number : ℚ, value = .finite number → number.den = 1 → 0 ≤ number)
    (packed : packNumber value = .ok bytes) :
    Cut (unpackValue stringOf) unreadable endsOpen bytes := by
  cases value with
  | finite number =>
    rw [packNumber] at packed
    split at packed
    · rename_i whole
      have positive : 0 ≤ number.num := Rat.num_nonneg.mpr (nonnegative number rfl whole)
      cases packed
      rw [← Int.toNat_of_nonneg positive]
      exact cut_integer readable closed _
    · cases packed
      exact cut_double readable closed _
  | _ => cases packed

/-- A tag with a length, and as many bytes as it says. -/
theorem cut_counted {header encoded : List UInt8} (differs : tag.toNat ≠ 0x03)
    (readable : ¬unreadable) (ends : endsOpen ↔ encoded ≠ [])
    (whole : ∀ body objectList fuel, Leaves (body.drop encoded.length)
      (unpackValue stringOf (fuel + 1) (tag :: (header ++ body)) objectList))
    (short : ∀ body objectList fuel, body.length < header.length →
      Fails (unpackValue stringOf (fuel + 1) (tag :: body) objectList)) :
    Cut (unpackValue stringOf) unreadable endsOpen (tag :: (header ++ encoded)) where
  begins := ⟨tag, _, rfl, differs⟩
  reads _ rest objectList fuel enough := by
    obtain ⟨fuel, rfl⟩ : ∃ less, fuel = less + 1 := ⟨fuel - 1, by omega⟩
    have read := whole (encoded ++ rest) objectList fuel
    rw [drop_left] at read
    rw [cons_append, append_assoc]
    exact read
  refused refused := absurd refused readable
  truncated data objectList fuel starts differs enough := by
    obtain ⟨fuel, rfl⟩ : ∃ less, fuel = less + 1 := ⟨fuel - 1, by omega⟩
    cases data with
    | nil => exact .inl unpack_nil
    | cons first body =>
      obtain ⟨rfl, within⟩ := cons_prefix_cons.mp starts
      rcases part_append within (fun same => differs (congrArg _ same)) with
        ⟨inHeader, part⟩ | ⟨others, rfl, inEncoded, part⟩
      · refine .inl (short body objectList fuel (lt_of_le_of_ne inHeader.length_le fun same => ?_))
        exact part (inHeader.eq_of_length same)
      · have read := whole others objectList fuel
        rw [drop_eq_nil_of_le inEncoded.length_le] at read
        refine .inr ⟨ends.mpr fun none => part ?_, read⟩
        rw [none] at inEncoded ⊢
        exact prefix_nil.mp inEncoded
  opened openEnd objectList fuel enough := by
    obtain ⟨fuel, rfl⟩ : ∃ less, fuel = less + 1 := ⟨fuel - 1, by omega⟩
    have nonempty := ends.mp openEnd
    have read := whole encoded.dropLast objectList fuel
    rw [drop_eq_nil_of_le (List.dropLast_prefix _).length_le] at read
    rw [dropLast_cons_of_ne_nil (append_ne_nil_of_right_ne_nil _ nonempty),
      dropLast_append_of_ne_nil nonempty]
    exact read

theorem readUIntLE_short {count : Nat} (short : body.length < count) :
    readUIntLE count body = .error .rangeError :=
  if_pos (.inr (.inr short))

theorem cut_long {encoded : List UInt8} {count : Nat} (differs : tag.toNat ≠ 0x03)
    (readable : ¬unreadable) (ends : endsOpen ↔ encoded ≠ []) (positive : 0 < count)
    (small : count ≤ 6) (fits : encoded.length < 256 ^ count)
    (take : Nat → List UInt8 → List OpackValue → Except OpackError (Unpacked OpackValue))
    (leaves : ∀ length body objectList, Leaves (body.drop length) (take length body objectList))
    (unpack : ∀ body objectList fuel, unpackValue stringOf (fuel + 1) (tag :: body) objectList =
      (readUIntLE count body >>= fun length => take length (body.drop count) objectList)) :
    Cut (unpackValue stringOf) unreadable endsOpen (tag :: (u encoded.length count
      ++ encoded)) := by
  refine cut_counted differs readable ends (fun body objectList fuel => ?_)
    fun body objectList fuel short => ?_
  · rw [unpack, readUIntLE_u positive small, Nat.mod_eq_of_lt fits, drop_left' (length_u _ _)]
    exact leaves _ _ _
  · rw [length_u] at short
    rw [unpack, readUIntLE_short short]
    exact ⟨_, rfl⟩

theorem unpackText_leaves (length : Nat) (body : List UInt8) (objectList : List OpackValue) :
    Leaves (body.drop length) (unpackText length body objectList) :=
  ⟨_, _, rfl⟩

theorem unpackBytes_leaves (length : Nat) (body : List UInt8) (objectList : List OpackValue) :
    Leaves (body.drop length) (unpackBytes length body objectList) :=
  ⟨_, _, rfl⟩

theorem cut_string (readable : ¬unreadable) {value : JsString}
    (short : (Utf16.utf8Bytes value).length < 2 ^ 32)
    (ends : endsOpen ↔ Utf16.utf8Bytes value ≠ []) :
    Cut (unpackValue stringOf) unreadable endsOpen (packString value) := by
  have long : ∀ (tag : UInt8) (count : Nat), 0x60 < tag.toNat → tag.toNat ≤ 0x64 →
      tag.toNat % 16 = count → (Utf16.utf8Bytes value).length < 256 ^ count →
      Cut (unpackValue stringOf) unreadable endsOpen
        (tag :: (u (Utf16.utf8Bytes value).length count ++ Utf16.utf8Bytes value)) := by
    intro tag count low high equal fits
    refine cut_long (by omega) readable ends (by omega) (by omega) fits unpackText
      unpackText_leaves fun body objectList fuel => ?_
    rw [unpack_longText low high, equal]
  unfold packString
  dsimp only
  split
  · have tag := toNat_tag (show 0x40 + (Utf16.utf8Bytes value).length < 256 by omega)
    show Cut _ _ _ (_ :: ([] ++ Utf16.utf8Bytes value))
    refine cut_counted (by omega) readable ends (fun body objectList fuel => ?_)
      fun body objectList fuel short => by cases short
    rw [nil_append, unpack_shortText (by omega) (by omega), tag, Nat.add_sub_cancel_left]
    exact unpackText_leaves _ _ _
  · split
    · exact long 0x61 1 (by decide) (by decide) rfl (by omega)
    · split
      · exact long 0x62 2 (by decide) (by decide) rfl (by omega)
      · split
        · exact long 0x63 3 (by decide) (by decide) rfl (by omega)
        · exact long 0x64 4 (by decide) (by decide) rfl (by omega)

theorem cut_bytes (readable : ¬unreadable) (short : data.length < 2 ^ 32)
    (ends : endsOpen ↔ data ≠ []) :
    Cut (unpackValue stringOf) unreadable endsOpen (packBytes data) := by
  have long : ∀ (tag : UInt8) (count : Nat), 0x91 ≤ tag.toNat → tag.toNat ≤ 0x94 →
      2 ^ (tag.toNat % 16 - 1) = count → 0 < count → count ≤ 4 → data.length < 256 ^ count →
      Cut (unpackValue stringOf) unreadable endsOpen
        (tag :: (u data.length count ++ data)) := by
    intro tag count low high equal positive small fits
    refine cut_long (by omega) readable ends positive (by omega) fits unpackBytes
      unpackBytes_leaves fun body objectList fuel => ?_
    rw [unpack_longBytes low high, equal]
  unfold packBytes
  dsimp only
  split
  · have tag := toNat_tag (show 0x70 + data.length < 256 by omega)
    show Cut _ _ _ (_ :: ([] ++ data))
    refine cut_counted (by omega) readable ends (fun body objectList fuel => ?_)
      fun body objectList fuel short => by cases short
    rw [nil_append, unpack_shortBytes (by omega) (by omega), tag, Nat.add_sub_cancel_left]
    exact unpackBytes_leaves _ _ _
  · split
    · exact long 0x91 1 (by decide) (by decide) rfl (by omega) (by omega) (by omega)
    · split
      · exact long 0x92 2 (by decide) (by decide) rfl (by omega) (by omega) (by omega)
      · rw [if_pos (by omega)]
        exact long 0x93 4 (by decide) (by decide) rfl (by omega) (by omega) (by omega)

theorem cut_longBytes (refused : unreadable) (closed : ¬endsOpen) (long : 2 ^ 32 ≤ data.length) :
    Cut (unpackValue stringOf) unreadable endsOpen (packBytes data) := by
  have fails : ∀ body objectList fuel,
      Fails (unpackValue stringOf fuel ((0x94 : UInt8) :: body) objectList) := by
    intro body objectList fuel
    cases fuel with
    | zero => exact ⟨_, rfl⟩
    | succ fuel =>
      rw [unpack_longBytes (by decide) (by decide), readUIntLE, if_pos (.inr (.inl (by decide)))]
      exact ⟨_, rfl⟩
  have packed : packBytes data = 0x94 :: (u data.length 8 ++ data) := by
    unfold packBytes
    dsimp only
    iterate 4 rw [if_neg (by omega)]
    rfl
  have starting : ∀ data' objectList fuel, Agree data' (packBytes data) →
      Fails (unpackValue stringOf fuel data' objectList) := by
    intro data' objectList fuel agree
    cases data' with
    | nil => exact unpack_nil
    | cons first body =>
      obtain rfl : first = 0x94 := by
        rw [packed] at agree
        rcases agree with starts | starts
        · exact (cons_prefix_cons.mp starts).1
        · exact (cons_prefix_cons.mp starts).1.symm
      exact fails body objectList fuel
  exact {
    begins := ⟨_, _, packed, by decide⟩
    reads := fun readable => absurd refused readable
    refused := fun _ data' objectList fuel agree _ => starting data' objectList fuel agree
    truncated := fun data' objectList fuel starts _ _ =>
      .inl (starting data' objectList fuel (.inl starts))
    opened := fun ends => absurd ends closed }

end Values

/-! ## Entries one after the other -/

section Entries

variable {Entry Result Output Source : Type} {entry : Reading Entry}
variable {loop : Output → Option Nat → Reading Result}
variable {unreadable endsOpen : Prop} {data bytes parts : List UInt8}

/-- A loop reads entries up to a number of them, or to a terminator. -/
structure Repeats (entry : Reading Entry) (loop : Output → Option Nat → Reading Result) : Prop where
  nothing : ∀ fuel objectList, Fails (entry fuel [] objectList)
  ends : ∀ output fuel data objectList,
    Leaves data (loop output (some 0) (fuel + 1) data objectList)
  closes : ∀ output fuel rest objectList,
    Leaves rest (loop output none (fuel + 1) (0x03 :: rest) objectList)
  fails : ∀ output count fuel data objectList, count ≠ some 0 → data.head? ≠ some 0x03 →
    Fails (entry fuel data objectList) → Fails (loop output count (fuel + 1) data objectList)
  goes : ∀ output count fuel data objectList rest, count ≠ some 0 → data.head? ≠ some 0x03 →
    Leaves rest (entry fuel data objectList) → ∃ next seen,
      (Fails (loop next (count.map (· - 1)) fuel rest seen) →
        Fails (loop output count (fuel + 1) data objectList)) ∧
      ∀ final, Leaves final (loop next (count.map (· - 1)) fuel rest seen) →
        Leaves final (loop output count (fuel + 1) data objectList)

/-- How the entries of a container are read, and what becomes of a part of them. -/
structure CutLoop (loop : Output → Option Nat → Reading Result) (unreadable endsOpen : Prop)
    (count : Nat) (parts : List UInt8) : Prop where
  none : count = 0 → parts = []
  reads : ¬unreadable → ∀ output long rest objectList fuel,
    2 * (parts ++ closing long ++ rest).length + 2 ≤ fuel →
    Leaves rest (loop output (openCount long count) fuel (parts ++ closing long ++ rest) objectList)
  refused : unreadable → ∀ output long data objectList fuel, Agree data (parts ++ closing long) →
    2 * data.length + 2 ≤ fuel → Fails (loop output (openCount long count) fuel data objectList)
  truncated : ∀ output long data objectList fuel, data <+: parts ++ closing long →
    data ≠ parts ++ closing long → 2 * data.length + 2 ≤ fuel →
    Fails (loop output (openCount long count) fuel data objectList) ∨ (long = false ∧ endsOpen) ∧
        Leaves [] (loop output (openCount long count) fuel data objectList)
  opened : endsOpen → parts ≠ [] ∧ ∀ output objectList fuel,
    2 * parts.dropLast.length + 2 ≤ fuel →
      Leaves [] (loop output (openCount false count) fuel parts.dropLast objectList)

theorem Cut.length_pos (cut : Cut entry unreadable endsOpen bytes) : 0 < bytes.length := by
  obtain ⟨tag, more, rfl, _⟩ := cut.begins
  exact Nat.succ_pos _

theorem Cut.head_ne (cut : Cut entry unreadable endsOpen bytes) (agree : Agree data bytes) :
    data.head? ≠ some 0x03 := by
  obtain ⟨tag, more, rfl, differs⟩ := cut.begins
  cases data with
  | nil => exact nofun
  | cons first body =>
    have same : first = tag := by
      rcases agree with starts | starts
      · exact (cons_prefix_cons.mp starts).1
      · exact (cons_prefix_cons.mp starts).1.symm
    intro equal
    rw [head?_cons, Option.some.injEq, same] at equal
    exact differs (equal ▸ rfl)

theorem Repeats.length_pos_of_leaves (repeats : Repeats entry loop) {fuel : Nat}
    {objectList : List OpackValue} {rest : List UInt8}
    (leaves : Leaves rest (entry fuel data objectList)) : 0 < data.length := by
  cases data with
  | nil =>
    obtain ⟨error, failed⟩ := repeats.nothing fuel objectList
    obtain ⟨value, seen, read⟩ := leaves
    cases failed.symm.trans read
  | cons first body => exact Nat.succ_pos _

theorem openCount_succ (long : Bool) (count : Nat) : openCount long (count + 1) ≠ some 0 ∧
    (openCount long (count + 1)).map (· - 1) = openCount long count := by
  cases long <;> simp [openCount]

theorem cutLoop_nil (repeats : Repeats entry loop) : CutLoop loop False False 0 [] where
  none _ := rfl
  reads _ output long rest objectList fuel enough := by
    obtain ⟨fuel, rfl⟩ : ∃ less, fuel = less + 1 := ⟨fuel - 1, by omega⟩
    cases long with
    | false => exact repeats.ends output fuel rest objectList
    | true => exact repeats.closes output fuel rest objectList
  refused := False.elim
  truncated output long data objectList fuel starts differs enough := by
    obtain ⟨fuel, rfl⟩ : ∃ less, fuel = less + 1 := ⟨fuel - 1, by omega⟩
    left
    cases long with
    | false => exact absurd (prefix_nil.mp starts) differs
    | true =>
      obtain rfl : data = [] := by
        cases data with
        | nil => rfl
        | cons first body =>
          obtain ⟨rfl, within⟩ := cons_prefix_cons.mp starts
          exact absurd (congrArg _ (prefix_nil.mp within)) differs
      exact repeats.fails output _ fuel [] objectList nofun nofun (repeats.nothing _ _)
  opened := False.elim

theorem cutLoop_cons (repeats : Repeats entry loop) {othersUnreadable othersOpen : Prop}
    {count : Nat} (cut : Cut entry unreadable endsOpen bytes)
    (others : CutLoop loop othersUnreadable othersOpen count parts) :
    CutLoop loop (unreadable ∨ othersUnreadable)
      (count = 0 ∧ endsOpen ∨ ¬unreadable ∧ othersOpen) (count + 1) (bytes ++ parts) := by
  have positive := cut.length_pos
  have counts := fun long => openCount_succ long count
  -- The loop goes on with the other entries after the first one.
  have onward : ∀ output long {data objectList fuel rest}, Agree data bytes →
      Leaves rest (entry fuel data objectList) → ∃ next seen,
        (Fails (loop next (openCount long count) fuel rest seen) →
          Fails (loop output (openCount long (count + 1)) (fuel + 1) data objectList)) ∧
        ∀ final, Leaves final (loop next (openCount long count) fuel rest seen) →
          Leaves final (loop output (openCount long (count + 1)) (fuel + 1) data objectList) := by
    intro output long data objectList fuel rest agree leaves
    have goes := repeats.goes output _ fuel data objectList rest (counts long).1
      (cut.head_ne agree) leaves
    rw [(counts long).2] at goes
    exact goes
  have stops : ∀ {output long data objectList fuel}, Agree data bytes →
      Fails (entry fuel data objectList) →
        Fails (loop output (openCount long (count + 1)) (fuel + 1) data objectList) :=
    fun agree fails => repeats.fails _ _ _ _ _ (counts _).1 (cut.head_ne agree) fails
  have after : ∀ rest, Agree (bytes ++ rest) bytes := fun rest =>
    .inr (prefix_append bytes rest)
  refine ⟨nofun, ?_, ?_, ?_, ?_⟩
  · intro readable output long rest objectList fuel enough
    obtain ⟨fuel, rfl⟩ : ∃ less, fuel = less + 1 := ⟨fuel - 1, by omega⟩
    simp only [append_assoc, length_append] at enough ⊢
    have first := cut.reads (fun held => readable (.inl held)) (parts ++ (closing long ++ rest))
      objectList fuel (by simp only [length_append]; omega)
    obtain ⟨next, seen, _, leaves⟩ := onward output long (after _) first
    refine leaves rest ?_
    rw [← append_assoc]
    exact others.reads (fun held => readable (.inr held)) next long rest seen fuel
      (by simp only [length_append]; omega)
  · intro refused output long data objectList fuel agree enough
    obtain ⟨fuel, rfl⟩ : ∃ less, fuel = less + 1 := ⟨fuel - 1, by omega⟩
    rw [append_assoc] at agree
    rcases agree_append agree with ⟨starts, differs⟩ | ⟨rest, rfl, agrees⟩
    · by_cases held : unreadable
      · exact stops (.inl starts) (cut.refused held data objectList fuel (.inl starts) (by omega))
      · rcases cut.truncated data objectList fuel starts differs (by omega) with fails | ⟨_, leaves⟩
        · exact stops (.inl starts) fails
        · have nonempty := repeats.length_pos_of_leaves leaves
          obtain ⟨next, seen, fails, _⟩ := onward output long (.inl starts) leaves
          exact fails (others.refused (refused.resolve_left held) next long [] seen fuel
            (.inl nil_prefix) (by rw [length_nil]; omega))
    · rw [length_append] at enough
      by_cases held : unreadable
      · exact stops (after rest) (cut.refused held _ objectList fuel (after rest)
          (by rw [length_append]; omega))
      · have first := cut.reads held rest objectList fuel (by rw [length_append]; omega)
        obtain ⟨next, seen, fails, _⟩ := onward output long (after rest) first
        exact fails (others.refused (refused.resolve_left held) next long rest seen fuel agrees
          (by omega))
  · intro output long data objectList fuel starts differs enough
    obtain ⟨fuel, rfl⟩ : ∃ less, fuel = less + 1 := ⟨fuel - 1, by omega⟩
    rw [append_assoc] at starts differs
    rcases part_append starts differs with ⟨within, part⟩ | ⟨rest, rfl, within, part⟩
    · rcases cut.truncated data objectList fuel within part (by omega) with fails | ⟨ended, leaves⟩
      · exact .inl (stops (.inl within) fails)
      · obtain ⟨next, seen, fails, leaves⟩ := onward output long (.inl within) leaves
        obtain ⟨fuel, rfl⟩ : ∃ less, fuel = less + 1 := ⟨fuel - 1, by omega⟩
        by_cases last : long = false ∧ count = 0
        · obtain ⟨rfl, rfl⟩ := last
          exact .inr ⟨⟨rfl, .inl ⟨rfl, ended⟩⟩, leaves [] (repeats.ends next fuel [] seen)⟩
        · have more : openCount long count ≠ some 0 := by
            cases long with
            | true => exact nofun
            | false => exact fun same => last ⟨rfl, Option.some.inj same⟩
          exact .inl (fails (repeats.fails next _ fuel [] seen more nofun (repeats.nothing _ _)))
    · rw [length_append] at enough
      by_cases held : unreadable
      · exact .inl (stops (after rest) (cut.refused held _ objectList fuel (after rest)
          (by rw [length_append]; omega)))
      · have first := cut.reads held rest objectList fuel (by rw [length_append]; omega)
        obtain ⟨next, seen, fails, leaves⟩ := onward output long (after rest) first
        rcases others.truncated next long rest seen fuel within part (by omega) with
          failed | ⟨⟨short, ended⟩, left⟩
        · exact .inl (fails failed)
        · exact .inr ⟨⟨short, .inr ⟨held, ended⟩⟩, leaves [] left⟩
  · intro ends
    refine ⟨fun empty => ?_, fun output objectList fuel enough => ?_⟩
    · rw [(append_eq_nil_iff.mp empty).1] at positive
      cases positive
    obtain ⟨fuel, rfl⟩ : ∃ less, fuel = less + 1 := ⟨fuel - 1, by omega⟩
    rcases ends with ⟨single, ended⟩ | ⟨readable, ended⟩
    · rw [others.none single, append_nil] at enough ⊢
      obtain ⟨next, seen, _, leaves⟩ := onward output false (.inl (List.dropLast_prefix bytes))
        (cut.opened ended objectList fuel (by omega))
      obtain ⟨fuel, rfl⟩ : ∃ less, fuel = less + 1 := ⟨fuel - 1, by omega⟩
      subst single
      exact leaves [] (repeats.ends next fuel [] seen)
    · obtain ⟨nonempty, opened⟩ := others.opened ended
      rw [dropLast_append_of_ne_nil nonempty, length_append] at enough
      rw [dropLast_append_of_ne_nil nonempty]
      have first := cut.reads readable parts.dropLast objectList fuel
        (by rw [length_append]; omega)
      obtain ⟨next, seen, _, leaves⟩ := onward output false (after _) first
      exact leaves [] (opened next seen fuel (by omega))

def LastOpen (unreadable endsOpen : Source → Prop) (sources : List Source) : Prop :=
  ∃ before last, sources = before ++ [last] ∧ (∀ source ∈ before, ¬unreadable source) ∧
    endsOpen last

theorem lastOpen_cons {unreadable endsOpen : Source → Prop} {source : Source}
    {sources : List Source} : LastOpen unreadable endsOpen (source :: sources) ↔
      sources.length = 0 ∧ endsOpen source ∨
        ¬unreadable source ∧ LastOpen unreadable endsOpen sources := by
  constructor
  · rintro ⟨before, last, same, readable, ends⟩
    cases before with
    | nil =>
      cases same
      exact .inl ⟨rfl, ends⟩
    | cons first before =>
      cases same
      refine .inr ⟨readable _ (.head _), before, last, rfl, ?_, ends⟩
      exact fun other member => readable other (.tail _ member)
  · rintro (⟨none, ends⟩ | ⟨first, before, last, rfl, readable, ends⟩)
    · rw [length_eq_zero_iff.mp none]
      exact ⟨[], source, rfl, nofun, ends⟩
    · exact ⟨source :: before, last, rfl, forall_mem_cons.mpr ⟨first, readable⟩, ends⟩

theorem CutLoop.congr {count : Nat} {otherUnreadable otherOpen : Prop}
    (cut : CutLoop loop unreadable endsOpen count parts) (refuses : unreadable ↔ otherUnreadable)
    (opens : endsOpen ↔ otherOpen) : CutLoop loop otherUnreadable otherOpen count parts := by
  rw [← propext refuses, ← propext opens]
  exact cut

theorem cutLoop (repeats : Repeats entry loop) {unreadable endsOpen : Source → Prop}
    {sources : List Source} {pieces : List (List UInt8)}
    (cuts : List.Forall₂ (fun source bytes => Cut entry (unreadable source) (endsOpen source) bytes)
      sources pieces) :
    CutLoop loop (∃ source ∈ sources, unreadable source) (LastOpen unreadable endsOpen sources)
      sources.length pieces.flatten := by
  induction cuts with
  | nil =>
    refine (cutLoop_nil repeats).congr (by simp) ⟨False.elim, ?_⟩
    rintro ⟨before, last, same, _⟩
    exact append_ne_nil_of_right_ne_nil before (cons_ne_nil last []) same.symm
  | cons cut _ ih =>
    refine (cutLoop_cons repeats cut ih).congr ?_ lastOpen_cons.symm
    rw [exists_mem_cons_iff]

end Entries

section Containers

variable {stringOf : OpackValue → Option JsString} {objectList : List OpackValue}

theorem textOf_unpackValue {fuel : Nat} {tag : UInt8} {body : List UInt8}
    {unpacked : Unpacked OpackValue} (low : 0x40 ≤ tag.toNat) (high : tag.toNat ≤ 0x64)
    (read : unpackValue stringOf fuel (tag :: body) objectList = .ok unpacked) :
    ∃ value, unpacked.value = .text value := by
  cases fuel with
  | zero => cases read
  | succ fuel =>
    by_cases short : tag.toNat ≤ 0x60
    · rw [unpack_shortText low short] at read
      cases read
      exact ⟨_, rfl⟩
    · rw [unpack_longText (by omega) high] at read
      obtain ⟨length, _, taken⟩ := exists_of_bind_eq_ok read
      cases taken
      exact ⟨_, rfl⟩

def readMember (stringOf : OpackValue → Option JsString) : Reading (JsString × OpackValue) :=
  fun fuel data objectList => do
    let key ← unpackValue stringOf fuel data objectList
    let value ← unpackValue stringOf fuel key.remaining key.objectList
    let name ← keyText stringOf key.value
    .ok ⟨(name, value.value), value.remaining, value.objectList⟩

theorem repeats_items :
    Repeats (unpackValue stringOf) fun (_ : Unit) count fuel => unpackItems stringOf
      fuel count where
  nothing _ _ := unpack_nil
  ends _ _ _ objectList := ⟨[], objectList, by rw [unpackItems, if_pos rfl]⟩
  closes _ _ _ objectList := ⟨[], objectList, by
    rw [unpackItems, if_neg (Option.some_ne_none 0).symm, if_pos ⟨rfl, rfl⟩]
    rfl⟩
  fails _ count fuel data objectList more inside := by
    rintro ⟨error, failed⟩
    refine ⟨error, ?_⟩
    rw [unpackItems, if_neg more, if_neg fun ends => inside ends.2, failed]
    rfl
  goes _ count fuel data objectList rest more inside := by
    rintro ⟨value, seen, read⟩
    refine ⟨(), seen, ?_, ?_⟩
    · rintro ⟨error, failed⟩
      refine ⟨error, ?_⟩
      rw [unpackItems, if_neg more, if_neg fun ends => inside ends.2, read]
      show (unpackItems stringOf fuel (count.map (· - 1)) rest seen >>= _) = _
      rw [failed]
      rfl
    · rintro final ⟨others, after, next⟩
      refine ⟨value :: others, after, ?_⟩
      rw [unpackItems, if_neg more, if_neg fun ends => inside ends.2, read]
      show (unpackItems stringOf fuel (count.map (· - 1)) rest seen >>= _) = _
      rw [next]
      rfl

theorem unpackMembers_succ {fuel : Nat} {count : Option Nat}
    {output : List (JsString × OpackValue)} {data : List UInt8}
    (more : count ≠ some 0) (inside : data.head? ≠ some 0x03) :
    unpackMembers stringOf (fuel + 1) count output data objectList =
      (readMember stringOf fuel data objectList >>= fun member =>
        unpackMembers stringOf fuel (count.map (· - 1))
          (assign output member.value.1 member.value.2) member.remaining member.objectList) := by
  rw [unpackMembers, if_neg more, if_neg fun ends => inside ends.2, readMember]
  simp only [bind_assoc]
  rfl

theorem repeats_members : Repeats (readMember stringOf)
    fun output count fuel => unpackMembers stringOf fuel count output where
  nothing fuel objectList := by
    have nothing : Fails (unpackValue stringOf fuel [] objectList) := unpack_nil
    obtain ⟨error, failed⟩ := nothing
    exact ⟨error, by rw [readMember, failed]; rfl⟩
  ends output _ _ objectList := ⟨output, objectList, by rw [unpackMembers, if_pos rfl]⟩
  closes output _ _ objectList := ⟨output, objectList, by
    rw [unpackMembers, if_neg (Option.some_ne_none 0).symm, if_pos ⟨rfl, rfl⟩]
    rfl⟩
  fails output count fuel data objectList more inside := by
    rintro ⟨error, failed⟩
    refine ⟨error, ?_⟩
    rw [unpackMembers_succ more inside, failed]
    rfl
  goes output count fuel data objectList rest more inside := by
    rintro ⟨member, seen, read⟩
    refine ⟨assign output member.1 member.2, seen, ?_, ?_⟩
    · rintro ⟨error, failed⟩
      refine ⟨error, ?_⟩
      rw [unpackMembers_succ more inside, read]
      exact failed
    · rintro final ⟨others, after, next⟩
      refine ⟨others, after, ?_⟩
      rw [unpackMembers_succ more inside, read]
      exact next

theorem cut_member {unreadableKey endsKey unreadable endsOpen : Prop} {keyBytes bytes : List UInt8}
    (key : Cut (unpackValue stringOf) unreadableKey endsKey keyBytes) (readable : ¬unreadableKey)
    (textual : ∃ tag more, keyBytes = tag :: more ∧ 0x40 ≤ tag.toNat ∧ tag.toNat ≤ 0x64)
    (value : Cut (unpackValue stringOf) unreadable endsOpen bytes) :
    Cut (readMember stringOf) unreadable endsOpen (keyBytes ++ bytes) := by
  have stops : ∀ {data objectList fuel}, Fails (unpackValue stringOf fuel data objectList) →
      Fails (readMember stringOf fuel data objectList) := by
    rintro data objectList fuel ⟨error, failed⟩
    exact ⟨error, by rw [readMember, failed]; rfl⟩
  have onward : ∀ {data objectList fuel rest}, Agree data keyBytes →
      Leaves rest (unpackValue stringOf fuel data objectList) → ∃ seen,
        (Fails (unpackValue stringOf fuel rest seen) →
          Fails (readMember stringOf fuel data objectList)) ∧
        ∀ final, Leaves final (unpackValue stringOf fuel rest seen) →
          Leaves final (readMember stringOf fuel data objectList) := by
    rintro data objectList fuel rest agree ⟨unpacked, seen, read⟩
    obtain ⟨text, rfl⟩ : ∃ text, unpacked = .text text := by
      obtain ⟨tag, more, rfl, low, high⟩ := textual
      cases data with
      | nil =>
        have nothing : Fails (unpackValue stringOf fuel [] objectList) := unpack_nil
        obtain ⟨error, failed⟩ := nothing
        cases failed.symm.trans read
      | cons first body =>
        have same : first = tag := by
          rcases agree with starts | starts
          · exact (cons_prefix_cons.mp starts).1
          · exact (cons_prefix_cons.mp starts).1.symm
        exact textOf_unpackValue (same ▸ low) (same ▸ high) read
    refine ⟨seen, ?_, ?_⟩
    · rintro ⟨error, failed⟩
      refine ⟨error, ?_⟩
      rw [readMember, read]
      show (unpackValue stringOf fuel rest seen >>= _) = _
      rw [failed]
      rfl
    · rintro final ⟨other, after, next⟩
      refine ⟨(text, other), after, ?_⟩
      rw [readMember, read]
      show (unpackValue stringOf fuel rest seen >>= _) = _
      rw [next]
      rfl
  have after : ∀ rest, Agree (keyBytes ++ rest) keyBytes := fun rest =>
    .inr (prefix_append keyBytes rest)
  have positive := value.length_pos
  refine ⟨?_, ?_, ?_, ?_, ?_⟩
  · obtain ⟨tag, more, rfl, differs⟩ := key.begins
    exact ⟨tag, _, rfl, differs⟩
  · intro held rest objectList fuel enough
    simp only [append_assoc, length_append] at enough ⊢
    obtain ⟨seen, _, leaves⟩ := onward (after _) (key.reads readable (bytes ++ rest) objectList fuel
      (by simp only [length_append]; omega))
    exact leaves rest (value.reads held rest seen fuel (by simp only [length_append]; omega))
  · intro held data objectList fuel agree enough
    rcases agree_append agree with ⟨starts, differs⟩ | ⟨rest, rfl, agrees⟩
    · rcases key.truncated data objectList fuel starts differs enough with fails | ⟨_, leaves⟩
      · exact stops fails
      · obtain ⟨seen, fails, _⟩ := onward (.inl starts) leaves
        exact fails unpack_nil
    · rw [length_append] at enough
      obtain ⟨seen, fails, _⟩ := onward (after rest) (key.reads readable rest objectList fuel
        (by rw [length_append]; omega))
      exact fails (value.refused held rest seen fuel agrees (by omega))
  · intro data objectList fuel starts differs enough
    rcases part_append starts differs with ⟨within, part⟩ | ⟨rest, rfl, within, part⟩
    · rcases key.truncated data objectList fuel within part enough with fails | ⟨_, leaves⟩
      · exact .inl (stops fails)
      · obtain ⟨seen, fails, _⟩ := onward (.inl within) leaves
        exact .inl (fails unpack_nil)
    · rw [length_append] at enough
      obtain ⟨seen, fails, leaves⟩ := onward (after rest) (key.reads readable rest objectList fuel
        (by rw [length_append]; omega))
      rcases value.truncated rest seen fuel within part (by omega) with failed | ⟨ended, left⟩
      · exact .inl (fails failed)
      · exact .inr ⟨ended, leaves [] left⟩
  · intro ended objectList fuel enough
    have nonempty : bytes ≠ [] := ne_nil_of_length_pos positive
    rw [dropLast_append_of_ne_nil nonempty, length_append] at enough
    rw [dropLast_append_of_ne_nil nonempty]
    obtain ⟨seen, _, leaves⟩ := onward (after _) (key.reads readable bytes.dropLast objectList fuel
      (by rw [length_append]; omega))
    exact leaves [] (value.opened ended seen fuel (by omega))

/-- A tag with a number of entries, or with entries up to a terminator. -/
theorem cut_container {Output Result : Type} {loop : Output → Option Nat → Reading Result}
    {unreadable ended : Prop} {tag : UInt8} {count : Nat} {long : Bool} {parts : List UInt8}
    (cut : CutLoop loop unreadable ended count parts) (differs : tag.toNat ≠ 0x03)
    (output : Output) (made : Result → OpackValue)
    (unpack : ∀ body objectList fuel, unpackValue stringOf (fuel + 1) (tag :: body) objectList =
      (loop output (openCount long count) fuel body objectList >>= fun entries =>
        .ok ⟨made entries.value, entries.remaining, entries.objectList⟩)) :
    Cut (unpackValue stringOf) unreadable (long = false ∧ ended)
      (tag :: (parts ++ closing long)) := by
  have fails : ∀ {body objectList fuel},
      Fails (loop output (openCount long count) fuel body objectList) →
        Fails (unpackValue stringOf (fuel + 1) (tag :: body) objectList) := by
    rintro body objectList fuel ⟨error, failed⟩
    exact ⟨error, by rw [unpack, failed]; rfl⟩
  have leaves : ∀ {rest body objectList fuel},
      Leaves rest (loop output (openCount long count) fuel body objectList) →
        Leaves rest (unpackValue stringOf (fuel + 1) (tag :: body) objectList) := by
    rintro rest body objectList fuel ⟨result, seen, read⟩
    exact ⟨made result, seen, by rw [unpack, read]; rfl⟩
  refine ⟨⟨tag, _, rfl, differs⟩, ?_, ?_, ?_, ?_⟩
  · intro readable rest objectList fuel enough
    obtain ⟨fuel, rfl⟩ : ∃ less, fuel = less + 1 := ⟨fuel - 1, by omega⟩
    rw [cons_append, length_cons] at enough
    exact leaves (cut.reads readable output long rest objectList fuel (by omega))
  · intro refused data objectList fuel agree enough
    obtain ⟨fuel, rfl⟩ : ∃ less, fuel = less + 1 := ⟨fuel - 1, by omega⟩
    cases data with
    | nil => exact unpack_nil
    | cons first body =>
      have agrees : first = tag ∧ Agree body (parts ++ closing long) := by
        rcases agree with starts | starts
        · obtain ⟨same, within⟩ := cons_prefix_cons.mp starts
          exact ⟨same, .inl within⟩
        · obtain ⟨same, within⟩ := cons_prefix_cons.mp starts
          exact ⟨same.symm, .inr within⟩
      obtain ⟨rfl, agrees⟩ := agrees
      rw [length_cons] at enough
      exact fails (cut.refused refused output long body objectList fuel agrees (by omega))
  · intro data objectList fuel starts part enough
    obtain ⟨fuel, rfl⟩ : ∃ less, fuel = less + 1 := ⟨fuel - 1, by omega⟩
    cases data with
    | nil => exact .inl unpack_nil
    | cons first body =>
      obtain ⟨rfl, within⟩ := cons_prefix_cons.mp starts
      rw [length_cons] at enough
      exact (cut.truncated output long body objectList fuel within
        (fun same => part (congrArg _ same)) (by omega)).imp fails (And.imp_right leaves)
  · rintro ⟨rfl, ended⟩ objectList fuel enough
    obtain ⟨fuel, rfl⟩ : ∃ less, fuel = less + 1 := ⟨fuel - 1, by omega⟩
    obtain ⟨nonempty, opened⟩ := cut.opened ended
    rw [closing, if_neg (by decide), append_nil, dropLast_cons_of_ne_nil nonempty,
      length_cons] at enough
    rw [closing, if_neg (by decide), append_nil, dropLast_cons_of_ne_nil nonempty]
    exact leaves (opened output objectList fuel (by omega))

end Containers

end SupremeOs.Protocols.AppleTvOpack
