import Mathlib.Data.Nat.Digits.Defs
import SupremeOs.Protocols.MatterPairing
import SupremeOs.Support.Varint

/-!
# Which texts in base 38 are decoded exactly

Three bytes are five characters, two are four and one is two.  There are more
chunks of characters than groups of bytes, and the decoder takes the low bytes
of those that stand for no group; fields beyond the last byte are read as zeros.
A text is decoded exactly if it is refused for its fields, or if each chunk fits
into its bytes and there are enough of them.
-/

namespace SupremeOs.Protocols.MatterPairing

open Support List

/-- The number that bytes stand for, the first one being the lowest. -/
def number (bytes : List Nat) : Nat := Nat.ofDigits 256 bytes

variable {bytes : List Nat}

theorem number_cons (byte : Nat) (rest : List Nat) :
    number (byte :: rest) = byte + 256 * number rest := Nat.ofDigits_cons

theorem number_lt (small : ∀ byte ∈ bytes, byte < 256) : number bytes < 256 ^ bytes.length :=
  Nat.ofDigits_lt_base_pow_length (by decide) small

theorem length_lowBytes (count value : Nat) : (lowBytes count value).length = count := by
  rw [lowBytes, length_map, length_range]

theorem lowBytes_succ (count value : Nat) :
    lowBytes (count + 1) value = value % 256 :: lowBytes count (value / 256) := by
  have low : ∀ value : Nat, value &&& 0xff = value % 256 :=
    fun value => Nat.and_two_pow_sub_one_eq_mod value 8
  have next : ∀ i : Nat, value >>> (8 * (i + 1)) = (value / 256) >>> (8 * i) := by
    intro i
    rw [Nat.shiftRight_eq_div_pow, Nat.shiftRight_eq_div_pow, Nat.div_div_eq_div_mul,
      Nat.mul_add, Nat.add_comm, Nat.pow_add]
  rw [lowBytes, range_succ_eq_map, map_cons, map_map, lowBytes, Nat.mul_zero, Nat.shiftRight_zero, low]
  simp [next]

theorem mem_lowBytes {count value byte : Nat} (member : byte ∈ lowBytes count value) :
    byte < 256 := by
  obtain ⟨i, -, rfl⟩ := mem_map.mp member
  exact Nat.lt_succ_of_le Nat.and_le_right

theorem number_lowBytes (count value : Nat) : number (lowBytes count value) =
    value % 256 ^ count := by
  induction count generalizing value with
  | zero => rw [pow_zero, Nat.mod_one]; rfl
  | succ count ih => rw [lowBytes_succ, number_cons, ih, Nat.pow_succ', Nat.mod_mul]

section

variable (small : ∀ byte ∈ bytes, byte < 256)

include small

theorem lowBytes_number :
    lowBytes bytes.length (number bytes) = bytes := by
  induction bytes with
  | nil => rfl
  | cons byte rest ih =>
    have first : byte < 256 := small byte (.head _)
    have low : number (byte :: rest) % 256 = byte := by
      rw [number_cons]
      omega
    have high : number (byte :: rest) / 256 = number rest := by
      rw [number_cons]
      omega
    rw [length_cons, lowBytes_succ, low, high,
      ih fun other member => small other (.tail _ member)]

theorem testBit_number (place : Nat) :
    (number bytes).testBit place = (bytes.getD (place / 8) 0).testBit (place % 8) := by
  induction bytes generalizing place with
  | nil => simp only [number, Nat.ofDigits_nil, Nat.zero_testBit, getD_nil]
  | cons byte rest ih =>
    have first : byte < 2 ^ 8 := small byte (.head _)
    rw [number_cons, Nat.add_comm, show (256 : Nat) = 2 ^ 8 from rfl,
      Nat.testBit_two_pow_mul_add _ first]
    split
    · rename_i low
      rw [Nat.div_eq_of_lt low, Nat.mod_eq_of_lt low, getD_cons_zero]
    · rename_i high
      have index : place / 8 = (place - 8) / 8 + 1 := by omega
      have offset : place % 8 = (place - 8) % 8 := by omega
      rw [ih (fun other member => small other (.tail _ member)), index, offset, getD_cons_succ]

theorem bitAt_eq (place : Nat) :
    BitReader.bitAt bytes place = ((number bytes).testBit place).toNat := by
  have offset : place &&& 7 = place % 8 := Nat.and_two_pow_sub_one_eq_mod place 3
  rw [BitReader.bitAt, testBit_number small, Nat.shiftRight_eq_div_pow, offset, Nat.toNat_testBit,
    Nat.shiftRight_eq_div_pow, Nat.and_one_is_mod]
  split
  · rfl
  · rename_i beyond
    rw [getD_eq_default _ _ (Nat.not_lt.mp beyond), Nat.zero_div]

theorem read_eq (bit count : Nat) :
    (BitReader.read ⟨bytes, bit⟩ count).1 = number bytes / 2 ^ bit % 2 ^ count := by
  simp only [BitReader.read]
  induction count with
  | zero => rw [pow_zero, Nat.mod_one]; rfl
  | succ count ih =>
    rw [range_succ, foldl_append, ih, foldl_cons, foldl_nil,
      Varint.or_shiftLeft (Nat.mod_lt _ (Nat.two_pow_pos count)), bitAt_eq small,
      Nat.toNat_testBit, Nat.pow_add, ← Nat.div_div_eq_div_mul, Nat.mod_pow_succ, Nat.mul_comm]

end

/-- The version is known and the passcode allowed. -/
structure PassesFieldChecks (bytes : List Nat) : Prop where
  version : number bytes % 2 ^ 3 = 0
  passcode : assertPasscode (number bytes / 2 ^ 57 % 2 ^ 27) = .ok ()

/-- The fields of a number, from the lowest bit on. -/
def fieldsPayload (bytes : List Nat) : MatterOnboardingPayload where
  discriminator := number bytes / 2 ^ 45 % 2 ^ 12
  shortDiscriminator := false
  passcode := number bytes / 2 ^ 57 % 2 ^ 27
  vendorId := some (number bytes / 2 ^ 3 % 2 ^ 16)
  productId := some (number bytes / 2 ^ 19 % 2 ^ 16)
  customFlow := some (number bytes / 2 ^ 35 % 2 ^ 2)
  discoveryCapabilities := some (number bytes / 2 ^ 37 % 2 ^ 8)
  source := .qr

theorem read_snd (reader : BitReader) (count : Nat) :
    (reader.read count).2 = ⟨reader.bytes, reader.bit + count⟩ := rfl

theorem parseFields_eq_ok_iff {payload : MatterOnboardingPayload}
    (small : ∀ byte ∈ bytes, byte < 256) :
    parseFields bytes = .ok payload ↔ PassesFieldChecks bytes ∧ fieldsPayload bytes = payload := by
  simp only [parseFields, read_snd, read_eq small, Nat.zero_add, Nat.reduceAdd, pow_zero,
    Nat.div_one]
  by_cases version : number bytes % 2 ^ 3 = 0
  swap
  · rw [if_pos version]
    exact ⟨fun ok => (nomatch ok), fun ⟨checks, _⟩ => (version checks.version).elim⟩
  rw [if_neg (not_not_intro version)]
  cases asserted : assertPasscode (number bytes / 2 ^ 57 % 2 ^ 27) with
  | error error =>
    refine ⟨fun ok => (nomatch ok), fun ⟨checks, _⟩ => ?_⟩
    rw [checks.passcode] at asserted
    cases asserted
  | ok _ =>
    have checks : PassesFieldChecks bytes := ⟨version, asserted⟩
    rw [and_iff_right checks]
    exact ⟨Except.ok.inj, congrArg Except.ok⟩

def base38Char (digit : Nat) : Char := base38.getD digit '0'

/-- The lowest characters of a number, the lowest one first. -/
def base38Chars : Nat → Nat → List Char
  | 0, _ => []
  | count + 1, value => base38Char (value % 38) :: base38Chars count (value / 38)

/-- The encoding of bytes: three are five characters, two are four, one is two. -/
def base38Encode : List Nat → List Char
  | a :: b :: c :: rest => base38Chars 5 (number [a, b, c]) ++ base38Encode rest
  | [a, b] => base38Chars 4 (number [a, b])
  | [a] => base38Chars 2 (number [a])
  | [] => []

def upper (text : List Char) : List Char := text.flatMap toUpperCase

variable {text : List Char} {value : Nat}

theorem upper_append (front back : List Char) : upper (front ++ back) = upper front ++ upper back :=
  flatMap_append

theorem length_base38Chars (count value : Nat) : (base38Chars count value).length = count := by
  induction count generalizing value with
  | zero => rfl
  | succ count ih => rw [base38Chars, length_cons, ih]

theorem indexOf_base38Char {digit : Nat} (small : digit < 38) :
    indexOf base38 (toUpperCase (base38Char digit)) = some digit := by
  revert digit
  decide +kernel

theorem base38Char_of_indexOf {capital : Char} {digit : Nat}
    (found : indexOf base38 [capital] = some digit) : digit < 38 ∧ capital = base38Char digit := by
  have member := mem_of_find?_eq_some found
  have small : digit < 38 := mem_range.mp member
  have starts : [capital].isPrefixOf (base38.drop digit) = true :=
    find?_some (p := fun i => [capital].isPrefixOf (base38.drop i)) found
  rw [drop_eq_getElem_cons small, isPrefixOf_cons_cons, Bool.and_eq_true, beq_iff_eq] at starts
  exact ⟨small, starts.1.trans (getD_eq_getElem _ _ small).symm⟩

theorem chunkValue_base38Chars (count value : Nat) :
    chunkValue (base38Chars count value) = .ok (value % 38 ^ count) := by
  induction count generalizing value with
  | zero => rw [pow_zero, Nat.mod_one]; rfl
  | succ count ih =>
    rw [base38Chars, chunkValue, ih]
    dsimp only
    rw [indexOf_base38Char (Nat.mod_lt _ (by decide)), Nat.pow_succ', Nat.mod_mul, Nat.mul_comm,
      Nat.add_comm]

/-- A chunk without ligatures is, in capital letters, the characters of its value. -/
theorem upper_eq_base38Chars (read : chunkValue text = .ok value)
    (single : ∀ char ∈ text, (toUpperCase char).length = 1) :
    upper text = base38Chars text.length value ∧ value < 38 ^ text.length := by
  induction text generalizing value with
  | nil =>
    cases read
    exact ⟨rfl, Nat.one_pos⟩
  | cons char rest ih =>
    rw [chunkValue] at read
    cases later : chunkValue rest with
    | error error =>
      rw [later] at read
      cases read
    | ok higher =>
      rw [later] at read
      dsimp only at read
      obtain ⟨capital, is⟩ := List.length_eq_one_iff.mp (single char (.head _))
      rw [is] at read
      cases found : indexOf base38 [capital] with
      | none =>
        rw [found] at read
        cases read
      | some digit =>
        rw [found] at read
        cases read
        obtain ⟨small, rfl⟩ := base38Char_of_indexOf found
        obtain ⟨others, below⟩ :=
          ih later fun other member => single other (.tail _ member)
        have low : (higher * 38 + digit) % 38 = digit := by omega
        have high : (higher * 38 + digit) / 38 = higher := by omega
        rw [upper, flatMap_cons, is, length_cons, base38Chars, low, high, ← others, pow_succ]
        exact ⟨rfl, by omega⟩

theorem base38Chars_inj {count other : Nat} (small : value < 38 ^ count)
    (otherSmall : other < 38 ^ count) :
    base38Chars count value = base38Chars count other ↔ value = other := by
  constructor
  · intro same
    have values := congrArg chunkValue same
    rw [chunkValue_base38Chars, chunkValue_base38Chars, Nat.mod_eq_of_lt small,
      Nat.mod_eq_of_lt otherSmall] at values
    exact Except.ok.inj values
  · exact congrArg _

theorem upper_eq_lowBytes_iff (length count : Nat) (has : text.length = length)
    (roomy : 256 ^ count ≤ 38 ^ length) (read : chunkValue text = .ok value)
    (single : ∀ char ∈ text, (toUpperCase char).length = 1) :
    upper text = base38Chars length (number (lowBytes count value)) ↔ value < 256 ^ count := by
  subst has
  obtain ⟨capitals, below⟩ := upper_eq_base38Chars read single
  have bytes : value % 256 ^ count < 256 ^ count := Nat.mod_lt _ (pow_pos (by decide) _)
  rw [capitals, number_lowBytes, base38Chars_inj below (bytes.trans_le roomy)]
  constructor
  · intro same
    rwa [← same] at bytes
  · exact fun fits => (Nat.mod_eq_of_lt fits).symm

theorem forall_chunkValue_iff {bound : Nat} (read : chunkValue text = .ok value) :
    (∀ other, chunkValue text = .ok other → other < bound) ↔ value < bound := by
  constructor
  · exact fun all => all value read
  · intro fits other also
    rwa [← Except.ok.inj (read.symm.trans also)]

theorem base38Decode_base38Encode (small : ∀ byte ∈ bytes, byte < 256) :
    base38Decode (base38Encode bytes) = .ok bytes := by
  have whole : ∀ {group : List Nat} (bound count : Nat), (∀ byte ∈ group, byte < 256) →
      group.length = bound → 256 ^ bound ≤ 38 ^ count →
        chunkValue (base38Chars count (number group)) = .ok (number group) := by
    rintro group bound count inRange rfl roomy
    rw [chunkValue_base38Chars, Nat.mod_eq_of_lt ((number_lt inRange).trans_le roomy)]
  fun_induction base38Encode bytes with
  | case1 a b c rest ih =>
    have group : ∀ byte ∈ [a, b, c], byte < 256 := fun byte member =>
      small byte (mem_append_left rest member)
    have read := whole 3 5 group rfl (by decide)
    simp only [base38Chars] at read
    simp only [base38Chars, cons_append, nil_append, base38Decode]
    rw [read, ih fun byte member => small byte (mem_append_right [a, b, c] member)]
    exact congrArg (fun bytes => Except.ok (bytes ++ rest)) (lowBytes_number group)
  | case2 a b =>
    have read := whole 2 4 small rfl (by decide)
    simp only [base38Chars] at read
    simp only [base38Chars, base38Decode]
    rw [read]
    exact congrArg Except.ok (lowBytes_number small)
  | case3 a =>
    have read := whole 1 2 small rfl (by decide)
    simp only [base38Chars] at read
    simp only [base38Chars, base38Decode]
    rw [read]
    exact congrArg Except.ok (lowBytes_number small)
  | case4 => rfl

/-- The value of each chunk is below what its bytes can hold. -/
def ChunksFit : List Char → Prop
  | [] => True
  | a :: b :: c :: d :: e :: rest =>
    (∀ value, chunkValue [a, b, c, d, e] = .ok value → value < 256 ^ 3) ∧ ChunksFit rest
  | chunk => ∀ value, chunkValue chunk = .ok value → value < 256 ^ (chunk.length / 2)

theorem base38Decode_induction {motive : List Char → List Nat → Prop} (none : motive [] [])
    (whole : ∀ {a b c d e rest value bytes}, chunkValue [a, b, c, d, e] = .ok value →
      motive rest bytes → motive (a :: b :: c :: d :: e :: rest) (lowBytes 3 value ++ bytes))
    (four : ∀ {a b c d value}, chunkValue [a, b, c, d] = .ok value →
      motive [a, b, c, d] (lowBytes 2 value))
    (two : ∀ {a b value}, chunkValue [a, b] = .ok value → motive [a, b] (lowBytes 1 value)) :
    ∀ {text bytes}, base38Decode text = .ok bytes → motive text bytes := by
  intro text
  induction text using base38Decode.induct with
  | case1 =>
    intro bytes decoded
    exact Except.ok.inj decoded ▸ none
  | case2 a b c d e rest error failed =>
    intro bytes decoded
    rw [base38Decode, failed] at decoded
    cases decoded
  | case3 a b c d e rest value read error failed =>
    intro bytes decoded
    rw [base38Decode, read, failed] at decoded
    cases decoded
  | case4 a b c d e rest value read more later ih =>
    intro bytes decoded
    rw [base38Decode, read, later] at decoded
    exact Except.ok.inj decoded ▸ whole read (ih later)
  | case5 chunk some short error failed =>
    intro bytes decoded
    rw [base38Decode.eq_3 chunk some short, failed] at decoded
    cases decoded
  | case6 chunk some short value read =>
    intro bytes decoded
    rw [base38Decode.eq_3 chunk some short, read] at decoded
    dsimp only [lastBytes] at decoded
    split at decoded
    · rename_i length
      obtain ⟨a, b, c, d, rfl⟩ := length_eq_four.mp length
      exact Except.ok.inj decoded ▸ four read
    · split at decoded
      · rename_i length
        obtain ⟨a, b, rfl⟩ := length_eq_two.mp length
        exact Except.ok.inj decoded ▸ two read
      · cases decoded

theorem base38Encode_whole (value : Nat) (bytes : List Nat) :
    base38Encode (lowBytes 3 value ++ bytes) =
      base38Chars 5 (number (lowBytes 3 value)) ++ base38Encode bytes := by
  simp only [lowBytes_succ, cons_append, base38Encode]
  rfl

theorem base38Encode_four (value : Nat) :
    base38Encode (lowBytes 2 value) = base38Chars 4 (number (lowBytes 2 value)) := by
  simp only [lowBytes_succ]
  rfl

theorem base38Encode_two (value : Nat) :
    base38Encode (lowBytes 1 value) = base38Chars 2 (number (lowBytes 1 value)) := by
  simp only [lowBytes_succ]
  rfl

section

variable (decoded : base38Decode text = .ok bytes)

include decoded

theorem base38Decode_small :
    ∀ byte ∈ bytes, byte < 256 := by
  refine base38Decode_induction (motive := fun _ bytes => ∀ byte ∈ bytes, byte < 256)
    ?_ ?_ ?_ ?_ decoded
  · exact fun byte member => (nomatch member)
  · intro a b c d e rest value bytes read ih byte member
    rcases mem_append.mp member with low | later
    · exact mem_lowBytes low
    · exact ih byte later
  · exact fun _ byte => mem_lowBytes
  · exact fun _ byte => mem_lowBytes

theorem base38Decode_length :
    bytes.length = text.length * 3 / 5 := by
  refine base38Decode_induction (motive := fun text bytes => bytes.length = text.length * 3 / 5)
    rfl ?_ ?_ ?_ decoded
  · intro a b c d e rest value bytes read ih
    simp only [length_append, length_lowBytes, length_cons]
    omega
  · intro a b c d value read
    simp [length_lowBytes]
  · intro a b value read
    simp [length_lowBytes]

theorem length_base38Encode :
    (base38Encode bytes).length = text.length := by
  refine base38Decode_induction
    (motive := fun text bytes => (base38Encode bytes).length = text.length) rfl ?_ ?_ ?_ decoded
  · intro a b c d e rest value bytes read ih
    rw [base38Encode_whole, length_append, length_base38Chars, ih]
    simp only [length_cons]
    omega
  · intro a b c d value read
    rw [base38Encode_four, length_base38Chars]
    rfl
  · intro a b value read
    rw [base38Encode_two, length_base38Chars]
    rfl

/-- Characters with one capital each are encoded bytes if and only if each chunk fits. -/
theorem upper_eq_base38Encode_iff (single : ∀ char ∈ text, (toUpperCase char).length = 1) :
    upper text = base38Encode bytes ↔ ChunksFit text := by
  revert single
  refine base38Decode_induction (motive := fun text bytes =>
    (∀ char ∈ text, (toUpperCase char).length = 1) →
      (upper text = base38Encode bytes ↔ ChunksFit text)) ?_ ?_ ?_ ?_ decoded
  · exact fun _ => iff_of_true rfl trivial
  · intro a b c d e rest value bytes read ih single
    have first : ∀ char ∈ [a, b, c, d, e], (toUpperCase char).length = 1 :=
      fun char member => single char (mem_append_left rest member)
    have later : ∀ char ∈ rest, (toUpperCase char).length = 1 :=
      fun char member => single char (mem_append_right [a, b, c, d, e] member)
    have chunk := upper_eq_lowBytes_iff 5 3 rfl (by decide) read first
    have split : upper (a :: b :: c :: d :: e :: rest) = upper [a, b, c, d, e] ++ upper rest :=
      upper_append [a, b, c, d, e] rest
    have lengths : (upper [a, b, c, d, e]).length =
        (base38Chars 5 (number (lowBytes 3 value))).length := by
      rw [(upper_eq_base38Chars read first).1, length_base38Chars, length_base38Chars]
      rfl
    rw [ChunksFit, base38Encode_whole, split, ← ih later, forall_chunkValue_iff read, ← chunk]
    constructor
    · exact fun same => List.append_inj same lengths
    · rintro ⟨chunk, others⟩
      rw [chunk, others]
  · intro a b c d value read single
    rw [base38Encode_four, upper_eq_lowBytes_iff 4 2 rfl (by decide) read single,
      ← forall_chunkValue_iff read]
    simp [ChunksFit]
  · intro a b value read single
    rw [base38Encode_two, upper_eq_lowBytes_iff 2 1 rfl (by decide) read single,
      ← forall_chunkValue_iff read]
    simp [ChunksFit]

end

theorem toUpperCase_ne_nil (char : Char) : toUpperCase char ≠ [] := by
  unfold toUpperCase
  split <;> exact cons_ne_nil _ _

/-- A text is as long in capital letters if and only if each character has one capital. -/
theorem length_upper_eq_iff (text : List Char) : text.length ≤ (upper text).length ∧
      ((upper text).length = text.length ↔ ∀ char ∈ text, (toUpperCase char).length = 1) := by
  induction text with
  | nil => exact ⟨Nat.le_refl _, iff_of_true rfl fun _ member => (nomatch member)⟩
  | cons char rest ih =>
    obtain ⟨longer, same⟩ := ih
    have one := length_pos_iff.mpr (toUpperCase_ne_nil char)
    rw [upper, flatMap_cons, length_append, length_cons, forall_mem_cons, ← same, upper]
    rw [upper] at longer
    constructor <;> omega

/-- Nothing of a text is lost: its characters have one capital each, and its chunks fit. -/
structure SoundBody (body : List Char) : Prop where
  single : ∀ char ∈ body, (toUpperCase char).length = 1
  chunks : ChunksFit body
  long : 19 ≤ body.length

theorem soundBody_iff (decoded : base38Decode text = .ok bytes) :
    SoundBody text ↔ upper text = base38Encode bytes ∧ 11 ≤ bytes.length := by
  have enough : 11 ≤ bytes.length ↔ 19 ≤ text.length := by
    rw [base38Decode_length decoded]
    omega
  rw [enough]
  constructor
  · rintro ⟨single, chunks, long⟩
    exact ⟨(upper_eq_base38Encode_iff decoded single).mpr chunks, long⟩
  · rintro ⟨same, long⟩
    have single := (length_upper_eq_iff text).2.mp (by rw [same, length_base38Encode decoded])
    exact ⟨single, (upper_eq_base38Encode_iff decoded single).mp same, long⟩

/-- Capital letters do not change what is decoded. -/
theorem base38Decode_upper (decoded : base38Decode text = .ok bytes)
    (single : ∀ char ∈ text, (toUpperCase char).length = 1) :
    base38Decode (upper text) = .ok bytes := by
  have again : ∀ {chunk : List Char} {value : Nat}, chunkValue chunk = .ok value →
      (∀ char ∈ chunk, (toUpperCase char).length = 1) →
        chunkValue (base38Chars chunk.length value) = .ok value := by
    intro chunk value read single
    rw [chunkValue_base38Chars, Nat.mod_eq_of_lt (upper_eq_base38Chars read single).2]
  revert single
  refine base38Decode_induction (motive := fun text bytes =>
    (∀ char ∈ text, (toUpperCase char).length = 1) →
      base38Decode (upper text) = .ok bytes) ?_ ?_ ?_ ?_ decoded
  · exact fun _ => rfl
  · intro a b c d e rest value bytes read ih single
    have first : ∀ char ∈ [a, b, c, d, e], (toUpperCase char).length = 1 :=
      fun char member => single char (mem_append_left rest member)
    have later : ∀ char ∈ rest, (toUpperCase char).length = 1 :=
      fun char member => single char (mem_append_right [a, b, c, d, e] member)
    have split : upper (a :: b :: c :: d :: e :: rest) = upper [a, b, c, d, e] ++ upper rest :=
      upper_append [a, b, c, d, e] rest
    have chunk := again read first
    rw [split, (upper_eq_base38Chars read first).1]
    simp only [length_cons, length_nil, Nat.reduceAdd, base38Chars] at chunk
    simp only [length_cons, length_nil, Nat.reduceAdd, base38Chars, cons_append,
      nil_append, base38Decode]
    rw [chunk, ih later]
  · intro a b c d value read single
    have chunk := again read single
    rw [(upper_eq_base38Chars read single).1]
    simp only [length_cons, length_nil, Nat.reduceAdd, base38Chars] at chunk
    simp only [length_cons, length_nil, Nat.reduceAdd, base38Chars, base38Decode]
    rw [chunk]
    rfl
  · intro a b value read single
    have chunk := again read single
    rw [(upper_eq_base38Chars read single).1]
    simp only [length_cons, length_nil, Nat.reduceAdd, base38Chars] at chunk
    simp only [length_cons, length_nil, Nat.reduceAdd, base38Chars, base38Decode]
    rw [chunk]
    rfl

/-- What a QR text is made from; the version is zero. -/
structure QrFields where
  vendorId : BitVec 16
  productId : BitVec 16
  customFlow : BitVec 2
  discoveryCapabilities : BitVec 8
  discriminator : BitVec 12
  passcode : BitVec 27
  allowed : assertPasscode passcode.toNat = .ok ()

namespace QrFields

variable (fields : QrFields)

/-- The fields after the three bits of the version; the last four bits of the bytes are zeros. -/
def packed : Nat :=
  fields.vendorId.toNat * 2 ^ 3 + fields.productId.toNat * 2 ^ 19 +
    fields.customFlow.toNat * 2 ^ 35 + fields.discoveryCapabilities.toNat * 2 ^ 37 +
    fields.discriminator.toNat * 2 ^ 45 + fields.passcode.toNat * 2 ^ 57

def packedBytes : List Nat := lowBytes 11 fields.packed

def encoding : List Char := base38Encode fields.packedBytes

def payload : MatterOnboardingPayload where
  discriminator := fields.discriminator.toNat
  shortDiscriminator := false
  passcode := fields.passcode.toNat
  vendorId := some fields.vendorId.toNat
  productId := some fields.productId.toNat
  customFlow := some fields.customFlow.toNat
  discoveryCapabilities := some fields.discoveryCapabilities.toNat
  source := .qr

theorem number_packedBytes : number fields.packedBytes = fields.packed := by
  have vendor := fields.vendorId.isLt
  have product := fields.productId.isLt
  have flow := fields.customFlow.isLt
  have capabilities := fields.discoveryCapabilities.isLt
  have discriminator := fields.discriminator.isLt
  have passcode := fields.passcode.isLt
  rw [packedBytes, number_lowBytes, packed]
  omega

theorem fieldsPayload_packedBytes : fieldsPayload fields.packedBytes = fields.payload := by
  have vendor := fields.vendorId.isLt
  have product := fields.productId.isLt
  have flow := fields.customFlow.isLt
  have capabilities := fields.discoveryCapabilities.isLt
  have discriminator := fields.discriminator.isLt
  have passcode := fields.passcode.isLt
  simp only [fieldsPayload, number_packedBytes, payload, packed]
  congr 1
  · omega
  · omega
  · congr 1
    omega
  · congr 1
    omega
  · congr 1
    omega
  · congr 1
    omega

theorem passesFieldChecks_packedBytes : PassesFieldChecks fields.packedBytes where
  version := by
    rw [number_packedBytes, packed]
    omega
  passcode := by
    have same := congrArg MatterOnboardingPayload.passcode fields.fieldsPayload_packedBytes
    rw [show number fields.packedBytes / 2 ^ 57 % 2 ^ 27 = fields.passcode.toNat from same]
    exact fields.allowed

theorem base38Decode_encoding : base38Decode fields.encoding = .ok fields.packedBytes :=
  base38Decode_base38Encode fun _ => mem_lowBytes

end QrFields

def qrInput (body : List Char) : String := String.ofList (['M', 'T', ':'] ++ body)

theorem parseQrPayload_eq_ok_iff {body : List Char} {payload : MatterOnboardingPayload} :
    parseQrPayload (qrInput body) = .ok payload ↔
      ∃ bytes, base38Decode body = .ok bytes ∧ PassesFieldChecks bytes ∧
        fieldsPayload bytes = payload := by
  have rest : (qrInput body).toList.drop 3 = body := by
    rw [qrInput, String.toList_ofList]
    rfl
  rw [parseQrPayload, rest]
  cases decoded : base38Decode body with
  | error error => exact ⟨fun ok => (nomatch ok), fun ⟨_, ok, _⟩ => (nomatch ok)⟩
  | ok bytes =>
    dsimp only
    rw [parseFields_eq_ok_iff (base38Decode_small decoded)]
    constructor
    · exact fun ok => ⟨bytes, rfl, ok⟩
    · rintro ⟨other, same, ok⟩
      rwa [Except.ok.inj same]

/-- The characters of a text have another one's characters for their capitals. -/
def SameUpToCase (body encoding : List Char) : Prop :=
  body.map toUpperCase = encoding.map fun char => [char]

/--
A text that encodes fields is decoded to them, and one that is accepted is, up to
letter case, the encoding of enough bytes, whose fields it is decoded to.
-/
structure QrDecodesExactly (body : List Char) : Prop where
  written : ∀ fields : QrFields, body = fields.encoding →
    parseQrPayload (qrInput body) = .ok fields.payload
  read : ∀ payload, parseQrPayload (qrInput body) = .ok payload →
    ∃ bytes, (∀ byte ∈ bytes, byte < 256) ∧ 11 ≤ bytes.length ∧
      SameUpToCase body (base38Encode bytes) ∧ fieldsPayload bytes = payload

/-- If the fields of a text pass their checks, nothing of it is lost. -/
def BodyFits (body : List Char) : Prop :=
  ∀ bytes, base38Decode body = .ok bytes → PassesFieldChecks bytes → SoundBody body

theorem sameUpToCase_iff {body encoding : List Char} : SameUpToCase body encoding ↔
      upper body = encoding ∧ ∀ char ∈ body, (toUpperCase char).length = 1 := by
  have singles : (encoding.map fun char => [char]).flatten = encoding := by
    rw [← flatMap_def, flatMap_singleton']
  constructor
  · intro same
    refine ⟨?_, fun char member => ?_⟩
    · rw [upper, flatMap_def, same, singles]
    · have mapped : toUpperCase char ∈ encoding.map fun char => [char] :=
        same ▸ mem_map_of_mem member
      obtain ⟨capital, -, is⟩ := mem_map.mp mapped
      rw [← is, length_singleton]
  · rintro ⟨rfl, single⟩
    clear singles
    induction body with
    | nil => rfl
    | cons char rest ih =>
      obtain ⟨capital, is⟩ := List.length_eq_one_iff.mp (single char (.head _))
      have later := ih fun other member => single other (.tail _ member)
      have split : upper (char :: rest) = capital :: upper rest := by
        rw [upper, flatMap_cons, is, singleton_append, upper]
      rw [SameUpToCase] at later
      rw [SameUpToCase, split, map_cons, map_cons, later, is]

theorem qrPayloads_exact_iff (body : List Char) : QrDecodesExactly body ↔ BodyFits body := by
  constructor
  · intro exact bytes decoded checks
    obtain ⟨others, small, long, same, -⟩ := exact.read _
      (parseQrPayload_eq_ok_iff.mpr ⟨bytes, decoded, checks, rfl⟩)
    obtain ⟨capitals, single⟩ := sameUpToCase_iff.mp same
    have again := base38Decode_upper decoded single
    rw [capitals, base38Decode_base38Encode small] at again
    cases again
    exact (soundBody_iff decoded).mpr ⟨capitals, long⟩
  · intro fits
    refine ⟨?_, fun payload ok => ?_⟩
    · rintro fields rfl
      exact parseQrPayload_eq_ok_iff.mpr ⟨_, fields.base38Decode_encoding,
        fields.passesFieldChecks_packedBytes, fields.fieldsPayload_packedBytes⟩
    · obtain ⟨bytes, decoded, checks, rfl⟩ := parseQrPayload_eq_ok_iff.mp ok
      have sound := fits bytes decoded checks
      obtain ⟨capitals, long⟩ := (soundBody_iff decoded).mp sound
      exact ⟨bytes, base38Decode_small decoded, long,
        sameUpToCase_iff.mpr ⟨capitals, sound.single⟩, rfl⟩

/-- A text whose second chunk stands for no three bytes. -/
def overflowing : List Char :=
  ['Y', '.', 'K', '9', '0', 'U', 'N', '2', '2', '8', 'K', 'A', '0', '6', '4', '8', 'G', '0', '0']

/-- Its low bytes are taken, and those are the ones of another text. -/
theorem overflowing_is_masked :
    (parseQrPayload (qrInput overflowing)).map (·.passcode) = .ok 20202021 ∧
      parseQrPayload (qrInput overflowing) = parseQrPayload "MT:Y.K9042C00KA0648G00" ∧
      ¬QrDecodesExactly overflowing := by
  have accepted : (parseQrPayload (qrInput overflowing)).map (·.passcode) = .ok 20202021 := by
    decide +kernel
  refine ⟨accepted, by decide +kernel, fun exact => ?_⟩
  cases ok : parseQrPayload (qrInput overflowing) with
  | error error =>
    rw [ok] at accepted
    cases accepted
  | ok payload =>
    obtain ⟨bytes, small, -, same, -⟩ := exact.read payload ok
    have encoded := (sameUpToCase_iff.mp same).1
    have decoded : base38Decode (upper overflowing) =
        .ok [136, 255, 7, 0, 68, 0, 224, 75, 132, 104, 2] := by
      decide +kernel
    have read := decoded
    rw [encoded, base38Decode_base38Encode small] at read
    rw [Except.ok.inj read] at encoded
    exact absurd encoded (by decide +kernel)

end SupremeOs.Protocols.MatterPairing
