import Mathlib.Data.List.Induction
import Mathlib.Data.Nat.Digits.Defs
import Mathlib.Data.Nat.Bitwise
import Mathlib.Tactic.Ring
import SupremeOs.DomainModel.JsValue

/-!
# Secrets of one-time passwords

Bytes are written in letters of five bits each.  Both directions shift digits
into a word of 32 bits and read digits of the other width from the bits that
are still unread; what was read stays above them and is shifted out in the end.
-/

namespace SupremeOs.Identity.Totp

open DomainModel List Nat

/-- `value` with its unread low bits, and what has been read. -/
structure Accumulator where
  bits : Nat
  value : BitVec 32
  out : List Nat

namespace Accumulator

/-- `value = (value << width) | digit` -/
def push (width digit : Nat) (acc : Accumulator) : Accumulator :=
  { acc with
    bits := acc.bits + width
    value := (acc.value <<< width) ||| BitVec.ofNat 32 digit }

/-- `(value >>> (bits - width)) & (2 ** width - 1)` -/
def pull (width : Nat) (acc : Accumulator) : Accumulator :=
  { acc with
    bits := acc.bits - width
    out := acc.out ++
      [(acc.value >>> (acc.bits - width) &&& BitVec.ofNat 32 (2 ^ width - 1)).toNat] }

/-- `while (bits >= 5)`; the argument bounds the number of rounds. -/
def pullAll : Nat → Accumulator → Accumulator
  | 0, acc => acc
  | rounds + 1, acc => if 5 ≤ acc.bits then pullAll rounds (acc.pull 5) else acc

end Accumulator

open Accumulator

def alphabet : List Char := "ABCDEFGHIJKLMNOPQRSTUVWXYZ234567".toList

def encodeByte (acc : Accumulator) (byte : UInt8) : Accumulator :=
  let pushed := acc.push 8 byte.toNat
  pullAll pushed.bits pushed

/-- The places of the letters in the alphabet. -/
def quintets (bytes : List UInt8) : List Nat :=
  let acc := bytes.foldl encodeByte ⟨0, 0, []⟩
  if 0 < acc.bits then acc.out ++ [(acc.value <<< (5 - acc.bits) &&& 31).toNat] else acc.out

def base32Encode (bytes : List UInt8) : List Char :=
  (quintets bytes).map fun quintet => alphabet.getD quintet 'A'

/-- The letters of a text; `toUpperCase` is that of ASCII letters. -/
def clean (text : List Char) : List Char :=
  ((text.map Char.toUpper).reverse.dropWhile (· = '=')).reverse.filter fun char =>
    !isStrippedSpace char

def decodeLetter (acc : Accumulator) (char : Char) : Accumulator :=
  if alphabet.idxOf char < alphabet.length then
    let pushed := acc.push 5 (alphabet.idxOf char)
    if 8 ≤ pushed.bits then pushed.pull 8 else pushed
  else acc

def base32Decode (text : List Char) : List UInt8 :=
  ((clean text).foldl decodeLetter ⟨0, 0, []⟩).out.map UInt8.ofNat

/-- The number with these digits, the highest first. -/
def number (width : Nat) (digits : List Nat) : Nat := Nat.ofDigits (2 ^ width) digits.reverse

theorem number_concat (width : Nat) (digits : List Nat) (digit : Nat) :
    number width (digits ++ [digit]) = number width digits * 2 ^ width + digit := by
  rw [number, reverse_append, reverse_singleton, singleton_append, ofDigits_cons, number]
  ring

namespace Accumulator

variable {acc : Accumulator} {width total count digit : Nat}

/-- The accumulator has read a number of so many bits, up to its unread bits. -/
structure Holds (width total count : Nat) (acc : Accumulator) : Prop where
  small : ∀ digit ∈ acc.out, digit < 2 ^ width
  count : width * acc.out.length + acc.bits = count
  number : number width acc.out * 2 ^ acc.bits + acc.value.toNat % 2 ^ acc.bits = total

theorem toNat_push (room : acc.bits + width ≤ 32) (small : digit < 2 ^ width) :
    (acc.push width digit).value.toNat % 2 ^ (acc.bits + width) =
      acc.value.toNat % 2 ^ acc.bits * 2 ^ width + digit := by
  have word : digit < 2 ^ 32 := Nat.lt_of_lt_of_le small (Nat.pow_le_pow_right (by decide) (by omega))
  rw [push, BitVec.toNat_or, BitVec.toNat_shiftLeft, BitVec.toNat_ofNat, mod_eq_of_lt word,
    ← shiftLeft_eq, shiftLeft_add_eq_or_of_lt small]
  apply eq_of_testBit_eq
  intro i
  simp only [testBit_mod_two_pow, testBit_or]
  by_cases low : i < acc.bits + width
  · have inWord : i < 32 := by omega
    by_cases shifted : width ≤ i
    · have inBits : i - width < acc.bits := by omega
      simp [low, inWord, inBits]
    · simp [low, shifted]
  · have above : digit.testBit i = false :=
      testBit_lt_two_pow (Nat.lt_of_lt_of_le small (Nat.pow_le_pow_right (by decide) (by omega)))
    have beyond : ¬i - width < acc.bits := by omega
    simp [low, above, beyond]

theorem Holds.push (holds : acc.Holds width total count) (step : Nat)
    (room : acc.bits + step ≤ 32) (small : digit < 2 ^ step) :
    (acc.push step digit).Holds width (total * 2 ^ step + digit) (count + step) := by
  refine ⟨holds.small, ?_, ?_⟩
  · rw [← holds.count]
    exact (Nat.add_assoc _ _ _).symm
  · have pushed := toNat_push room small
    rw [← holds.number]
    simp only [Accumulator.push] at pushed ⊢
    rw [pushed, pow_add]
    ring

theorem Holds.pull (holds : acc.Holds width total count) (full : width ≤ acc.bits)
    (narrow : width ≤ 8) : (acc.pull width).Holds width total count := by
  have below : 2 ^ width ≤ 2 ^ 8 := Nat.pow_le_pow_right (by decide) narrow
  have digit : (acc.value >>> (acc.bits - width) &&& BitVec.ofNat 32 (2 ^ width - 1)).toNat =
      acc.value.toNat / 2 ^ (acc.bits - width) % 2 ^ width := by
    rw [BitVec.toNat_and, BitVec.toNat_ushiftRight, BitVec.toNat_ofNat,
      mod_eq_of_lt (by omega), and_two_pow_sub_one_eq_mod, shiftRight_eq_div_pow]
  have split := Nat.sub_add_cancel full
  refine ⟨?_, ?_, ?_⟩
  · intro other member
    rcases mem_append.mp member with old | new
    · exact holds.small other old
    · rw [mem_singleton.mp new, digit]
      exact mod_lt _ (Nat.two_pow_pos _)
  · have counted := holds.count
    simp only [Accumulator.pull, length_append, length_singleton, Nat.mul_add]
    omega
  · rw [← holds.number]
    simp only [Accumulator.pull, number_concat, digit]
    generalize acc.bits - width = low at split ⊢
    rw [← split, pow_add, mod_mul]
    ring

theorem Holds.pullAll {rounds : Nat} (holds : acc.Holds 5 total count) (few : acc.bits ≤ rounds) :
    (pullAll rounds acc).Holds 5 total count ∧ (Accumulator.pullAll rounds acc).bits < 5 := by
  induction rounds generalizing acc with
  | zero => exact ⟨holds, by rw [Accumulator.pullAll]; omega⟩
  | succ rounds ih =>
    rw [Accumulator.pullAll]
    split
    · rename_i full
      exact ih (holds.pull full (by decide)) (by simp only [Accumulator.pull]; omega)
    · exact ⟨holds, by omega⟩

end Accumulator

theorem holds_start (width : Nat) : Holds width 0 0 ⟨0, 0, []⟩ :=
  ⟨nofun, rfl, by simp [number]⟩

def bytesNumber (bytes : List UInt8) : Nat := number 8 (bytes.map UInt8.toNat)

theorem encode_holds (bytes : List UInt8) :
    (bytes.foldl encodeByte ⟨0, 0, []⟩).Holds 5 (bytesNumber bytes) (8 * bytes.length) ∧
      (bytes.foldl encodeByte ⟨0, 0, []⟩).bits < 5 := by
  induction bytes using List.reverseRecOn with
  | nil => exact ⟨holds_start 5, by decide⟩
  | append_singleton bytes byte ih =>
    have pushed := ih.1.push 8 (by omega) byte.toNat_lt
    rw [foldl_append, bytesNumber, map_append, map_singleton, number_concat,
      length_append, length_singleton, Nat.mul_add]
    exact pushed.pullAll (Nat.le_refl _)

/-- The letters are those of the bytes, with zeros below the last one. -/
theorem quintets_spec (bytes : List UInt8) : ∃ zeros < 5,
    (∀ quintet ∈ quintets bytes, quintet < 32) ∧
      5 * (quintets bytes).length = 8 * bytes.length + zeros ∧
      number 5 (quintets bytes) = bytesNumber bytes * 2 ^ zeros := by
  rcases encode_holds bytes with ⟨holds, few⟩
  rw [quintets]
  generalize bytes.foldl encodeByte ⟨0, 0, []⟩ = acc at holds few ⊢
  split
  · have padded := (holds.push (5 - acc.bits) (by omega) (Nat.two_pow_pos _)).pull (by simp only [push]; omega) (by decide)
    have last : acc.bits + (5 - acc.bits) - 5 = 0 := by omega
    have counted := padded.count
    have same := padded.number
    have small := padded.small
    simp only [push, pull, last, BitVec.or_zero,
      pow_zero, mod_one, Nat.mul_one] at counted same small
    exact ⟨5 - acc.bits, by omega, small, counted, same⟩
  · have none : acc.bits = 0 := by omega
    have counted := holds.count
    have same := holds.number
    rw [none, pow_zero, mod_one, Nat.mul_one, Nat.add_zero] at same
    exact ⟨0, by decide, holds.small, by omega, by rw [same, pow_zero, Nat.mul_one]⟩

variable {acc : Accumulator}

theorem idxOf_letter {quintet : Nat} (small : quintet < 32) :
    alphabet.idxOf (alphabet.getD quintet 'A') = quintet := by
  revert quintet
  decide

theorem decode_holds {digits : List Nat} (small : ∀ quintet ∈ digits, quintet < 32) :
    let acc := (digits.map fun quintet => alphabet.getD quintet 'A').foldl decodeLetter ⟨0, 0, []⟩
    acc.Holds 8 (number 5 digits) (5 * digits.length) ∧ acc.bits < 8 := by
  induction digits using List.reverseRecOn with
  | nil => exact ⟨holds_start 8, by decide⟩
  | append_singleton digits quintet ih =>
    have last := small quintet (by simp)
    rcases ih fun other member => small other (mem_append_left _ member) with ⟨holds, few⟩
    have pushed := holds.push 5 (by omega) last
    rw [map_append, foldl_append, number_concat, length_append, length_singleton, Nat.mul_add]
    simp only [map_cons, map_nil, foldl_cons, foldl_nil, decodeLetter, idxOf_letter last]
    rw [if_pos (by exact last)]
    split
    · rename_i full
      exact ⟨pushed.pull full (by decide), by simp only [push, pull]; omega⟩
    · exact ⟨pushed, by omega⟩

theorem decode_quintets (bytes : List UInt8) :
    ((base32Encode bytes).foldl decodeLetter ⟨0, 0, []⟩).out.map UInt8.ofNat = bytes := by
  rcases quintets_spec bytes with ⟨zeros, few, small, length, same⟩
  rcases decode_holds small with ⟨holds, fewer⟩
  rw [base32Encode]
  generalize List.foldl decodeLetter _ _ = acc at holds fewer ⊢
  have counted := holds.count
  have bits : acc.bits = zeros := by omega
  have total := holds.number
  rw [bits, same] at total
  have whole : number 8 acc.out = bytesNumber bytes := by
    have below := mod_lt acc.value.toNat (Nat.two_pow_pos zeros)
    have := congrArg (· / 2 ^ zeros) total
    simpa [mul_add_div, Nat.mul_comm _ (2 ^ zeros)] using this
  have read : acc.out = bytes.map UInt8.toNat := by
    refine reverse_injective (ofDigits_inj_of_len_eq (by decide) ?_ ?_ ?_ whole)
    · rw [length_reverse, length_reverse, length_map]
      omega
    · exact fun digit member => holds.small digit (mem_reverse.mp member)
    · intro digit member
      rcases mem_map.mp (mem_reverse.mp member) with ⟨byte, -, rfl⟩
      exact byte.toNat_lt
  rw [read, map_map]
  exact (map_congr_left fun byte _ => UInt8.ofNat_toNat).trans (map_id _)

/-- The text is the secret, but for white space, padding and the case of letters. -/
def Spells (text secret : List Char) : Prop :=
  (text.filter fun char => !isStrippedSpace char && char != '=').map Char.toUpper = secret

instance (text secret : List Char) : Decidable (Spells text secret) :=
  inferInstanceAs (Decidable (_ = _))

theorem visible_of_mem : ∀ char ∈ alphabet, isStrippedSpace char = false ∧ char ≠ '=' := by
  have visible : alphabet.all (fun char => !isStrippedSpace char && char != '=') = true := by
    decide +kernel
  simpa using visible

theorem notMem_alphabet {char : Char} (skipped : isStrippedSpace char = true ∨ char = '=') :
    char.toUpper ∉ alphabet := by
  intro member
  have same : char.toUpper = char := by
    delta Char.toUpper
    split
    · rename_i lower
      have low : 97 ≤ char.toNat := UInt32.le_iff_toNat_le.mp lower.1
      have high : char.toNat ≤ 122 := UInt32.le_iff_toNat_le.mp lower.2
      rcases skipped with space | rfl
      · simp [isStrippedSpace] at space
        omega
      · exact absurd low (by decide)
    · rfl
  rcases visible_of_mem char (same ▸ member) with ⟨visible, other⟩
  rcases skipped with space | padding
  · rw [space] at visible
    cases visible
  · exact other padding

/-- What is not of the alphabet is skipped. -/
theorem foldl_decodeLetter (text : List Char) (acc : Accumulator) :
    text.foldl decodeLetter acc = (text.filter (alphabet.contains ·)).foldl decodeLetter acc := by
  induction text generalizing acc with
  | nil => rfl
  | cons char rest ih =>
    by_cases letter : char ∈ alphabet
    · simpa [letter] using ih _
    · simpa [letter, decodeLetter] using ih acc

theorem filter_clean (text : List Char) :
    (clean text).filter (alphabet.contains ·) =
      (text.map Char.toUpper).filter (alphabet.contains ·) := by
  have unpadded : ∀ text : List Char, (text.dropWhile (· = '=')).filter (alphabet.contains ·) =
      text.filter (alphabet.contains ·) := by
    intro text
    induction text with
    | nil => rfl
    | cons char rest ih =>
      by_cases padding : char = '='
      · subst padding
        rw [dropWhile_cons_of_pos (by rfl), ih, filter_cons_of_neg (by decide)]
      · rw [dropWhile_cons_of_neg (by simpa using padding)]
  have visible : ∀ char, (alphabet.contains char && !isStrippedSpace char) =
      alphabet.contains char := by
    intro char
    by_cases letter : char ∈ alphabet
    · rw [(visible_of_mem char letter).1, Bool.not_false, Bool.and_true]
    · rw [contains_eq_mem, decide_eq_false letter, Bool.false_and]
  rw [clean, filter_filter, filter_congr fun char _ => visible char, filter_reverse,
    unpadded, filter_reverse, reverse_reverse]

/-- However a secret is spelled, it is read as the bytes it was written from. -/
theorem base32Decode_spelled (bytes : List UInt8) {text : List Char}
    (spells : Spells text (base32Encode bytes)) : base32Decode text = bytes := by
  have same : (text.map Char.toUpper).filter (alphabet.contains ·) =
      (base32Encode bytes).filter (alphabet.contains ·) := by
    rw [← spells, filter_map, filter_map, filter_filter]
    refine congrArg _ (filter_congr fun char _ => ?_)
    by_cases skipped : isStrippedSpace char = true ∨ char = '='
    · simp [notMem_alphabet skipped]
    · rw [not_or, Bool.not_eq_true] at skipped
      simp [skipped.1, skipped.2]
  rw [base32Decode, foldl_decodeLetter, filter_clean, same, ← foldl_decodeLetter]
  exact decode_quintets bytes

theorem base32Decode_spelled_hi : base32Decode "jb Uq=== \n".toList = [72, 105] :=
  base32Decode_spelled [72, 105] (by decide +kernel)

end SupremeOs.Identity.Totp
