import Mathlib.Data.List.Basic

/-!
# Strings of code units

A string of a scripting language is a sequence of 16-bit code units.  It is
well formed if its surrogates come in pairs.  Converting it to UTF-8 replaces
every unpaired surrogate, and converting bytes to a string replaces whatever is
not UTF-8, by the replacement character.  The two conversions are therefore
inverse to each other exactly on the well-formed strings.
-/

namespace SupremeOs.Support.Utf16

open List

/-- A code unit that can be the first half of a pair. -/
def isHigh (unit : UInt16) : Bool := 0xD800 ≤ unit.toNat && unit.toNat < 0xDC00

/-- A code unit that can be the second half of a pair. -/
def isLow (unit : UInt16) : Bool := 0xDC00 ≤ unit.toNat && unit.toNat < 0xE000

/-- The character of a code unit that stands alone, unless it is half of a pair. -/
def single (unit : UInt16) : Option Char :=
  if isHigh unit || isLow unit then none else some (Char.ofNat unit.toNat)

def pair (high low : UInt16) : Char :=
  Char.ofNat (0x10000 + (high.toNat - 0xD800) * 0x400 + (low.toNat - 0xDC00))

/-- The characters of a string; an unpaired surrogate is none. -/
def codePoints : List UInt16 → List (Option Char)
  | [] => []
  | [unit] => [single unit]
  | high :: low :: rest =>
    if isHigh high && isLow low then some (pair high low) :: codePoints rest
    else single high :: codePoints (low :: rest)

def units (character : Char) : List UInt16 :=
  if character.toNat < 0x10000 then [UInt16.ofNat character.toNat]
  else
    [UInt16.ofNat (0xD800 + (character.toNat - 0x10000) / 0x400),
      UInt16.ofNat (0xDC00 + (character.toNat - 0x10000) % 0x400)]

/-- All surrogates come in pairs. -/
def WellFormed (text : List UInt16) : Prop :=
  ∀ point ∈ codePoints text, point.isSome = true

instance (text : List UInt16) : Decidable (WellFormed text) :=
  inferInstanceAs (Decidable (∀ point ∈ codePoints text, _))

def replacement : Char := '\uFFFD'

def utf8Bytes (text : List UInt16) : List UInt8 :=
  (codePoints text).flatMap fun point => String.utf8EncodeChar (point.getD replacement)

/-- The second byte that may follow a lead byte of three or four bytes. -/
def secondAllowed (lead second : Nat) : Bool :=
  if lead = 0xE0 then 0xA0 ≤ second && second ≤ 0xBF
  else if lead = 0xED then 0x80 ≤ second && second ≤ 0x9F
  else if lead = 0xF0 then 0x90 ≤ second && second ≤ 0xBF
  else if lead = 0xF4 then 0x80 ≤ second && second ≤ 0x8F
  else 0xE1 ≤ lead && lead ≤ 0xF3 && 0x80 ≤ second && second ≤ 0xBF

/-- How many bytes one replacement character stands for where no character begins. -/
def replacedLength : List UInt8 → Nat
  | lead :: second :: third :: _ =>
    if secondAllowed lead.toNat second.toNat then
      if 0xF0 ≤ lead.toNat && 0x80 ≤ third.toNat && third.toNat ≤ 0xBF then 3 else 2
    else 1
  | [lead, second] => if secondAllowed lead.toNat second.toNat then 2 else 1
  | _ => 1

def readChars : Nat → List UInt8 → List Char
  | 0, _ => []
  | _ + 1, [] => []
  | fuel + 1, byte :: rest =>
    match (byte :: rest).toByteArray.utf8DecodeChar? 0 with
    | some character =>
      character :: readChars fuel ((byte :: rest).drop character.utf8Size)
    | none => replacement :: readChars fuel ((byte :: rest).drop (replacedLength (byte :: rest)))

/-- The string of some bytes, with everything replaced that is not UTF-8. -/
def text (bytes : List UInt8) : List UInt16 :=
  (readChars bytes.length bytes).flatMap units

theorem toNat_ofNat {value : Nat} (valid : value.isValidChar) :
    (Char.ofNat value).toNat = value := by
  rw [Char.ofNat, dif_pos valid]
  rfl

theorem units_cases (character : Char) : (∃ unit, units character = [unit] ∧ isHigh unit = false ∧
        single unit = some character) ∨
      ∃ high low, units character = [high, low] ∧ isHigh high = true ∧ isLow low = true ∧
        pair high low = character := by
  have valid : character.toNat.isValidChar := character.valid
  unfold units
  split
  · rename_i small
    refine .inl ⟨_, rfl, ?_⟩
    have value : (UInt16.ofNat character.toNat).toNat = character.toNat :=
      UInt16.toNat_ofNat_of_lt' small
    have plain : isHigh (UInt16.ofNat character.toNat) = false ∧
        isLow (UInt16.ofNat character.toNat) = false := by
      simp only [isHigh, isLow, value, Bool.and_eq_false_iff, decide_eq_false_iff_not]
      rcases valid with low | ⟨high, _⟩ <;> omega
    refine ⟨plain.1, ?_⟩
    rw [single, plain.1, plain.2, value, Char.ofNat_toNat]
    rfl
  · rename_i large
    right
    have bound : character.toNat < 0x110000 := by
      rcases valid with low | ⟨_, high⟩ <;> omega
    have high : (UInt16.ofNat (0xD800 + (character.toNat - 0x10000) / 0x400)).toNat =
        0xD800 + (character.toNat - 0x10000) / 0x400 :=
      UInt16.toNat_ofNat_of_lt' (show _ < 2 ^ 16 by omega)
    have low : (UInt16.ofNat (0xDC00 + (character.toNat - 0x10000) % 0x400)).toNat =
        0xDC00 + (character.toNat - 0x10000) % 0x400 :=
      UInt16.toNat_ofNat_of_lt' (show _ < 2 ^ 16 by omega)
    refine ⟨_, _, rfl, ?_, ?_, ?_⟩
    · simp only [isHigh, high, Bool.and_eq_true, decide_eq_true_eq]
      omega
    · simp only [isLow, low, Bool.and_eq_true, decide_eq_true_eq]
      omega
    · have value : 0x10000 + (0xD800 + (character.toNat - 0x10000) / 0x400 - 0xD800) * 0x400 +
          (0xDC00 + (character.toNat - 0x10000) % 0x400 - 0xDC00) = character.toNat := by
        omega
      rw [pair, high, low, value, Char.ofNat_toNat]

theorem codePoints_units_append (character : Char) (rest : List UInt16) :
    codePoints (units character ++ rest) = some character :: codePoints rest := by
  rcases units_cases character with
    ⟨unit, equal, plain, alone⟩ | ⟨high, low, equal, first, second, both⟩
  · rw [equal]
    cases rest with
    | nil => simp [codePoints, alone]
    | cons next rest => simp [codePoints, plain, alone]
  · rw [equal]
    simp [codePoints, first, second, both]

theorem codePoints_flatMap_units (characters : List Char) :
    codePoints (characters.flatMap units) = characters.map some := by
  induction characters with
  | nil => rfl
  | cons character rest ih =>
    rw [flatMap_cons, codePoints_units_append, ih, map_cons]

theorem units_single {unit : UInt16} {character : Char} (alone : single unit = some character) :
    units character = [unit] := by
  unfold single at alone
  split at alone
  · cases alone
  · rename_i plain
    simp only [isHigh, isLow, Bool.or_eq_true, Bool.and_eq_true, decide_eq_true_eq] at plain
    have bound := unit.toNat_lt
    have value : character.toNat = unit.toNat := by
      rw [← Option.some.inj alone]
      apply toNat_ofNat
      unfold Nat.isValidChar
      omega
    rw [units, value, if_pos bound, UInt16.ofNat_toNat]

theorem units_pair {high low : UInt16} (first : isHigh high = true) (second : isLow low = true) :
    units (pair high low) = [high, low] := by
  simp only [isHigh, isLow, Bool.and_eq_true, decide_eq_true_eq] at first second
  have value : (pair high low).toNat =
      0x10000 + (high.toNat - 0xD800) * 0x400 + (low.toNat - 0xDC00) := by
    apply toNat_ofNat
    unfold Nat.isValidChar
    omega
  have highValue : 0xD800 + ((pair high low).toNat - 0x10000) / 0x400 = high.toNat := by omega
  have lowValue : 0xDC00 + ((pair high low).toNat - 0x10000) % 0x400 = low.toNat := by omega
  rw [units, if_neg (by omega), highValue, lowValue, UInt16.ofNat_toNat, UInt16.ofNat_toNat]

theorem exists_characters {string : List UInt16} (wellFormed : WellFormed string) :
    ∃ characters : List Char, codePoints string = characters.map some ∧
      characters.flatMap units = string := by
  induction string using codePoints.induct with
  | case1 => exact ⟨[], rfl, rfl⟩
  | case2 unit =>
    rcases Option.isSome_iff_exists.mp (wellFormed (single unit) (by simp [codePoints])) with
      ⟨character, alone⟩
    exact ⟨[character], by simp [codePoints, alone], by simp [units_single alone]⟩
  | case3 high low rest halves ih =>
    rw [Bool.and_eq_true] at halves
    have points : codePoints (high :: low :: rest) = some (pair high low) :: codePoints rest := by
      simp [codePoints, halves]
    rcases ih (fun point member => wellFormed point (by simp [points, member])) with
      ⟨characters, equal, split⟩
    exact ⟨pair high low :: characters, by simp [points, equal],
      by simp [units_pair halves.1 halves.2, split]⟩
  | case4 high low rest apart ih =>
    have points : codePoints (high :: low :: rest) = single high :: codePoints (low :: rest) := by
      rw [codePoints, if_neg apart]
    rcases Option.isSome_iff_exists.mp (wellFormed (single high) (by simp [points])) with
      ⟨character, alone⟩
    rcases ih (fun point member => wellFormed point (by simp [points, member])) with
      ⟨characters, equal, split⟩
    exact ⟨character :: characters, by simp [points, equal, alone],
      by simp [units_single alone, split]⟩

/-- Reading what has been written, with enough fuel. -/
theorem readChars_utf8 (characters : List Char) {fuel : Nat}
    (enough : (characters.flatMap String.utf8EncodeChar).length ≤ fuel) :
    readChars fuel (characters.flatMap String.utf8EncodeChar) = characters := by
  induction characters generalizing fuel with
  | nil => cases fuel <;> rfl
  | cons character rest ih =>
    have size := String.length_utf8EncodeChar character
    have positive := character.utf8Size_pos
    rw [flatMap_cons, length_append, size] at enough
    obtain ⟨fuel, rfl⟩ : ∃ less, fuel = less + 1 := ⟨fuel - 1, by omega⟩
    have decoded : ((character :: rest).flatMap
        String.utf8EncodeChar).toByteArray.utf8DecodeChar? 0 = some character := by
      rw [flatMap_cons, toByteArray_append]
      exact ByteArray.utf8DecodeChar?_utf8EncodeChar_append
    have dropped : ((character :: rest).flatMap String.utf8EncodeChar).drop
        character.utf8Size = rest.flatMap String.utf8EncodeChar := by
      rw [flatMap_cons, ← size, drop_left]
    cases bytes : (character :: rest).flatMap String.utf8EncodeChar with
    | nil =>
      rw [flatMap_cons, append_eq_nil_iff] at bytes
      exact (String.utf8EncodeChar_ne_nil bytes.1).elim
    | cons byte more =>
      rw [bytes] at decoded dropped
      simp only [readChars, decoded, dropped]
      rw [ih (by omega)]

theorem wellFormed_text (bytes : List UInt8) : WellFormed (text bytes) := by
  intro point member
  rw [text, codePoints_flatMap_units] at member
  rcases mem_map.mp member with ⟨character, _, rfl⟩
  rfl

/-- A string survives the two conversions exactly if it is well formed. -/
theorem text_utf8Bytes_iff {string : List UInt16} :
    text (utf8Bytes string) = string ↔ WellFormed string := by
  constructor
  · intro same
    rw [← same]
    exact wellFormed_text _
  · intro wellFormed
    rcases exists_characters wellFormed with ⟨characters, points, split⟩
    have bytes : utf8Bytes string = characters.flatMap String.utf8EncodeChar := by
      rw [utf8Bytes, points, flatMap_map]
      rfl
    rw [text, bytes, readChars_utf8 characters (Nat.le_refl _), split]

end SupremeOs.Support.Utf16
