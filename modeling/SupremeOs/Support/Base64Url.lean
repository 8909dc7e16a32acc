import Mathlib.Data.List.Basic
import Mathlib.Data.List.TakeWhile

/-!
# Bytes as base64url texts

Three bytes are four characters of a 64 letter alphabet without padding.
Reading skips whatever is not of the alphabet, and the letters of plain base64
are read as well.
-/

namespace SupremeOs.Support.Base64Url

open List

def letter (sextet : Nat) : Char :=
  if sextet < 26 then Char.ofNat (sextet + 65)
  else if sextet < 52 then Char.ofNat (sextet + 71)
  else if sextet < 62 then Char.ofNat (sextet - 4)
  else if sextet = 62 then '-'
  else '_'

def sextet? (character : Char) : Option Nat :=
  if 65 ≤ character.toNat ∧ character.toNat ≤ 90 then some (character.toNat - 65)
  else if 97 ≤ character.toNat ∧ character.toNat ≤ 122 then some (character.toNat - 71)
  else if 48 ≤ character.toNat ∧ character.toNat ≤ 57 then some (character.toNat + 4)
  else if character = '-' ∨ character = '+' then some 62
  else if character = '_' ∨ character = '/' then some 63
  else none

def encodeSextets : List UInt8 → List Nat
  | [] => []
  | [first] => [first.toNat / 4, first.toNat % 4 * 16]
  | [first, second] =>
    [first.toNat / 4, first.toNat % 4 * 16 + second.toNat / 16, second.toNat % 16 * 4]
  | first :: second :: third :: rest =>
    first.toNat / 4 :: (first.toNat % 4 * 16 + second.toNat / 16) ::
      (second.toNat % 16 * 4 + third.toNat / 64) :: third.toNat % 64 :: encodeSextets rest

def decodeSextets : List Nat → List UInt8
  | first :: second :: third :: fourth :: rest =>
    UInt8.ofNat (first * 4 + second / 16) :: UInt8.ofNat (second % 16 * 16 + third / 4) ::
      UInt8.ofNat (third % 4 * 64 + fourth) :: decodeSextets rest
  | [first, second, third] =>
    [UInt8.ofNat (first * 4 + second / 16), UInt8.ofNat (second % 16 * 16 + third / 4)]
  | [first, second] => [UInt8.ofNat (first * 4 + second / 16)]
  | _ => []

def encode (bytes : List UInt8) : List Char := (encodeSextets bytes).map letter

/-- The bytes of a text, up to its padding. -/
def decode (text : List Char) : List UInt8 :=
  decodeSextets ((text.takeWhile (· != '=')).filterMap sextet?)

theorem encodeSextets_lt (bytes : List UInt8) : ∀ sextet ∈ encodeSextets bytes, sextet < 64 := by
  induction bytes using encodeSextets.induct with
  | case1 => simp [encodeSextets]
  | case2 first =>
    have byte := first.toNat_lt
    simp only [encodeSextets, mem_cons, not_mem_nil, or_false]
    omega
  | case3 first second =>
    have bytes := And.intro first.toNat_lt second.toNat_lt
    simp only [encodeSextets, mem_cons, not_mem_nil, or_false]
    omega
  | case4 first second third rest ih =>
    have bytes := And.intro first.toNat_lt (And.intro second.toNat_lt third.toNat_lt)
    intro sextet member
    simp only [encodeSextets, mem_cons] at member
    rcases member with rfl | rfl | rfl | rfl | later
    · omega
    · omega
    · omega
    · omega
    · exact ih sextet later

theorem ofNat_eq {byte : UInt8} {value : Nat} (same : value = byte.toNat) :
    UInt8.ofNat value = byte := by
  rw [same, UInt8.ofNat_toNat]

theorem decodeSextets_encodeSextets (bytes : List UInt8) :
    decodeSextets (encodeSextets bytes) = bytes := by
  induction bytes using encodeSextets.induct with
  | case1 => rfl
  | case2 first =>
    rw [encodeSextets, decodeSextets, @ofNat_eq first _ (by omega)]
  | case3 first second =>
    have byte := second.toNat_lt
    rw [encodeSextets, decodeSextets, @ofNat_eq first _ (by omega), @ofNat_eq second _ (by omega)]
  | case4 first second third rest ih =>
    have bytes := And.intro second.toNat_lt third.toNat_lt
    rw [encodeSextets, decodeSextets, ih, @ofNat_eq first _ (by omega),
      @ofNat_eq second _ (by omega), @ofNat_eq third _ (by omega)]

theorem letter_spec : ∀ sextet < 64, sextet? (letter sextet) = some sextet := by
  decide +kernel

def Foreign (character : Char) : Prop := ∀ sextet < 64, letter sextet ≠ character

instance (character : Char) : Decidable (Foreign character) :=
  inferInstanceAs (Decidable (∀ sextet < 64, _))

theorem not_mem_encode {bytes : List UInt8} {character : Char} (foreign : Foreign character) :
    character ∉ encode bytes := by
  intro member
  rcases mem_map.mp member with ⟨sextet, written, same⟩
  exact foreign sextet (encodeSextets_lt bytes sextet written) same

theorem decode_encode (bytes : List UInt8) : decode (encode bytes) = bytes := by
  have unpadded : (encode bytes).takeWhile (· != '=') = encode bytes := by
    apply takeWhile_eq_self_iff.mpr
    intro character member
    rw [bne_iff_ne]
    rintro rfl
    exact not_mem_encode (by decide +kernel) member
  have read : (encode bytes).filterMap sextet? = encodeSextets bytes := by
    rw [encode, filterMap_map, filterMap_congr, filterMap_some]
    intro sextet member
    exact letter_spec sextet (encodeSextets_lt bytes sextet member)
  rw [decode, unpadded, read, decodeSextets_encodeSextets]

example : encode [72, 105, 33, 255] = "SGkh_w".toList := by decide

end SupremeOs.Support.Base64Url
