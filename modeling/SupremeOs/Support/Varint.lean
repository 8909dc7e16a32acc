import Mathlib.Data.Nat.Bitwise
import Mathlib.Tactic.Ring
import SupremeOs.Support.Framing

/-!
# Numbers in groups of seven bits

A natural number is written in bytes of seven bits each, the lowest ones first;
the eighth bit says that more follow.  A reader may refuse numbers of too many
groups.
-/

namespace SupremeOs.Support.Varint

open Support.Framing Nat

variable {Error : Type*}

def varint (n : Nat) : List UInt8 :=
  let byte := n &&& 0x7f
  let next := n >>> 7
  if next = 0 then [UInt8.ofNat byte] else UInt8.ofNat (byte ||| 0x80) :: varint next
termination_by n
decreasing_by
  rw [shiftRight_eq_div_pow]
  have less : n / 2 ^ 7 ≠ 0 := by rwa [← shiftRight_eq_div_pow]
  omega

/--
Read groups into a result that has the bits below `shift`; `refuse` is asked
before a group at a further shift.
-/
def readGroups (truncated : Error) (refuse : Nat → Option Error) (result shift : Nat) :
    Reader UInt8 Nat Error
  | [] => .error truncated
  | byte :: rest =>
    let result := result ||| (byte.toNat &&& 0x7f) <<< shift
    if byte.toNat &&& 0x80 = 0 then .ok (result, rest)
    else
      match refuse (shift + 7) with
      | some error => .error error
      | none => readGroups truncated refuse result (shift + 7) rest

variable {truncated : Error} {refuse : Nat → Option Error} {n result shift : Nat}

theorem and_127 (n : Nat) : n &&& 0x7f = n % 128 := and_two_pow_sub_one_eq_mod n 7

theorem and_128_eq_zero (small : n < 256) : n &&& 0x80 = 0 ↔ n < 128 := by
  have bit : n &&& 2 ^ 7 = (n.testBit 7).toNat * 2 ^ 7 := and_two_pow n 7
  rw [testBit_eq_decide_div_mod_eq] at bit
  rw [show (0x80 : Nat) = 2 ^ 7 from rfl, bit]
  constructor
  · intro none
    by_contra high
    have one : n / 2 ^ 7 % 2 = 1 := by omega
    rw [one] at none
    cases none
  · intro low
    have zero : n / 2 ^ 7 % 2 = 0 := by omega
    rw [zero]
    rfl

theorem varint_of_lt (small : n < 128) : varint n = [UInt8.ofNat n] := by
  have none : n >>> 7 = 0 := by
    rw [shiftRight_eq_div_pow]
    omega
  rw [varint]
  simp only [none, if_true, and_127, mod_eq_of_lt small]

theorem varint_of_le (large : 128 ≤ n) :
    varint n = UInt8.ofNat (n % 128 + 128) :: varint (n / 128) := by
  have next : n >>> 7 = n / 128 := shiftRight_eq_div_pow n 7
  have marked : n % 128 ||| 0x80 = n % 128 + 128 := by
    have low : n % 128 < 2 ^ 7 := mod_lt n (by decide)
    have split := two_pow_add_eq_or_of_lt low 1
    rw [Nat.or_comm, Nat.add_comm]
    exact split.symm
  rw [varint]
  simp only [next, and_127, marked]
  rw [if_neg (by omega)]

theorem or_shiftLeft {low : Nat} (small : low < 2 ^ shift) (high : Nat) :
    low ||| high <<< shift = low + high * 2 ^ shift := by
  rw [Nat.or_comm, ← shiftLeft_add_eq_or_of_lt small, shiftLeft_eq, Nat.add_comm]

/-- The number that was written is added above the bits that are there. -/
theorem readGroups_varint (below : result < 2 ^ shift)
    (allowed : ∀ groups, 2 ^ (7 * groups) ≤ n → refuse (shift + 7 * groups) = none)
    (rest : List UInt8) :
    readGroups truncated refuse result shift (varint n ++ rest) =
      .ok (result + n * 2 ^ shift, rest) := by
  induction n using Nat.strongRecOn generalizing result shift with
  | ind n ih =>
    by_cases small : n < 128
    · have byte : (UInt8.ofNat n).toNat = n :=
        UInt8.toNat_ofNat_of_lt' (Nat.lt_of_lt_of_le small (by decide))
      rw [varint_of_lt small, List.singleton_append, readGroups, byte, and_127,
        mod_eq_of_lt small, or_shiftLeft below, if_pos ((and_128_eq_zero (by omega)).mpr small)]
    · have byte : (UInt8.ofNat (n % 128 + 128)).toNat = n % 128 + 128 :=
        UInt8.toNat_ofNat_of_lt' (add_lt_of_lt_sub (mod_lt n (by decide)))
      have more : ¬(n % 128 + 128) &&& 0x80 = 0 := by
        rw [and_128_eq_zero (by omega)]
        omega
      have next : refuse (shift + 7) = none := allowed 1 (by omega)
      have step : result + n % 128 * 2 ^ shift < 2 ^ (shift + 7) := by
        have bits : n % 128 * 2 ^ shift ≤ 127 * 2 ^ shift :=
          Nat.mul_le_mul_right _ (by omega)
        rw [Nat.pow_add]
        omega
      rw [varint_of_le (Nat.le_of_not_lt small), List.cons_append, readGroups, byte, and_127,
        add_mod_right, mod_mod, or_shiftLeft below, if_neg more, next]
      dsimp only
      rw [ih (n / 128) (by omega) step]
      · have whole := div_add_mod n 128
        rw [Nat.pow_add]
        congr 2
        conv_rhs => rw [← whole]
        ring
      · intro groups large
        have larger := allowed (groups + 1) (by
          rw [Nat.mul_add, Nat.pow_add]
          omega)
        rwa [Nat.mul_add, ← Nat.add_assoc, Nat.add_right_comm] at larger

theorem readGroups_stable (truncated : Error) (refuse : Nat → Option Error)
    (result shift : Nat) : Stable (readGroups truncated refuse result shift) := by
  intro stream value rest ok more
  induction stream generalizing result shift with
  | nil => cases ok
  | cons byte others ih =>
    rw [List.cons_append]
    rw [readGroups] at ok ⊢
    split at ok
    · rename_i final
      cases Except.ok.inj ok
      rw [if_pos final]
    · rename_i further
      rw [if_neg further]
      cases asked : refuse (shift + 7) with
      | some error =>
        rw [asked] at ok
        cases ok
      | none =>
        rw [asked] at ok
        exact ih _ _ ok

theorem readGroups_advances (truncated : Error) (refuse : Nat → Option Error)
    (result shift : Nat) : Advances (readGroups truncated refuse result shift) := by
  intro stream value rest ok
  induction stream generalizing result shift with
  | nil => cases ok
  | cons byte others ih =>
    rw [readGroups] at ok
    split at ok
    · cases Except.ok.inj ok
      exact lt_succ_self _
    · cases asked : refuse (shift + 7) with
      | some error =>
        rw [asked] at ok
        cases ok
      | none =>
        rw [asked] at ok
        exact lt_succ_of_lt (ih _ _ ok)

theorem length_varint_le {groups : Nat} (small : n < 2 ^ (7 * (groups + 1))) :
    (varint n).length ≤ groups + 1 := by
  induction groups generalizing n with
  | zero =>
    rw [varint_of_lt small]
    exact Nat.le_refl _
  | succ groups ih =>
    by_cases single : n < 128
    · rw [varint_of_lt single]
      exact Nat.le_add_left _ _
    · rw [varint_of_le (Nat.le_of_not_lt single), List.length_cons]
      refine succ_le_succ (ih ?_)
      rw [Nat.mul_add, Nat.pow_add] at small
      omega

theorem toNat_key {number type : Nat} (field : number < 2 ^ 28) (small : type < 8) :
    ((BitVec.ofNat 32 number <<< 3) ||| BitVec.ofNat 32 type).toNat = number * 8 + type := by
  rw [BitVec.toNat_or, BitVec.toNat_shiftLeft, BitVec.toNat_ofNat, BitVec.toNat_ofNat, mod_eq_of_lt
    (a := number) (by omega), mod_eq_of_lt (a := type) (by omega), shiftLeft_eq, mod_eq_of_lt (by
    omega), ← shiftLeft_eq, ← shiftLeft_add_eq_or_of_lt small, shiftLeft_eq]

theorem key_shiftRight {type : Nat} (small : type < 8) (number : Nat) :
    (number * 8 + type) >>> 3 = number := by
  rw [shiftRight_eq_div_pow]
  omega

theorem key_and {type : Nat} (small : type < 8) (number : Nat) :
    (number * 8 + type) &&& 0x7 = type := by
  have bits : (number * 8 + type) &&& 0x7 = (number * 8 + type) % 2 ^ 3 :=
    and_two_pow_sub_one_eq_mod _ 3
  omega

end SupremeOs.Support.Varint
