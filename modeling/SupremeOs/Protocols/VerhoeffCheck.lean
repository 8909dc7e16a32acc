import Mathlib.GroupTheory.SpecificGroups.Dihedral
import SupremeOs.Protocols.MatterPairing
import SupremeOs.Support.CheckDigits

/-!
# The check digit of manual pairing codes

One table is the multiplication of the symmetries of a pentagon: the digits
below five are its rotations, the other ones its reflections.  The rows of the
other table permute the digits, and a row followed by the next one does not
commute with the multiplication.
-/

namespace SupremeOs.Protocols.MatterPairing

open Support.CheckDigits

def symmetry (digit : Digit) : DihedralGroup 5 :=
  if digit.val < 5 then .r (digit.val : ZMod 5) else .sr (-(digit.val : ZMod 5))

def weight (position : Nat) (digit : Digit) : DihedralGroup 5 :=
  symmetry (permuted position digit)

theorem symmetry_zero : symmetry 0 = 1 := by decide

theorem symmetry_dTable (c digit : Digit) :
    symmetry ((dTable.get c).get digit) = symmetry c * symmetry digit := by
  revert c digit
  decide +kernel

theorem symmetry_injective : Function.Injective symmetry := by
  intro left right
  revert left right
  decide +kernel

theorem symmetry_bijective : Function.Bijective symmetry :=
  (Fintype.bijective_iff_injective_and_card symmetry).mpr
    ⟨symmetry_injective, by rw [DihedralGroup.card, Fintype.card_fin]⟩

theorem pTable_injective (row : Fin 8) : Function.Injective (pTable.get row).get := by
  intro left right
  revert row left right
  decide +kernel

theorem pTable_zero (digit : Digit) : (pTable.get 0).get digit = digit := by
  revert digit
  decide +kernel

theorem symmetry_twists (row : Fin 8) {left right : Digit} (differs : left ≠ right) :
    symmetry ((pTable.get row).get left) * symmetry ((pTable.get (row + 1)).get right) ≠
      symmetry ((pTable.get row).get right) * symmetry ((pTable.get (row + 1)).get left) := by
  revert row left right
  decide +kernel

theorem weight_injective (position : Nat) : Function.Injective (weight position) :=
  symmetry_injective.comp (pTable_injective _)

theorem weight_zero_surjective : Function.Surjective (weight 0) := by
  intro element
  obtain ⟨digit, stands⟩ := symmetry_bijective.surjective element
  refine ⟨digit, ?_⟩
  rw [weight, permuted, Fin.ofNat_zero, pTable_zero, stands]

theorem weight_twists (position : Nat) (left right : Digit) (differs : left ≠ right) :
    weight position left * weight (position + 1) right ≠
      weight position right * weight (position + 1) left := by
  have next : Fin.ofNat 8 (position + 1) = Fin.ofNat 8 position + 1 := by
    apply Fin.ext
    simp only [Fin.ofNat, Fin.val_add]
    omega
  simp only [weight, permuted, next]
  exact symmetry_twists _ differs

theorem symmetry_verhoeffLoop (i : Nat) (c : Digit) (digits : List Digit) :
    symmetry (verhoeffLoop i c digits) = productFrom weight i (symmetry c) digits := by
  induction digits generalizing i c with
  | nil => rfl
  | cons digit rest ih => rw [verhoeffLoop, ih, symmetry_dTable, productFrom, weight, permuted]

theorem verhoeffValidate_iff (digits : List Digit) :
    verhoeffValidate digits = true ↔ product weight digits.reverse = 1 := by
  rw [verhoeffValidate, decide_eq_true_iff, product, ← symmetry_zero, ← symmetry_verhoeffLoop,
    symmetry_injective.eq_iff]

theorem existsUnique_verhoeff (digits : List Digit) :
    ∃! check, verhoeffValidate (digits ++ [check]) = true :=
  existsUnique_check verhoeffValidate_iff (weight_injective 0) weight_zero_surjective digits

/-- The check notices each changed digit and each two neighbours that changed places. -/
theorem verhoeff_detectsErrors : DetectsErrors verhoeffValidate where
  change front back _ _ := change_detected verhoeffValidate_iff weight_injective front back
  swap front back _ _ := swap_detected verhoeffValidate_iff weight_twists front back
  complete := existsUnique_verhoeff

end SupremeOs.Protocols.MatterPairing
