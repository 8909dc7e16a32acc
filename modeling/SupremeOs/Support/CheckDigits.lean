import Mathlib.Algebra.Group.Basic

/-!
# Check digits from a group

A digit at a position stands for an element of a group, and a text for the
product of its digits.  A text is accepted if that product is the unit.  Two
texts that differ in one digit have different products; two neighbours that
change places are noticed where the elements of both orders differ.
-/

namespace SupremeOs.Support.CheckDigits

open List

variable {Digit G : Type*} [Group G]

/--
A check notices that one digit is another one and that two different neighbours
have changed places, and each text has one digit that completes it.
-/
structure DetectsErrors (accepts : List Digit → Bool) : Prop where
  change : ∀ front back digit other, digit ≠ other →
    accepts (front ++ digit :: back) = true → accepts (front ++ other :: back) = false
  swap : ∀ front back left right, left ≠ right → accepts (front ++ left :: right :: back) = true →
      accepts (front ++ right :: left :: back) = false
  complete : ∀ text, ∃! check, accepts (text ++ [check]) = true

def productFrom (weight : Nat → Digit → G) : Nat → G → List Digit → G
  | _, before, [] => before
  | position, before, digit :: back =>
    productFrom weight (position + 1) (before * weight position digit) back

def product (weight : Nat → Digit → G) (text : List Digit) : G := productFrom weight 0 1 text

variable {weight : Nat → Digit → G}

theorem productFrom_eq_mul (position : Nat) (before : G) (text : List Digit) :
    productFrom weight position before text = before * productFrom weight position 1 text := by
  induction text generalizing position before with
  | nil => exact (mul_one before).symm
  | cons digit back ih =>
    rw [productFrom, productFrom, ih, ih (position + 1) (1 * _), one_mul, mul_assoc]

theorem productFrom_append (position : Nat) (before : G) (front back : List Digit) :
    productFrom weight position before (front ++ back) =
      productFrom weight (position + front.length)
        (productFrom weight position before front) back := by
  induction front generalizing position before with
  | nil => rfl
  | cons digit rest ih =>
    rw [cons_append, productFrom, ih, length_cons, productFrom, Nat.add_assoc, Nat.add_comm 1]

/-- Texts agree around some digits if and only if the products of these do. -/
theorem product_around_iff (weight : Nat → Digit → G) (front back : List Digit)
    {middle other : List Digit} (same : middle.length = other.length) :
    product weight (front ++ (middle ++ back)) = product weight (front ++ (other ++ back)) ↔
      productFrom weight front.length 1 middle = productFrom weight front.length 1 other := by
  rw [product, product, productFrom_append 0 1 front, productFrom_append 0 1 front,
    productFrom_append _ _ middle, productFrom_append _ _ other, same, productFrom_eq_mul _ _ back,
    productFrom_eq_mul _ (productFrom weight _ _ other) back, mul_left_inj, productFrom_eq_mul _ _
    middle, productFrom_eq_mul _ _ other, mul_right_inj, Nat.zero_add]

theorem product_change_iff (front back : List Digit) (digit other : Digit) :
    product weight (front ++ digit :: back) = product weight (front ++ other :: back) ↔
      weight front.length digit = weight front.length other := by
  have around := product_around_iff weight front back
    (show [digit].length = [other].length from rfl)
  simp only [singleton_append, productFrom, one_mul] at around
  exact around

theorem product_swap_iff (front back : List Digit) (left right : Digit) :
    product weight (front ++ left :: right :: back) =
        product weight (front ++ right :: left :: back) ↔
      weight front.length left * weight (front.length + 1) right =
        weight front.length right * weight (front.length + 1) left := by
  have around := product_around_iff weight front back
    (show [left, right].length = [right, left].length from rfl)
  simp only [cons_append, nil_append, productFrom, one_mul] at around
  exact around

/-!
A check that reads a text from its end, where the check digit is, and compares
its product with the unit.
-/

section Checks

variable {accepts : List Digit → Bool}
variable (accepts_iff : ∀ text, accepts text = true ↔ product weight text.reverse = 1)
include accepts_iff

theorem change_detected (injective : ∀ position, Function.Injective (weight position))
    (front back : List Digit) {digit other : Digit} (differs : digit ≠ other)
    (accepted : accepts (front ++ digit :: back) = true) :
    accepts (front ++ other :: back) = false := by
  rw [accepts_iff, reverse_append, reverse_cons, append_assoc, singleton_append] at accepted
  rw [← Bool.not_eq_true, accepts_iff, reverse_append, reverse_cons,
    append_assoc, singleton_append, ← accepted, product_change_iff]
  exact fun same => differs (injective _ same).symm

theorem swap_detected (twists : ∀ position left right, left ≠ right →
      weight position left * weight (position + 1) right ≠
        weight position right * weight (position + 1) left)
    (front back : List Digit) {left right : Digit} (differs : left ≠ right)
    (accepted : accepts (front ++ left :: right :: back) = true) :
    accepts (front ++ right :: left :: back) = false := by
  have reversed : ∀ first second : Digit, (front ++ first :: second :: back).reverse =
      back.reverse ++ second :: first :: front.reverse := by
    intro first second
    simp
  rw [accepts_iff, reversed] at accepted
  rw [← Bool.not_eq_true, accepts_iff, reversed, ← accepted, product_swap_iff]
  exact twists _ left right differs

theorem existsUnique_check (injective : Function.Injective (weight 0))
    (onto : Function.Surjective (weight 0)) (text : List Digit) :
    ∃! check, accepts (text ++ [check]) = true := by
  have appended : ∀ check, accepts (text ++ [check]) = true ↔
      weight 0 check = (productFrom weight 1 1 text.reverse)⁻¹ := by
    intro check
    rw [accepts_iff, reverse_concat, product, productFrom, productFrom_eq_mul, one_mul,
      mul_eq_one_iff_eq_inv]
  obtain ⟨check, reaches⟩ := onto (productFrom weight 1 1 text.reverse)⁻¹
  refine ⟨check, (appended check).mpr reaches, fun other accepted => ?_⟩
  exact injective (((appended other).mp accepted).trans reaches.symm)

end Checks

end SupremeOs.Support.CheckDigits
