import Mathlib.Data.List.Basic

/-!
# Identifiers

Every resource has an opaque identifier: the prefix of its kind, an underscore
and 26 characters of a base-32 alphabet.  An identifier carries the proof of
its format, so that a key that is built from it can be taken apart again.
-/

namespace SupremeOs.DomainModel

/-- The digits of the base-32 part. -/
def ulidAlphabet : List Char := "0123456789ABCDEFGHJKMNPQRSTVWXYZ".toList

/-- The text of an identifier of the kind with this prefix. -/
def idPattern (kind : String) (text : String) : Bool :=
  decide (text.toList.take (kind.length + 1) = kind.toList ++ ['_']) &&
    decide ((text.toList.drop (kind.length + 1)).length = 26) &&
      (text.toList.drop (kind.length + 1)).all fun digit => decide (digit ∈ ulidAlphabet)

structure SupremeId (kind : String) where
  text : String
  valid : idPattern kind text = true
deriving DecidableEq

namespace SupremeId

variable {kind : String}

@[ext]
theorem ext {left right : SupremeId kind} (same : left.text = right.text) : left = right := by
  cases left
  cases right
  simp only at same
  subst same
  rfl

theorem length_toList (id : SupremeId kind) : id.text.toList.length = kind.length + 27 := by
  have valid := id.valid
  simp only [idPattern, Bool.and_eq_true, decide_eq_true_eq, List.length_drop] at valid
  omega

theorem append_inj {left right : SupremeId kind} {before after : String}
    (same : left.text ++ before = right.text ++ after) : left = right ∧ before = after := by
  have lists := congrArg String.toList same
  simp only [String.toList_append] at lists
  rcases List.append_inj lists (by rw [length_toList, length_toList]) with ⟨texts, rest⟩
  exact ⟨ext (String.toList_inj.mp texts), String.toList_inj.mp rest⟩

end SupremeId

/-- A sequence of texts that are told apart by their lengths. -/
def nthId (number : Nat) : String := String.ofList (List.replicate number 'i')

theorem nthId_injective : Function.Injective nthId := by
  intro first second same
  have lengths := congrArg (fun text : String => text.toList.length) same
  simpa [nthId] using lengths

end SupremeOs.DomainModel
