import Mathlib.Data.List.Lex
import Mathlib.Data.List.Perm.Subperm
import Mathlib.Data.List.Sort
import SupremeOs.DomainModel.JsonText
import SupremeOs.Support.Utf16

/-!
# Canonical JSON

The members of an object have no order as a value, but they are written in
one.  The canonical text writes them in the order of their names, so it is the
same for the same value and differs for different ones.
-/

namespace SupremeOs.DomainModel

mutual

/-- No object has two members of one name. -/
def Json.UniqueKeys : Json → Prop
  | .array items => itemsUniqueKeys items
  | .object members => (members.map Prod.fst).Nodup ∧ membersUniqueKeys members
  | _ => True

def itemsUniqueKeys : List Json → Prop
  | [] => True
  | item :: items => item.UniqueKeys ∧ itemsUniqueKeys items

def membersUniqueKeys : List (String × Json) → Prop
  | [] => True
  | (_, value) :: members => value.UniqueKeys ∧ membersUniqueKeys members

end

mutual

def Json.Same : Json → Json → Prop
  | .null, right => right = .null
  | .boolean value, right => right = .boolean value
  | .number value, right => right = .number value
  | .text value, right => right = .text value
  | .array items, right => ∃ others, right = .array others ∧ itemsSame items others
  | .object members, right =>
    ∃ others, right = .object others ∧ members.length = others.length ∧ membersSame members others

def itemsSame : List Json → List Json → Prop
  | [], right => right = []
  | item :: items, right =>
    ∃ other others, right = other :: others ∧ item.Same other ∧ itemsSame items others

def membersSame : List (String × Json) → List (String × Json) → Prop
  | [], _ => True
  | (name, value) :: members, right =>
    (∃ other, (name, other) ∈ right ∧ value.Same other) ∧ membersSame members right

end

end SupremeOs.DomainModel

namespace SupremeOs.Crypto

open Support DomainModel List

/-- A name as it is compared. -/
def codeUnits (name : String) : List Nat :=
  (name.toList.flatMap Utf16.units).map UInt16.toNat

def arrayIndex (name : String) : Option Nat :=
  match digitsValue 10 0 name.toList with
  | some value =>
    if name.toList = Nat.toDigits 10 value ∧ value < 2 ^ 32 - 1 then some value else none
  | none => none

def hasIndex (member : String × Json) : Bool := (arrayIndex member.1).isSome

/-- The members of an object that is made from a list: indices come first. -/
def fromEntries (members : List (String × Json)) : List (String × Json) :=
  (members.filter hasIndex).insertionSort (fun left right =>
      (arrayIndex left.1).getD 0 ≤ (arrayIndex right.1).getD 0) ++
    members.filter fun member => !hasIndex member

def namesInOrder (left right : String × Json) : Prop := codeUnits left.1 ≤ codeUnits right.1

instance : DecidableRel namesInOrder := fun _ _ => inferInstanceAs (Decidable (_ ≤ _))

instance : IsTrans (String × Json) namesInOrder := ⟨fun _ _ _ => le_trans⟩

instance : Std.Total namesInOrder := ⟨fun _ _ => le_total _ _⟩

def sortMembers (members : List (String × Json)) : List (String × Json) :=
  members.insertionSort namesInOrder

mutual

def sortKeys : Json → Json
  | .array items => .array (sortKeysOfItems items)
  | .object members => .object (fromEntries (sortMembers (sortKeysOfMembers members)))
  | .null => .null
  | .boolean value => .boolean value
  | .number value => .number value
  | .text value => .text value

def sortKeysOfItems : List Json → List Json
  | [] => []
  | item :: items => sortKeys item :: sortKeysOfItems items

def sortKeysOfMembers : List (String × Json) → List (String × Json)
  | [] => []
  | (name, value) :: members => (name, sortKeys value) :: sortKeysOfMembers members

end

def canonicalJson (value : Json) : String := String.ofList (sortKeys value).stringify

example :
    canonicalJson (.object [("b", .null), ("10", .array [.text "x\n"]), ("a", .boolean true),
      ("2", .number (.ofNat 120))]) =
      "\x7b\"2\":120,\"10\":[\"x\\n\"],\"a\":true,\"b\":null\x7d" := by
  decide +kernel

theorem codeUnits_injective {left right : String} (equal : codeUnits left = codeUnits right) :
    left = right := by
  have units := map_injective_iff.mpr (fun _ _ => UInt16.toNat_inj.mp) equal
  have points := congrArg Utf16.codePoints units
  rw [Utf16.codePoints_flatMap_units, Utf16.codePoints_flatMap_units] at points
  exact String.toList_injective (map_injective_iff.mpr (fun _ _ => Option.some.inj) points)

variable (members : List (String × Json))

theorem fromEntries_perm : (fromEntries members).Perm members := by
  unfold fromEntries
  exact ((perm_insertionSort _ _).append_right _).trans
    (filter_append_perm hasIndex members)

theorem sortMembers_perm : (sortMembers members).Perm members :=
  perm_insertionSort _ _

theorem sortMembers_eq_of_perm {left right : List (String × Json)}
    (names : (left.map Prod.fst).Nodup) (perm : left.Perm right) :
    sortMembers left = sortMembers right := by
  have same : (sortMembers left).Perm (sortMembers right) :=
    (sortMembers_perm left).trans (perm.trans (sortMembers_perm right).symm)
  refine same.eq_of_pairwise ?_ (pairwise_insertionSort namesInOrder left)
    (pairwise_insertionSort namesInOrder right)
  intro first second memberFirst memberSecond before after
  have name := codeUnits_injective (le_antisymm before after)
  have here := (sortMembers_perm left).mem_iff.mp memberFirst
  have there := (sortMembers_perm left).mem_iff.mp (same.mem_iff.mpr memberSecond)
  exact inj_on_of_nodup_map names here there name

theorem length_sortKeysOfMembers : (sortKeysOfMembers members).length = members.length := by
  induction members with
  | nil => rfl
  | cons member rest ih => simp [sortKeysOfMembers, ih]

theorem names_sortKeysOfMembers :
    (sortKeysOfMembers members).map Prod.fst = members.map Prod.fst := by
  induction members with
  | nil => rfl
  | cons member rest ih => simp [sortKeysOfMembers, ih]

variable {members : List (String × Json)}

theorem mem_sortKeysOfMembers {name : String} {image : Json} :
    (name, image) ∈ sortKeysOfMembers members ↔
      ∃ value, (name, value) ∈ members ∧ sortKeys value = image := by
  induction members with
  | nil => simp [sortKeysOfMembers]
  | cons member rest ih =>
    rcases member with ⟨first, value⟩
    simp only [sortKeysOfMembers, mem_cons, Prod.mk.injEq, ih]
    constructor
    · rintro (⟨rfl, rfl⟩ | ⟨other, member, image⟩)
      · exact ⟨value, .inl ⟨rfl, rfl⟩, rfl⟩
      · exact ⟨other, .inr member, image⟩
    · rintro ⟨other, ⟨rfl, rfl⟩ | member, image⟩
      · exact .inl ⟨rfl, image.symm⟩
      · exact .inr ⟨other, member, image⟩

mutual

theorem same_of_sortKeys_eq (left right : Json) (equal : sortKeys left = sortKeys right) :
    left.Same right := by
  match left with
  | .null =>
    cases right <;> simp [sortKeys] at equal
    exact rfl
  | .boolean value =>
    cases right <;> simp [sortKeys] at equal
    rw [equal]
    exact rfl
  | .number value =>
    cases right <;> simp [sortKeys] at equal
    rw [equal]
    exact rfl
  | .text value =>
    cases right <;> simp [sortKeys] at equal
    rw [equal]
    exact rfl
  | .array items =>
    cases right with
    | array others =>
      simp only [sortKeys, Json.array.injEq] at equal
      exact ⟨others, rfl, itemsSame_of_sortKeys_eq items others equal⟩
    | _ => simp [sortKeys] at equal
  | .object members =>
    cases right with
    | object others =>
      simp only [sortKeys, Json.object.injEq] at equal
      have perm : (sortKeysOfMembers members).Perm (sortKeysOfMembers others) :=
        ((fromEntries_perm _).trans (sortMembers_perm _)).symm.trans
          (equal ▸ (fromEntries_perm _).trans (sortMembers_perm _))
      refine ⟨others, rfl, ?_, membersSame_of_sortKeys members others ?_⟩
      · have length := perm.length_eq
        rwa [length_sortKeysOfMembers, length_sortKeysOfMembers] at length
      · intro name value member
        exact perm.mem_iff.mp (mem_sortKeysOfMembers.mpr ⟨value, member, rfl⟩)
    | _ => simp [sortKeys] at equal

theorem itemsSame_of_sortKeys_eq (left right : List Json)
    (equal : sortKeysOfItems left = sortKeysOfItems right) : itemsSame left right := by
  match left with
  | [] =>
    cases right with
    | nil => exact rfl
    | cons other others => simp [sortKeysOfItems] at equal
  | item :: items =>
    cases right with
    | nil => simp [sortKeysOfItems] at equal
    | cons other others =>
      simp only [sortKeysOfItems, List.cons.injEq] at equal
      exact ⟨other, others, rfl, same_of_sortKeys_eq item other equal.1,
        itemsSame_of_sortKeys_eq items others equal.2⟩

theorem membersSame_of_sortKeys (left right : List (String × Json))
    (found : ∀ name value, (name, value) ∈ left →
      (name, sortKeys value) ∈ sortKeysOfMembers right) : membersSame left right := by
  match left with
  | [] => exact trivial
  | (name, value) :: members =>
    rcases mem_sortKeysOfMembers.mp (found name value (.head _))
      with ⟨other, member, equal⟩
    exact ⟨⟨other, member, same_of_sortKeys_eq value other equal.symm⟩,
      membersSame_of_sortKeys members right fun name value member =>
        found name value (.tail _ member)⟩

end

theorem same_refl (value : Json) : value.Same value := same_of_sortKeys_eq value value rfl

theorem same_of_canonicalJson_eq {left right : Json}
    (equal : canonicalJson left = canonicalJson right) : left.Same right :=
  same_of_sortKeys_eq left right (stringify_injective (String.ofList_injective equal))

theorem uniqueKeys_of_mem (keys : membersUniqueKeys members)
    {name : String} {value : Json} (member : (name, value) ∈ members) : value.UniqueKeys := by
  induction members with
  | nil => cases member
  | cons first rest ih =>
    rcases mem_cons.mp member with rfl | inside
    · exact keys.1
    · exact ih keys.2 inside

mutual

theorem sortKeys_eq_of_same (left right : Json) (leftKeys : left.UniqueKeys)
    (rightKeys : right.UniqueKeys) (same : left.Same right) : sortKeys left = sortKeys right := by
  match left with
  | .null =>
    rw [show right = .null from same]
  | .boolean value =>
    rw [show right = .boolean value from same]
  | .number value =>
    rw [show right = .number value from same]
  | .text value =>
    rw [show right = .text value from same]
  | .array items =>
    rcases same with ⟨others, rfl, same⟩
    simp only [sortKeys]
    rw [sortKeysOfItems_eq_of_same items others leftKeys rightKeys same]
  | .object members =>
    rcases same with ⟨others, rfl, length, same⟩
    have subset : sortKeysOfMembers members ⊆ sortKeysOfMembers others := by
      rintro ⟨name, image⟩ member
      rcases mem_sortKeysOfMembers.mp member with ⟨value, inside, rfl⟩
      exact sortKeys_mem_of_same members others leftKeys.2 rightKeys.2 same name value inside
    have names : ((sortKeysOfMembers members).map Prod.fst).Nodup := by
      rw [names_sortKeysOfMembers]
      exact leftKeys.1
    have perm := (subperm_of_subset (List.Nodup.of_map _ names) subset).perm_of_length_le
      (by rw [length_sortKeysOfMembers, length_sortKeysOfMembers, length])
    simp only [sortKeys]
    rw [sortMembers_eq_of_perm names perm]

theorem sortKeysOfItems_eq_of_same (left right : List Json) (leftKeys : itemsUniqueKeys left)
    (rightKeys : itemsUniqueKeys right) (same : itemsSame left right) :
    sortKeysOfItems left = sortKeysOfItems right := by
  match left with
  | [] => rw [show right = [] from same]
  | item :: items =>
    rcases same with ⟨other, others, rfl, same, rest⟩
    simp only [sortKeysOfItems]
    rw [sortKeys_eq_of_same item other leftKeys.1 rightKeys.1 same,
      sortKeysOfItems_eq_of_same items others leftKeys.2 rightKeys.2 rest]

theorem sortKeys_mem_of_same (left right : List (String × Json))
    (leftKeys : membersUniqueKeys left) (rightKeys : membersUniqueKeys right)
    (same : membersSame left right) (name : String) (value : Json)
    (member : (name, value) ∈ left) : (name, sortKeys value) ∈ sortKeysOfMembers right := by
  match left with
  | [] => cases member
  | (first, here) :: members =>
    rcases same with ⟨⟨other, inside, same⟩, rest⟩
    rcases mem_cons.mp member with head | tail
    · rw [Prod.mk.injEq] at head
      rcases head with ⟨rfl, rfl⟩
      exact mem_sortKeysOfMembers.mpr ⟨other, inside,
        (sortKeys_eq_of_same value other leftKeys.1 (uniqueKeys_of_mem rightKeys inside) same).symm⟩
    · exact sortKeys_mem_of_same members right leftKeys.2 rightKeys rest name value tail

end

theorem canonicalJson_eq_of_same {left right : Json} (leftKeys : left.UniqueKeys)
    (rightKeys : right.UniqueKeys) (same : left.Same right) :
    canonicalJson left = canonicalJson right := by
  rw [canonicalJson, canonicalJson, sortKeys_eq_of_same left right leftKeys rightKeys same]

/-- The canonical text is a normal form of the value. -/
theorem canonicalJson_eq_iff {left right : Json} (leftKeys : left.UniqueKeys)
    (rightKeys : right.UniqueKeys) : canonicalJson left = canonicalJson right ↔ left.Same right :=
  ⟨same_of_canonicalJson_eq, canonicalJson_eq_of_same leftKeys rightKeys⟩

theorem canonicalJson_swapped :
    canonicalJson (.object [("b", .null), ("a", .array [])]) =
      canonicalJson (.object [("a", .array []), ("b", .null)]) :=
  (canonicalJson_eq_iff (by simp [Json.UniqueKeys, membersUniqueKeys, itemsUniqueKeys])
    (by simp [Json.UniqueKeys, membersUniqueKeys, itemsUniqueKeys])).mpr
    (by simp [Json.Same, membersSame, itemsSame])

end SupremeOs.Crypto
