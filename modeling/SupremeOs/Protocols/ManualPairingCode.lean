import SupremeOs.Protocols.VerhoeffCheck
import SupremeOs.Support.Varint

/-!
# Which manual pairing codes are decoded exactly

The first digit of a code has the upper bits of the discriminator, five digits
have its lower bits and the lower ones of the passcode, four digits the upper
bits of the passcode.  Vendor and product follow in five digits each.

Four of the five groups can have values that no bits stand for.  The parser
refuses them in one group only: elsewhere the bits above are dropped, or the
number is taken as it is.
-/

namespace SupremeOs.Protocols.MatterPairing

open DomainModel Support List Nat Option

@[simp]
theorem length_fixedDigits (count value : Nat) : (fixedDigits count value).length = count := by
  induction count with
  | zero => rfl
  | succ count ih => rw [fixedDigits, length_cons, ih]

theorem foldl_numberOf (value : Nat) (digits : List Digit) :
    digits.foldl (fun (value : Nat) (digit : Digit) => 10 * value + digit.val) value =
      value * 10 ^ digits.length + numberOf digits := by
  induction digits generalizing value with
  | nil => rw [foldl_nil, length_nil, numberOf, foldl_nil, pow_zero, mul_one, Nat.add_zero]
  | cons digit rest ih =>
    rw [numberOf, foldl_cons, foldl_cons, ih, ih (10 * 0 + digit.val), length_cons, pow_succ]
    ring

theorem numberOf_cons (digit : Digit) (rest : List Digit) :
    numberOf (digit :: rest) = digit.val * 10 ^ rest.length + numberOf rest := by
  rw [numberOf, foldl_cons, foldl_numberOf, Nat.mul_zero, Nat.zero_add]

theorem numberOf_lt (digits : List Digit) : numberOf digits < 10 ^ digits.length := by
  induction digits with
  | nil => exact Nat.one_pos
  | cons digit rest ih =>
    have high : digit.val * 10 ^ rest.length ≤ 9 * 10 ^ rest.length :=
      Nat.mul_le_mul_right _ (le_of_lt_succ digit.isLt)
    rw [numberOf_cons, length_cons, pow_succ]
    omega

theorem numberOf_fixedDigits (count value : Nat) :
    numberOf (fixedDigits count value) = value % 10 ^ count := by
  induction count with
  | zero => rw [fixedDigits, pow_zero, mod_one, numberOf, foldl_nil]
  | succ count ih =>
    rw [fixedDigits, numberOf_cons, ih, length_fixedDigits, mod_pow_succ, Fin.val_ofNat]
    ring

theorem numberOf_cons_div (digit : Digit) (rest : List Digit) :
    numberOf (digit :: rest) / 10 ^ rest.length = digit.val := by
  rw [numberOf_cons, Nat.add_comm, add_mul_div_right _ _ (pow_pos (by decide) _),
    div_eq_of_lt (numberOf_lt rest), Nat.zero_add]

theorem numberOf_injective {left right : List Digit} (length : left.length = right.length)
    (same : numberOf left = numberOf right) : left = right := by
  induction left generalizing right with
  | nil => exact (length_eq_zero_iff.mp length.symm).symm
  | cons digit rest ih =>
    cases right with
    | nil => cases length
    | cons other others =>
      have lengths : rest.length = others.length := Nat.succ.inj length
      have first : digit = other := by
        apply Fin.ext
        rw [← numberOf_cons_div digit rest, ← numberOf_cons_div other others, same, lengths]
      rw [numberOf_cons, numberOf_cons, first, lengths, Nat.add_right_inj] at same
      rw [first, ih lengths same]

theorem fixedDigits_numberOf {count : Nat} {digits : List Digit} (length : digits.length = count) :
    fixedDigits count (numberOf digits) = digits := by
  subst length
  apply numberOf_injective (length_fixedDigits _ _)
  rw [numberOf_fixedDigits, mod_eq_of_lt (numberOf_lt digits)]

def firstGroup (digits : List Digit) : Nat := numberOf (slice 0 1 digits)

def secondGroup (digits : List Digit) : Nat := numberOf (slice 1 6 digits)

def thirdGroup (digits : List Digit) : Nat := numberOf (slice 6 10 digits)

def vendorGroup (digits : List Digit) : Nat := numberOf (slice 10 15 digits)

def productGroup (digits : List Digit) : Nat := numberOf (slice 15 20 digits)

/-- The bits of the second group that belong to the passcode, and those of the third one. -/
def passcodeGroups (digits : List Digit) : Nat :=
  secondGroup digits % 2 ^ 14 + thirdGroup digits * 2 ^ 14

/-- The parser has nothing to say against a code. -/
structure PassesChecks (digits : List Digit) : Prop where
  length : digits.length = 11 ∨ digits.length = 21
  check : verhoeffValidate digits = true
  third : thirdGroup digits < 2 ^ 13
  flag : firstGroup digits / 4 % 2 = 1 ↔ digits.length = 21
  passcode : assertPasscode (passcodeGroups digits) = .ok ()

/-- No group is above what its bits stand for. -/
structure GroupsInRange (digits : List Digit) : Prop where
  first : firstGroup digits < 2 ^ 3
  second : secondGroup digits < 2 ^ 16
  vendor : digits.length = 21 → vendorGroup digits < 2 ^ 16
  product : digits.length = 21 → productGroup digits < 2 ^ 16

def groupsPayload (digits : List Digit) : MatterOnboardingPayload where
  discriminator := (firstGroup digits % 4 * 4 + secondGroup digits / 2 ^ 14 % 4) * 2 ^ 8
  shortDiscriminator := true
  passcode := passcodeGroups digits
  vendorId := if digits.length = 21 then some (vendorGroup digits) else none
  productId := if digits.length = 21 then some (productGroup digits) else none
  customFlow := none
  discoveryCapabilities := none
  source := .manual

variable {digits : List Digit}

theorem length_slice (first last : Nat) (digits : List Digit) :
    (slice first last digits).length = min last digits.length - first := by
  rw [slice, length_drop, length_take]

theorem firstGroup_lt (digits : List Digit) : firstGroup digits < 10 := by
  refine Nat.lt_of_lt_of_le (numberOf_lt _) (Nat.pow_le_pow_right (by decide) (?_ : _ ≤ 1))
  rw [length_slice]
  omega

theorem and_four_ne_zero_iff {value : Nat} (small : value < 10) :
    value &&& 0x04 ≠ 0 ↔ value / 4 % 2 = 1 := by
  revert value
  decide

theorem flag_iff (digits : List Digit) :
    numberOf (slice 0 1 digits) &&& 0x04 ≠ 0 ↔ firstGroup digits / 4 % 2 = 1 :=
  and_four_ne_zero_iff (firstGroup_lt digits)

theorem shortDisc_eq (chunk1 chunk2 : Nat) :
    ((chunk1 &&& 0x03) <<< 2) ||| ((chunk2 >>> 14) &&& 0x03) =
      chunk1 % 4 * 4 + chunk2 / 2 ^ 14 % 4 := by
  have low : ∀ value : Nat, value &&& 0x03 = value % 4 :=
    fun value => and_two_pow_sub_one_eq_mod value 2
  rw [low, low, shiftRight_eq_div_pow,
    ← shiftLeft_add_eq_or_of_lt (mod_lt _ (by decide) : _ % 4 < 2 ^ 2), shiftLeft_eq]

theorem passcode_eq (chunk2 : Nat) {chunk3 : Nat} (small : chunk3 < 2 ^ 13) :
    (chunk2 &&& 0x3fff) ||| ((chunk3 &&& 0x1fff) <<< 14) = chunk2 % 2 ^ 14 + chunk3 * 2 ^ 14 := by
  have low : chunk2 &&& 0x3fff = chunk2 % 2 ^ 14 := and_two_pow_sub_one_eq_mod chunk2 14
  have high : chunk3 &&& 0x1fff = chunk3 := by
    have bits : chunk3 &&& 0x1fff = chunk3 % 2 ^ 13 := and_two_pow_sub_one_eq_mod chunk3 13
    rw [bits, mod_eq_of_lt small]
  rw [low, high, Varint.or_shiftLeft (mod_lt _ (by decide))]

theorem parseDigits_eq_ok_iff {payload : MatterOnboardingPayload} :
    parseDigits digits = .ok payload ↔ PassesChecks digits ∧ groupsPayload digits = payload := by
  by_cases length : digits.length ≠ 11 ∧ digits.length ≠ 21
  · rw [parseDigits, if_pos length]
    refine ⟨fun ok => (nomatch ok), fun ⟨checks, _⟩ => ?_⟩
    exact (checks.length.elim length.1 length.2).elim
  by_cases check : verhoeffValidate digits = true
  swap
  · rw [parseDigits, if_neg length, if_pos check]
    exact ⟨fun ok => (nomatch ok), fun ⟨checks, _⟩ => (check checks.check).elim⟩
  rw [parseDigits, if_neg length, if_neg (not_not_intro check)]
  dsimp only
  by_cases third : 0x1fff < numberOf (slice 6 10 digits)
  · rw [if_pos third]
    exact ⟨fun ok => (nomatch ok), fun ⟨checks, _⟩ => absurd checks.third (Nat.not_lt_of_le third)⟩
  have small : numberOf (slice 6 10 digits) < 2 ^ 13 := lt_succ_of_le (Nat.not_lt.mp third)
  rw [if_neg third, passcode_eq _ small, shortDisc_eq]
  by_cases flag : firstGroup digits / 4 % 2 = 1 ↔ digits.length = 21
  swap
  · have differs : decide (numberOf (slice 0 1 digits) &&& 0x04 ≠ 0) ≠
        decide (digits.length = 21) := by
      rw [Ne, decide_eq_decide, flag_iff]
      exact flag
    rw [if_pos differs]
    exact ⟨fun ok => (nomatch ok), fun ⟨checks, _⟩ => (flag checks.flag).elim⟩
  have same : decide (numberOf (slice 0 1 digits) &&& 0x04 ≠ 0) = decide (digits.length = 21) := by
    rw [decide_eq_decide, flag_iff]
    exact flag
  rw [if_neg (not_not_intro same), same]
  cases asserted : assertPasscode (passcodeGroups digits) with
  | error error =>
    have refused : assertPasscode (numberOf (slice 1 6 digits) % 2 ^ 14 +
        numberOf (slice 6 10 digits) * 2 ^ 14) = .error error := asserted
    rw [refused]
    refine ⟨fun ok => (nomatch ok), fun ⟨checks, _⟩ => ?_⟩
    rw [checks.passcode] at asserted
    cases asserted
  | ok _ =>
    have allowed : assertPasscode (numberOf (slice 1 6 digits) % 2 ^ 14 +
        numberOf (slice 6 10 digits) * 2 ^ 14) = .ok () := asserted
    have checks : PassesChecks digits := by
      refine ⟨?_, check, small, flag, asserted⟩
      by_contra other
      exact length (not_or.mp other)
    rw [allowed, and_iff_right checks]
    simp only [decide_eq_true_eq, shiftLeft_eq, Except.ok.injEq]
    rfl

structure ManualCode where
  discriminator : BitVec 4
  passcode : BitVec 27
  ids : Option (BitVec 16 × BitVec 16)
  allowed : assertPasscode passcode.toNat = .ok ()

namespace ManualCode

def payload (code : ManualCode) : MatterOnboardingPayload where
  discriminator := code.discriminator.toNat * 2 ^ 8
  shortDiscriminator := true
  passcode := code.passcode.toNat
  vendorId := code.ids.map fun ids => ids.1.toNat
  productId := code.ids.map fun ids => ids.2.toNat
  customFlow := none
  discoveryCapabilities := none
  source := .manual

def idDigits (code : ManualCode) : List Digit :=
  match code.ids with
  | none => []
  | some (vendor, product) => fixedDigits 5 vendor.toNat ++ fixedDigits 5 product.toNat

def first (code : ManualCode) : Nat :=
  (if code.ids.isSome then 4 else 0) + code.discriminator.toNat / 4

def second (code : ManualCode) : Nat :=
  code.discriminator.toNat % 4 * 2 ^ 14 + code.passcode.toNat % 2 ^ 14

/-- The digits before the check digit. -/
def front (code : ManualCode) : List Digit :=
  fixedDigits 1 code.first ++ (fixedDigits 5 code.second ++
    (fixedDigits 4 (code.passcode.toNat / 2 ^ 14) ++ code.idDigits))

end ManualCode

def ManualCode.layout (code : ManualCode) : List Digit := code.front ++ [checkDigit code.front]

theorem checkDigit_spec (digits : List Digit) :
    verhoeffValidate (digits ++ [checkDigit digits]) = true := by
  obtain ⟨check, accepted, -⟩ := existsUnique_verhoeff digits
  have found : ((List.finRange 10).find? fun check =>
      verhoeffValidate (digits ++ [check])).isSome := by
    rw [find?_isSome]
    exact ⟨check, mem_finRange check, accepted⟩
  obtain ⟨digit, finds⟩ := Option.isSome_iff_exists.mp found
  rw [checkDigit, finds, Option.getD_some]
  exact find?_some (p := fun check => verhoeffValidate (digits ++ [check])) finds

theorem eq_checkDigit {check : Digit} (accepted : verhoeffValidate (digits ++ [check]) = true) :
    check = checkDigit digits :=
  (existsUnique_verhoeff digits).unique accepted (checkDigit_spec digits)

theorem slice_start {last : Nat} {front : List Digit} (length : front.length = last)
    (back : List Digit) : slice 0 last (front ++ back) = front := by
  rw [slice, drop_zero, take_left' length]

theorem slice_skip {skipped : Nat} {front : List Digit} (length : front.length = skipped)
    (first last : Nat) (back : List Digit) :
    slice (skipped + first) (skipped + last) (front ++ back) = slice first last back := by
  subst length
  rw [slice, slice, take_length_add_append, drop_length_add_append]

theorem slice_append_slice {first middle last : Nat} (front : first ≤ middle)
    (back : middle ≤ last) (digits : List Digit) :
    slice first middle digits ++ slice middle last digits = slice first last digits := by
  have whole := take_append_drop (middle - first) (slice first last digits)
  have start : (slice first last digits).take (middle - first) = slice first middle digits := by
    rw [slice, slice, take_drop, take_take, Nat.add_sub_cancel' front, Nat.min_eq_left back]
  have rest : (slice first last digits).drop (middle - first) = slice middle last digits := by
    rw [slice, slice, drop_drop, Nat.add_sub_cancel' front]
  rwa [start, rest] at whole

namespace ManualCode

variable (code : ManualCode)

theorem first_lt : code.first < 2 ^ 3 := by
  have disc := code.discriminator.isLt
  rw [first]
  split <;> omega

theorem second_lt : code.second < 2 ^ 16 := by
  rw [second]
  omega

theorem length_idDigits : code.idDigits.length = if code.ids.isSome then 10 else 0 := by
  rcases ids : code.ids with _ | ⟨vendor, product⟩
  · rw [idDigits, ids]
    rfl
  · rw [idDigits, ids]
    simp [length_fixedDigits]

theorem length_layout : code.layout.length = if code.ids.isSome then 21 else 11 := by
  simp only [layout, front, length_append, length_fixedDigits, length_idDigits, length_singleton]
  split <;> rfl

theorem layout_eq :
    code.layout = fixedDigits 1 code.first ++ (fixedDigits 5 code.second ++
      (fixedDigits 4 (code.passcode.toNat / 2 ^ 14) ++
        (code.idDigits ++ [checkDigit code.front]))) := by
  rw [layout]
  conv_lhs =>
    arg 1
    rw [front]
  simp

theorem firstGroup_layout : firstGroup code.layout = code.first := by
  have small := code.first_lt
  rw [firstGroup, layout_eq, slice_start (length_fixedDigits _ _), numberOf_fixedDigits]
  omega

theorem secondGroup_layout : secondGroup code.layout = code.second := by
  have small := code.second_lt
  rw [secondGroup, layout_eq, slice_skip (length_fixedDigits 1 _) 0 5,
    slice_start (length_fixedDigits _ _), numberOf_fixedDigits]
  omega

theorem thirdGroup_layout : thirdGroup code.layout = code.passcode.toNat / 2 ^ 14 := by
  have small := code.passcode.isLt
  rw [thirdGroup, layout_eq, slice_skip (length_fixedDigits 1 _) 5 9, slice_skip (length_fixedDigits
    5 _) 0 4, slice_start (length_fixedDigits _ _), numberOf_fixedDigits]
  omega

theorem slice_layout (first last : Nat) :
    slice (10 + first) (10 + last) code.layout =
      slice first last (code.idDigits ++ [checkDigit code.front]) := by
  rw [layout_eq, show 10 + first = 1 + (5 + (4 + first)) by omega,
    show 10 + last = 1 + (5 + (4 + last)) by omega, slice_skip (length_fixedDigits 1 _),
    slice_skip (length_fixedDigits 5 _), slice_skip (length_fixedDigits 4 _)]

theorem idGroups_layout {vendor product : BitVec 16} (ids : code.ids = some (vendor, product)) :
    vendorGroup code.layout = vendor.toNat ∧ productGroup code.layout = product.toNat := by
  have vendorSmall := vendor.isLt
  have productSmall := product.isLt
  have digits : code.idDigits = fixedDigits 5 vendor.toNat ++ fixedDigits 5 product.toNat := by
    rw [idDigits, ids]
  constructor
  · rw [vendorGroup, code.slice_layout 0 5, digits, append_assoc,
      slice_start (length_fixedDigits _ _), numberOf_fixedDigits]
    omega
  · rw [productGroup, code.slice_layout 5 10, digits, append_assoc, slice_skip (length_fixedDigits 5
      _) 0 5, slice_start (length_fixedDigits _ _), numberOf_fixedDigits]
    omega

theorem passcodeGroups_layout : passcodeGroups code.layout = code.passcode.toNat := by
  rw [passcodeGroups, secondGroup_layout, thirdGroup_layout, second]
  omega

theorem length_layout_eq_iff : code.layout.length = 21 ↔ code.ids.isSome := by
  rw [length_layout]
  split
  · exact iff_of_true rfl ‹_›
  · exact iff_of_false (by decide) ‹_›

theorem groupsInRange_layout : GroupsInRange code.layout where
  first := by
    rw [firstGroup_layout]
    exact code.first_lt
  second := by
    rw [secondGroup_layout]
    exact code.second_lt
  vendor long := by
    obtain ⟨⟨vendor, product⟩, ids⟩ :=
      Option.isSome_iff_exists.mp (code.length_layout_eq_iff.mp long)
    rw [(code.idGroups_layout ids).1]
    exact vendor.isLt
  product long := by
    obtain ⟨⟨vendor, product⟩, ids⟩ :=
      Option.isSome_iff_exists.mp (code.length_layout_eq_iff.mp long)
    rw [(code.idGroups_layout ids).2]
    exact product.isLt

theorem passesChecks_layout : PassesChecks code.layout where
  length := by
    rw [length_layout]
    split
    · exact .inr rfl
    · exact .inl rfl
  check := checkDigit_spec code.front
  third := by
    have small := code.passcode.isLt
    rw [thirdGroup_layout]
    omega
  flag := by
    have disc := code.discriminator.isLt
    rw [firstGroup_layout, length_layout_eq_iff, first]
    split
    · exact iff_of_true (by omega) ‹_›
    · exact iff_of_false (by omega) ‹_›
  passcode := by
    rw [passcodeGroups_layout]
    exact code.allowed

theorem groupsPayload_layout : groupsPayload code.layout = code.payload := by
  have disc := code.discriminator.isLt
  have discriminator : code.first % 4 * 4 + code.second / 2 ^ 14 % 4 =
      code.discriminator.toNat := by
    rw [first, second]
    split <;> omega
  rw [groupsPayload, payload, firstGroup_layout, secondGroup_layout, discriminator,
    passcodeGroups_layout]
  rcases ids : code.ids with _ | ⟨vendor, product⟩
  · have short : ¬code.layout.length = 21 := by
      rw [length_layout_eq_iff, ids]
      decide
    rw [if_neg short, if_neg short]
    rfl
  · have long : code.layout.length = 21 := by
      rw [length_layout_eq_iff, ids]
      rfl
    rw [if_pos long, if_pos long, (code.idGroups_layout ids).1, (code.idGroups_layout ids).2]
    rfl

end ManualCode

theorem fixedDigits_slice (first count : Nat) (within : first + count ≤ digits.length) :
    fixedDigits count (numberOf (slice first (first + count) digits)) =
      slice first (first + count) digits := by
  refine fixedDigits_numberOf ?_
  rw [length_slice, Nat.min_eq_left within, Nat.add_sub_cancel_left]

theorem layout_eq_of_groups {code : ManualCode} (ids : Nat) (length : digits.length = 11 + ids)
    (check : verhoeffValidate digits = true) (first : code.first = firstGroup digits)
    (second : code.second = secondGroup digits)
    (third : code.passcode.toNat / 2 ^ 14 = thirdGroup digits)
    (idDigits : code.idDigits = slice 10 (10 + ids) digits) : code.layout = digits := by
  have front : code.front = digits.take (10 + ids) := by
    have start : digits.take (10 + ids) = slice 0 (10 + ids) digits := by
      rw [slice, drop_zero]
    rw [ManualCode.front, first, second, third, idDigits, firstGroup, secondGroup, thirdGroup,
      fixedDigits_slice 0 1 (by omega), fixedDigits_slice 1 5 (by omega), fixedDigits_slice 6 4 (by
      omega), start, slice_append_slice (by omega) (by omega), slice_append_slice (by omega) (by
      omega), slice_append_slice (by omega) (by omega)]
  obtain ⟨last, rest⟩ := List.length_eq_one_iff.mp
    (show (digits.drop (10 + ids)).length = 1 by rw [length_drop]; omega)
  have split := take_append_drop (10 + ids) digits
  rw [rest, ← front] at split
  rw [← split] at check
  rw [ManualCode.layout, ← eq_checkDigit check, split]

/-- The code of the fields that accepted digits have, with some ids. -/
def codeOfGroups (digits : List Digit) (ids : Option (BitVec 16 × BitVec 16))
    (allowed : assertPasscode (BitVec.ofNat 27 (passcodeGroups digits)).toNat = .ok ()) :
    ManualCode where
  discriminator := BitVec.ofNat 4 (firstGroup digits % 4 * 4 + secondGroup digits / 2 ^ 14)
  passcode := BitVec.ofNat 27 (passcodeGroups digits)
  ids := ids
  allowed := allowed

def idsOfGroups (digits : List Digit) : BitVec 16 × BitVec 16 :=
  (BitVec.ofNat 16 (vendorGroup digits), BitVec.ofNat 16 (productGroup digits))

section Groups

variable (checks : PassesChecks digits) (inRange : GroupsInRange digits)
include checks

theorem toNat_passcodeGroups :
    (BitVec.ofNat 27 (passcodeGroups digits)).toNat = passcodeGroups digits := by
  have third := checks.third
  rw [BitVec.toNat_ofNat, passcodeGroups]
  omega

theorem allowed_passcodeGroups :
    assertPasscode (BitVec.ofNat 27 (passcodeGroups digits)).toNat = .ok () := by
  rw [toNat_passcodeGroups checks]
  exact checks.passcode

theorem third_codeOfGroups (ids : Option (BitVec 16 × BitVec 16)) :
    (codeOfGroups digits ids (allowed_passcodeGroups checks)).passcode.toNat / 2 ^ 14 =
      thirdGroup digits := by
  rw [codeOfGroups, toNat_passcodeGroups checks, passcodeGroups]
  omega

include inRange

theorem discriminator_codeOfGroups (ids : Option (BitVec 16 × BitVec 16)) :
    (codeOfGroups digits ids (allowed_passcodeGroups checks)).discriminator.toNat =
      firstGroup digits % 4 * 4 + secondGroup digits / 2 ^ 14 := by
  have second := inRange.second
  rw [codeOfGroups, BitVec.toNat_ofNat]
  omega

theorem first_codeOfGroups {ids : Option (BitVec 16 × BitVec 16)}
    (long : ids.isSome = true ↔ digits.length = 21) :
    (codeOfGroups digits ids (allowed_passcodeGroups checks)).first = firstGroup digits := by
  have first := inRange.first
  have second := inRange.second
  have flag := checks.flag.trans long.symm
  rw [ManualCode.first, discriminator_codeOfGroups checks inRange, codeOfGroups]
  split
  · have one := flag.mpr ‹_›
    omega
  · have zero := mt flag.mp ‹_›
    omega

theorem second_codeOfGroups (ids : Option (BitVec 16 × BitVec 16)) :
    (codeOfGroups digits ids (allowed_passcodeGroups checks)).second = secondGroup digits := by
  have second := inRange.second
  rw [ManualCode.second, discriminator_codeOfGroups checks inRange, codeOfGroups,
    toNat_passcodeGroups checks, passcodeGroups]
  omega

theorem exists_layout : ∃ code : ManualCode, code.layout = digits := by
  rcases checks.length with short | long
  · have flag : (none : Option (BitVec 16 × BitVec 16)).isSome = true ↔ digits.length = 21 :=
      iff_of_false (by decide) (by omega)
    refine ⟨codeOfGroups digits none (allowed_passcodeGroups checks), ?_⟩
    refine layout_eq_of_groups 0 short checks.check (first_codeOfGroups checks inRange flag)
      (second_codeOfGroups checks inRange _) (third_codeOfGroups checks _) ?_
    rw [slice, Nat.add_zero, drop_take_self]
    rfl
  · have flag : (some (idsOfGroups digits)).isSome = true ↔ digits.length = 21 :=
      iff_of_true rfl long
    have vendor : (BitVec.ofNat 16 (vendorGroup digits)).toNat = vendorGroup digits :=
      BitVec.toNat_ofNat _ _ ▸ mod_eq_of_lt (inRange.vendor long)
    have product : (BitVec.ofNat 16 (productGroup digits)).toNat = productGroup digits :=
      BitVec.toNat_ofNat _ _ ▸ mod_eq_of_lt (inRange.product long)
    refine ⟨codeOfGroups digits (some (idsOfGroups digits)) (allowed_passcodeGroups checks), ?_⟩
    refine layout_eq_of_groups 10 long checks.check (first_codeOfGroups checks inRange flag)
      (second_codeOfGroups checks inRange _) (third_codeOfGroups checks _) ?_
    have split := slice_append_slice (show 10 ≤ 15 by decide) (show 15 ≤ 20 by decide) digits
    rw [ManualCode.idDigits, codeOfGroups, idsOfGroups, ← split]
    dsimp only
    rw [vendor, product, vendorGroup, productGroup, fixedDigits_slice 10 5 (by omega),
      fixedDigits_slice 15 5 (by omega)]

end Groups

theorem parseManualPairingCode_eq_ok_iff {input : String} {payload : MatterOnboardingPayload} :
    parseManualPairingCode input = .ok payload ↔
      ∃ digits, digitsOf input = some digits ∧ PassesChecks digits ∧
        groupsPayload digits = payload := by
  rw [parseManualPairingCode]
  rcases given : digitsOf input with _ | _ | ⟨digit, rest⟩
  · exact ⟨fun ok => (nomatch ok), fun ⟨_, found, _⟩ => (nomatch found)⟩
  · refine ⟨fun ok => (nomatch ok), fun ⟨digits, same, checks, _⟩ => ?_⟩
    cases same
    rcases checks.length with short | long
    · cases short
    · cases long
  · dsimp only
    rw [parseDigits_eq_ok_iff]
    constructor
    · exact fun ok => ⟨_, rfl, ok⟩
    · rintro ⟨digits, same, ok⟩
      rwa [some.inj same]

theorem ManualCode.payload_injective : Function.Injective ManualCode.payload := by
  rintro ⟨leftDisc, leftPass, leftIds, leftAllowed⟩ ⟨rightDisc, rightPass, rightIds,
    rightAllowed⟩ same
  have disc : leftDisc = rightDisc := by
    have values := congrArg MatterOnboardingPayload.discriminator same
    exact BitVec.eq_of_toNat_eq (eq_of_mul_eq_mul_right (by decide) values)
  have pass : leftPass = rightPass :=
    BitVec.eq_of_toNat_eq (congrArg MatterOnboardingPayload.passcode same)
  have vendors := congrArg MatterOnboardingPayload.vendorId same
  have products := congrArg MatterOnboardingPayload.productId same
  have ids : leftIds = rightIds := by
    cases leftIds with
    | none =>
      cases rightIds with
      | none => rfl
      | some ids => cases vendors
    | some ids =>
      cases rightIds with
      | none => cases vendors
      | some others =>
        have vendor := BitVec.eq_of_toNat_eq (some.inj vendors)
        have product := BitVec.eq_of_toNat_eq (some.inj products)
        rw [Prod.ext vendor product]
  subst disc pass ids
  rfl

/--
An input whose digits are the code of some fields is decoded to them, and one
that is accepted is the code of what it was decoded to.
-/
structure DecodesExactly (input : String) : Prop where
  written : ∀ code : ManualCode, digitsOf input = some code.layout →
    parseManualPairingCode input = .ok code.payload
  read : ∀ payload, parseManualPairingCode input = .ok payload →
    ∃ code : ManualCode, digitsOf input = some code.layout ∧ code.payload = payload

def GroupsFit (input : String) : Prop :=
  ∀ digits, digitsOf input = some digits → PassesChecks digits → GroupsInRange digits

theorem decodesExactly_iff (input : String) : DecodesExactly input ↔ GroupsFit input := by
  constructor
  · intro exact digits given checks
    obtain ⟨code, same, -⟩ := exact.read _
      (parseManualPairingCode_eq_ok_iff.mpr ⟨digits, given, checks, rfl⟩)
    cases given.symm.trans same
    exact code.groupsInRange_layout
  · intro fit
    refine ⟨fun code given => ?_, fun payload ok => ?_⟩
    · exact parseManualPairingCode_eq_ok_iff.mpr
        ⟨_, given, code.passesChecks_layout, code.groupsPayload_layout⟩
    · obtain ⟨digits, given, checks, rfl⟩ := parseManualPairingCode_eq_ok_iff.mp ok
      obtain ⟨code, rfl⟩ := exists_layout checks (fit digits given checks)
      exact ⟨code, given, code.groupsPayload_layout.symm⟩

def textOf (digits : List Digit) : String :=
  String.ofList (digits.map fun digit => digit.val.digitChar)

theorem digitsOf_textOf (digits : List Digit) : digitsOf (textOf digits) = some digits := by
  have plain : ∀ digit : Digit, (!(isStrippedSpace digit.val.digitChar ||
      digit.val.digitChar = '-')) = true := by decide
  have reads : ∀ digit : Digit, digitOf digit.val.digitChar = some digit := by decide
  have kept : (digits.map fun digit => digit.val.digitChar).filter
      (fun char => !(isStrippedSpace char || char = '-')) =
        digits.map fun digit => digit.val.digitChar := by
    rw [filter_eq_self]
    intro char member
    obtain ⟨digit, -, rfl⟩ := mem_map.mp member
    exact plain digit
  rw [digitsOf, textOf, String.toList_ofList, kept]
  clear kept
  induction digits with
  | nil => rfl
  | cons digit rest ih =>
    rw [map_cons, mapM_cons, reads, ih]
    rfl

/--
Which inputs are decoded exactly, among them all texts of digits, and that no
two of them with different digits have one payload.
-/
theorem manualCodes_exact_iff (input : String) :
    (DecodesExactly input ↔ GroupsFit input) ∧ (∀ digits, digitsOf (textOf digits) = some digits) ∧
      ∀ other payload, GroupsFit input → GroupsFit other →
        parseManualPairingCode input = .ok payload →
        parseManualPairingCode other = .ok payload → digitsOf input = digitsOf other := by
  refine ⟨decodesExactly_iff input, digitsOf_textOf, ?_⟩
  intro other payload inputFits otherFits inputOk otherOk
  obtain ⟨code, inputDigits, inputPayload⟩ :=
    ((decodesExactly_iff input).mpr inputFits).read _ inputOk
  obtain ⟨another, otherDigits, otherPayload⟩ :=
    ((decodesExactly_iff other).mpr otherFits).read _ otherOk
  rw [inputDigits, otherDigits, ManualCode.payload_injective (inputPayload.trans otherPayload.symm)]

/-- A first digit that no bits stand for is read as another one. -/
theorem eight_is_masked :
    (parseManualPairingCode "84970112331").map (·.passcode) = .ok 20202021 ∧
      parseManualPairingCode "84970112331" = parseManualPairingCode "04970112335" ∧
      ¬DecodesExactly "84970112331" := by
  have accepted : (parseManualPairingCode "84970112331").map (·.passcode) = .ok 20202021 := by
    decide +kernel
  refine ⟨accepted, by decide +kernel, fun exact => ?_⟩
  cases ok : parseManualPairingCode "84970112331" with
  | error error =>
    rw [ok] at accepted
    cases accepted
  | ok payload =>
    obtain ⟨code, given, -⟩ := exact.read payload ok
    have digits : digitsOf "84970112331" = some [8, 4, 9, 7, 0, 1, 1, 2, 3, 3, 1] := by
      decide +kernel
    have first := code.groupsInRange_layout.first
    rw [← some.inj (digits.symm.trans given)] at first
    exact absurd first (by decide)

end SupremeOs.Protocols.MatterPairing
