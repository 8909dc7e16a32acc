import SupremeOs.DomainModel.Json
import SupremeOs.DomainModel.JsValue
import Mathlib.Tactic.IntervalCases

/-!
# JSON values as texts

`JSON.stringify` for the values that can be written.  A text followed by a
delimiter determines the value, with its members in their order, and what
follows.
-/

namespace SupremeOs.DomainModel

open List

/-- The number of a positive integer's digits without the zeros at the end. -/
def JsonNumber.ofNat (value : Nat) : JsonNumber :=
  let digits := Nat.toDigits 10 value
  let kept := (digits.reverse.dropWhile (· = '0')).reverse
  match digitsValue 10 0 kept with
  | some number =>
    if trimmed : number % 10 ≠ 0 then .nonzero false ⟨number, trimmed⟩ digits.length else .zero
  | none => .zero

def decimalText (digits : List Char) (point : Int) : List Char :=
  let zeros (amount : Int) : List Char := List.replicate amount.toNat '0'
  if (digits.length : Int) ≤ point ∧ point ≤ 21 then digits ++ zeros (point - digits.length)
  else if 0 < point ∧ point ≤ 21 then
    digits.take point.toNat ++ '.' :: digits.drop point.toNat
  else if -6 < point ∧ point ≤ 0 then '0' :: '.' :: (zeros (-point) ++ digits)
  else
    let mantissa :=
      match digits with
      | first :: second :: rest => first :: '.' :: second :: rest
      | single => single
    let exponent := point - 1
    mantissa ++ 'e' :: (if exponent < 0 then '-' else '+') :: Nat.toDigits 10 exponent.natAbs

def JsonNumber.text : JsonNumber → List Char
  | .zero => ['0']
  | .nonzero negative digits point =>
    (if negative then ['-'] else []) ++ decimalText (Nat.toDigits 10 digits.value) point

/-- The digits before an exponent, with the point left out. -/
def mantissaDigits (text : List Char) : List Char :=
  (text.takeWhile (· != 'e')).filter (· != '.')

/-- How many digits stand between the point and an exponent. -/
def fractionLength (text : List Char) : Nat :=
  ((text.takeWhile (· != 'e')).dropWhile (· != '.')).length - 1

/-- The exponent of a text that begins with its mark, or is empty. -/
def signedExponent : List Char → Int
  | _ :: '-' :: digits => -((digitsValue 10 0 digits).getD 0 : Int)
  | _ :: _ :: digits => ((digitsValue 10 0 digits).getD 0 : Int)
  | _ => 0

/-- A whole number and the power of ten that it is multiplied by. -/
def reading (text : List Char) : Option Nat × Int :=
  (digitsValue 10 0 (mantissaDigits text),
    signedExponent (text.dropWhile (· != 'e')) - fractionLength text)

section Reading

theorem plain_of_mem_toDigits {value : Nat} {character : Char}
    (member : character ∈ Nat.toDigits 10 value) :
    (character != 'e') = true ∧ (character != '.') = true ∧ character ≠ '-' :=
  forall_mem_toDigits (by decide)
    (fun character => (character != 'e') = true ∧ (character != '.') = true ∧ character ≠ '-')
    (by decide) value character member

theorem digitsValue_zeros (value count : Nat) :
    digitsValue 10 value (List.replicate count '0') = some (value * 10 ^ count) := by
  induction count generalizing value with
  | zero => simp [digitsValue]
  | succ count ih =>
    have zero : digitValue '0' = some 0 := by decide
    rw [replicate_succ, digitsValue, zero]
    simp only [Nat.zero_lt_succ, if_true, Nat.add_zero]
    rw [ih, Nat.pow_succ]
    congr 1
    ring

theorem reading_append {mantissa exponent : List Char}
    (plain : ∀ character ∈ mantissa, (character != 'e') = true)
    (marked : exponent = [] ∨ ∃ rest, exponent = 'e' :: rest) :
    reading (mantissa ++ exponent) = (digitsValue 10 0 (mantissa.filter (· != '.')),
        signedExponent exponent - ((mantissa.dropWhile (· != '.')).length - 1 : Nat)) := by
  have before : (mantissa ++ exponent).takeWhile (· != 'e') = mantissa := by
    rw [takeWhile_append_of_pos plain]
    rcases marked with rfl | ⟨rest, rfl⟩ <;> simp
  have after : (mantissa ++ exponent).dropWhile (· != 'e') = exponent := by
    rw [dropWhile_append_of_pos plain]
    rcases marked with rfl | ⟨rest, rfl⟩ <;> simp
  rw [reading, mantissaDigits, fractionLength, before, after]

theorem reading_mantissa {mantissa : List Char}
    (plain : ∀ character ∈ mantissa, (character != 'e') = true) :
    reading mantissa = (digitsValue 10 0 (mantissa.filter (· != '.')),
        -(((mantissa.dropWhile (· != '.')).length - 1 : Nat) : Int)) := by
  have read := reading_append plain (.inl rfl)
  have none : signedExponent [] = 0 := rfl
  rwa [append_nil, none, Int.zero_sub] at read

theorem point_plain {whole fraction : List Char}
    (left : ∀ character ∈ whole, (character != 'e') = true)
    (right : ∀ character ∈ fraction, (character != 'e') = true) :
    ∀ character ∈ whole ++ '.' :: fraction, (character != 'e') = true := by
  intro character member
  simp only [mem_append, mem_cons] at member
  rcases member with before | rfl | after
  · exact left character before
  · decide
  · exact right character after

theorem filter_point {whole fraction : List Char}
    (left : ∀ character ∈ whole, (character != '.') = true)
    (right : ∀ character ∈ fraction, (character != '.') = true) :
    (whole ++ '.' :: fraction).filter (· != '.') = whole ++ fraction := by
  rw [filter_append, filter_eq_self.mpr left, filter_cons_of_neg (by decide),
    filter_eq_self.mpr right]

theorem dropWhile_point {whole fraction : List Char}
    (left : ∀ character ∈ whole, (character != '.') = true) :
    (whole ++ '.' :: fraction).dropWhile (· != '.') = '.' :: fraction := by
  rw [dropWhile_append_of_pos left]
  simp

theorem signedExponent_mark (exponent : Int) :
    signedExponent ('e' :: (if exponent < 0 then '-' else '+') ::
      Nat.toDigits 10 exponent.natAbs) = exponent := by
  have value := @digitsValue_toDigits 10 (by decide) (by decide) exponent.natAbs
  split
  · rw [signedExponent, value, Option.getD_some]
    omega
  · rw [signedExponent, value, Option.getD_some]
    · omega
    · simp

end Reading

theorem reading_decimalText (value : Nat) (point : Int) :
    ∃ zeros : Nat, reading (decimalText (Nat.toDigits 10 value) point) =
      (some (value * 10 ^ zeros), point - (Nat.toDigits 10 value).length - zeros) := by
  have digits : ∀ character ∈ Nat.toDigits 10 value,
      (character != 'e') = true ∧ (character != '.') = true ∧ character ≠ '-' :=
    fun character => plain_of_mem_toDigits
  have nonempty := @Nat.toDigits_ne_nil value 10
  have number := @digitsValue_toDigits 10 (by decide) (by decide) value
  have zero : ∀ count, ∀ character ∈ List.replicate count '0',
      (character != 'e') = true ∧ (character != '.') = true := by
    intro count character member
    rw [eq_of_mem_replicate member]
    decide
  generalize Nat.toDigits 10 value = text at digits nonempty number
  unfold decimalText
  split
  · rename_i whole
    refine ⟨(point - text.length).toNat, ?_⟩
    have plain : ∀ character ∈ text ++ List.replicate (point - text.length).toNat '0',
        (character != 'e') = true ∧ (character != '.') = true := by
      intro character member
      rcases mem_append.mp member with digit | padding
      · exact ⟨(digits character digit).1, (digits character digit).2.1⟩
      · exact zero _ character padding
    rw [reading_mantissa fun character member => (plain character member).1,
      filter_eq_self.mpr fun character member => (plain character member).2,
      dropWhile_eq_nil_iff.mpr fun character member => (plain character member).2,
      digitsValue_append, number]
    simp only [Option.bind_some, digitsValue_zeros, length_nil]
    congr 1
    omega
  · split
    · rename_i notWhole inside
      refine ⟨0, ?_⟩
      have left : ∀ character ∈ text.take point.toNat,
          (character != 'e') = true ∧ (character != '.') = true := fun character member =>
        have digit := digits character (mem_of_mem_take member)
        ⟨digit.1, digit.2.1⟩
      have right : ∀ character ∈ text.drop point.toNat,
          (character != 'e') = true ∧ (character != '.') = true := fun character member =>
        have digit := digits character (mem_of_mem_drop member)
        ⟨digit.1, digit.2.1⟩
      rw [reading_mantissa (point_plain (fun c m => (left c m).1) fun c m => (right c m).1),
        filter_point (fun c m => (left c m).2) fun c m => (right c m).2,
        dropWhile_point fun c m => (left c m).2, take_append_drop, number]
      simp only [length_cons, length_drop, Nat.pow_zero, Nat.mul_one]
      congr 1
      omega
    · split
      · rename_i small
        refine ⟨0, ?_⟩
        have left : ∀ character ∈ ['0'],
            (character != 'e') = true ∧ (character != '.') = true := by simp
        have right : ∀ character ∈ List.replicate (-point).toNat '0' ++ text,
            (character != 'e') = true ∧ (character != '.') = true := by
          intro character member
          rcases mem_append.mp member with padding | digit
          · exact zero _ character padding
          · exact ⟨(digits character digit).1, (digits character digit).2.1⟩
        have leading : digitsValue 10 0
            (['0'] ++ (List.replicate (-point).toNat '0' ++ text)) = some value := by
          rw [← append_assoc, singleton_append, ← replicate_succ,
            digitsValue_append, digitsValue_zeros, Nat.zero_mul]
          exact number
        have read := reading_mantissa
          (point_plain (fun c m => (left c m).1) fun c m => (right c m).1)
        rw [filter_point (fun c m => (left c m).2) fun c m => (right c m).2,
          dropWhile_point fun c m => (left c m).2, leading] at read
        refine read.trans ?_
        simp only [length_cons, length_append, length_replicate, Nat.pow_zero, Nat.mul_one]
        congr 1
        omega
      · rename_i large
        refine ⟨0, ?_⟩
        have exponent := signedExponent_mark (point - 1)
        rcases text with _ | ⟨first, _ | ⟨second, rest⟩⟩
        · exact (nonempty rfl).elim
        · have plain := digits first (by simp)
          rw [reading_append (by simpa using plain.1) (.inr ⟨_, rfl⟩), exponent, filter_eq_self.mpr
            (by simpa using plain.2.1), dropWhile_eq_nil_iff.mpr (by simpa using plain.2.1), number]
          simp
        · have left : ∀ character ∈ [first],
              (character != 'e') = true ∧ (character != '.') = true := by
            intro character member
            rw [mem_singleton] at member
            have digit := digits first (.head _)
            exact ⟨member ▸ digit.1, member ▸ digit.2.1⟩
          have right : ∀ character ∈ second :: rest,
              (character != 'e') = true ∧ (character != '.') = true := fun character member =>
            have digit := digits character (.tail _ member)
            ⟨digit.1, digit.2.1⟩
          have read := reading_append
            (point_plain (fun c m => (left c m).1) fun c m => (right c m).1)
            (.inr ⟨(if point - 1 < 0 then '-' else '+') :: Nat.toDigits 10 (point - 1).natAbs, rfl⟩)
          rw [exponent, filter_point (fun c m => (left c m).2) fun c m => (right c m).2,
            dropWhile_point fun c m => (left c m).2] at read
          refine read.trans ?_
          rw [singleton_append, number]
          simp only [length_cons, Nat.pow_zero, Nat.mul_one]
          congr 1
          omega

def isNumberChar (character : Char) : Bool :=
  character.isDigit || ['.', 'e', '+', '-'].contains character

theorem isNumberChar_of_mem_toDigits {value : Nat} {character : Char}
    (member : character ∈ Nat.toDigits 10 value) : isNumberChar character = true :=
  forall_mem_toDigits (by decide) (fun character => isNumberChar character = true) (by decide)
    value character member

theorem decimalText_chars (value : Nat) (point : Int) :
    (∀ character ∈ decimalText (Nat.toDigits 10 value) point, isNumberChar character = true) ∧
      ∃ first rest, decimalText (Nat.toDigits 10 value) point = first :: rest ∧ first ≠ '-' := by
  have digits : ∀ character ∈ Nat.toDigits 10 value,
      isNumberChar character = true ∧ character ≠ '-' := fun character member =>
    ⟨isNumberChar_of_mem_toDigits member, (plain_of_mem_toDigits member).2.2⟩
  have nonempty := @Nat.toDigits_ne_nil value 10
  have zeros : ∀ count, ∀ character ∈ List.replicate count '0', isNumberChar character = true := by
    intro count character member
    rw [eq_of_mem_replicate member]
    decide
  generalize Nat.toDigits 10 value = text at digits nonempty
  rcases text with _ | ⟨first, rest⟩
  · exact (nonempty rfl).elim
  · have start := digits first (.head _)
    have tail : ∀ character ∈ rest, isNumberChar character = true :=
      fun character member => (digits character (.tail _ member)).1
    unfold decimalText
    split
    · refine ⟨?_, first, _, rfl, start.2⟩
      intro character member
      rcases mem_append.mp member with digit | padding
      · exact (digits character digit).1
      · exact zeros _ character padding
    · split
      · rename_i inside
        refine ⟨?_, first, (rest.take (point.toNat - 1)) ++ '.' :: (first :: rest).drop point.toNat,
          ?_, start.2⟩
        · intro character member
          simp only [mem_append, mem_cons] at member
          rcases member with before | rfl | after
          · exact (digits character (mem_of_mem_take before)).1
          · decide
          · exact (digits character (mem_of_mem_drop after)).1
        · obtain ⟨count, positive⟩ : ∃ count, point.toNat = count + 1 :=
            ⟨point.toNat - 1, by omega⟩
          simp [positive]
      · split
        · refine ⟨?_, '0', _, rfl, by decide⟩
          intro character member
          simp only [mem_cons, mem_append] at member
          rcases member with rfl | rfl | padding | digit
          · decide
          · decide
          · exact zeros _ character padding
          · exact (digits character (mem_cons.mpr digit)).1
        · have exponent : ∀ character ∈ 'e' :: (if point - 1 < 0 then '-' else '+') ::
              Nat.toDigits 10 (point - 1).natAbs, isNumberChar character = true := by
            intro character member
            simp only [mem_cons] at member
            rcases member with rfl | rfl | digit
            · decide
            · split <;> decide
            · exact isNumberChar_of_mem_toDigits digit
          rcases rest with _ | ⟨second, others⟩
          · refine ⟨?_, first, _, rfl, start.2⟩
            intro character member
            rcases mem_cons.mp member with rfl | after
            · exact start.1
            · exact exponent character after
          · refine ⟨?_, first, _, rfl, start.2⟩
            intro character member
            rcases mem_append.mp member with before | after
            · simp only [mem_cons] at before
              rcases before with rfl | rfl | other
              · exact start.1
              · decide
              · exact tail character (mem_cons.mpr other)
            · exact exponent character after

theorem trimmed_unique {left right : Significand} {leftZeros rightZeros : Nat}
    (equal : left.value * 10 ^ leftZeros = right.value * 10 ^ rightZeros) :
    left = right ∧ leftZeros = rightZeros := by
  have same : leftZeros = rightZeros := by
    rcases Nat.lt_trichotomy leftZeros rightZeros with less | equal | greater
    · obtain ⟨more, rfl⟩ : ∃ more, rightZeros = leftZeros + 1 + more :=
        ⟨rightZeros - leftZeros - 1, by omega⟩
      have value : left.value = right.value * 10 ^ more * 10 := by
        apply Nat.eq_of_mul_eq_mul_right (@Nat.pow_pos 10 leftZeros (by decide))
        rw [equal, Nat.pow_add, Nat.pow_succ]
        ring
      exact (left.trimmed (by omega)).elim
    · exact equal
    · obtain ⟨more, rfl⟩ : ∃ more, leftZeros = rightZeros + 1 + more :=
        ⟨leftZeros - rightZeros - 1, by omega⟩
      have value : right.value = left.value * 10 ^ more * 10 := by
        apply Nat.eq_of_mul_eq_mul_right (@Nat.pow_pos 10 rightZeros (by decide))
        rw [← equal, Nat.pow_add, Nat.pow_succ]
        ring
      exact (right.trimmed (by omega)).elim
  subst same
  refine ⟨?_, rfl⟩
  have values := Nat.eq_of_mul_eq_mul_right (Nat.pow_pos (by decide)) equal
  rcases left with ⟨leftValue, _⟩
  rcases right with ⟨rightValue, _⟩
  simpa using values

theorem decimalText_injective {left right : Significand} {leftPoint rightPoint : Int}
    (equal : decimalText (Nat.toDigits 10 left.value) leftPoint =
      decimalText (Nat.toDigits 10 right.value) rightPoint) :
    left = right ∧ leftPoint = rightPoint := by
  rcases reading_decimalText left.value leftPoint with ⟨leftZeros, leftRead⟩
  rcases reading_decimalText right.value rightPoint with ⟨rightZeros, rightRead⟩
  rw [equal, rightRead, Prod.mk.injEq, Option.some.injEq] at leftRead
  rcases trimmed_unique leftRead.1.symm with ⟨rfl, rfl⟩
  exact ⟨rfl, by omega⟩

theorem JsonNumber.text_chars (number : JsonNumber) :
    (∀ character ∈ number.text, isNumberChar character = true) ∧
      ∃ first rest, number.text = first :: rest := by
  cases number with
  | zero => exact ⟨by simp [JsonNumber.text, isNumberChar], '0', [], rfl⟩
  | nonzero negative digits point =>
    rcases decimalText_chars digits.value point with ⟨chars, first, rest, start, _⟩
    cases negative with
    | false => exact ⟨chars, first, rest, start⟩
    | true =>
      refine ⟨?_, '-', _, rfl⟩
      intro character member
      rcases mem_cons.mp member with rfl | after
      · decide
      · exact chars character after

theorem decimalText_ne_zero (digits : Significand) (point : Int) :
    decimalText (Nat.toDigits 10 digits.value) point ≠ ['0'] := by
  intro equal
  rcases reading_decimalText digits.value point with ⟨zeros, read⟩
  have zero : reading ['0'] = (some 0, 0) := by decide
  rw [equal, zero, Prod.mk.injEq, Option.some.injEq] at read
  rcases Nat.mul_eq_zero.mp read.1.symm with none | power
  · exact digits.trimmed (by rw [none])
  · exact (Nat.pow_pos (by decide : 0 < 10)).ne' power

theorem JsonNumber.text_injective {left right : JsonNumber}
    (equal : left.text = right.text) : left = right := by
  cases left with
  | zero =>
    cases right with
    | zero => rfl
    | nonzero negative digits point =>
      cases negative with
      | false => exact (decimalText_ne_zero digits point equal.symm).elim
      | true => simp [JsonNumber.text] at equal
  | nonzero negative digits point =>
    rcases decimalText_chars digits.value point with ⟨_, first, rest, start, noSign⟩
    cases right with
    | zero =>
      cases negative with
      | false => exact (decimalText_ne_zero digits point equal).elim
      | true => simp [JsonNumber.text] at equal
    | nonzero otherNegative otherDigits otherPoint =>
      rcases decimalText_chars otherDigits.value otherPoint with
        ⟨_, otherFirst, otherRest, otherStart, noOtherSign⟩
      cases negative <;> cases otherNegative
      · rcases decimalText_injective equal with ⟨rfl, rfl⟩
        rfl
      · simp only [JsonNumber.text, start, Bool.false_eq_true, if_false, if_true,
          nil_append, cons_append, List.cons.injEq] at equal
        exact (noSign equal.1).elim
      · simp only [JsonNumber.text, otherStart, Bool.false_eq_true, if_false, if_true,
          nil_append, cons_append, List.cons.injEq] at equal
        exact (noOtherSign equal.1.symm).elim
      · simp only [JsonNumber.text, if_true, cons_append, nil_append,
          List.cons.injEq, true_and] at equal
        rcases decimalText_injective equal with ⟨rfl, rfl⟩
        rfl

/-- A character between quotation marks. -/
def escaped (character : Char) : List Char := (jsonCharacter character).toList

def quoted (value : String) : List Char :=
  '"' :: (value.toList.flatMap escaped ++ ['"'])

/-- The character that a mark after a backslash stands for. -/
def shortEscape : Char → Option Char
  | '"' => some '"'
  | '\\' => some '\\'
  | 'b' => some (Char.ofNat 8)
  | 'f' => some (Char.ofNat 12)
  | 'n' => some '\n'
  | 'r' => some '\r'
  | 't' => some '\t'
  | _ => none

/-- The first character between quotation marks, and what follows it. -/
def unescape : List Char → Option (Char × List Char)
  | '\\' :: 'u' :: _ :: _ :: high :: low :: rest =>
    (digitsValue 16 0 [high, low]).map fun code => (Char.ofNat code, rest)
  | '\\' :: mark :: rest => (shortEscape mark).map fun character => (character, rest)
  | '"' :: _ => none
  | character :: rest => some (character, rest)
  | [] => none

theorem unescape_control (rest : List Char) {code : Nat} (control : code < 32) :
    unescape (escaped (Char.ofNat code) ++ rest) = some (Char.ofNat code, rest) := by
  interval_cases code <;> rfl

theorem unescape_escaped (character : Char) (rest : List Char) :
    unescape (escaped character ++ rest) = some (character, rest) := by
  by_cases control : character.toNat < 32
  · have known := unescape_control rest control
    rwa [Char.ofNat_toNat] at known
  · by_cases quote : character = '"'
    · subst quote
      rfl
    · by_cases backslash : character = '\\'
      · subst backslash
        rfl
      · have code : character.toNat ≠ 0x22 ∧ character.toNat ≠ 0x5C := by
          constructor
          · intro same
            exact quote (by rw [← Char.ofNat_toNat character, same])
          · intro same
            exact backslash (by rw [← Char.ofNat_toNat character, same])
        have plain : escaped character = [character] := by
          unfold escaped jsonCharacter
          split <;> first | omega | skip
          rw [if_neg control]
          simp [Char.toString]
        simp [plain, unescape, backslash]

variable {leftRest rightRest : List Char}

theorem quoted_append_injective {left right : List Char}
    (equal : left.flatMap escaped ++ '"' :: leftRest = right.flatMap escaped ++ '"' :: rightRest) :
    left = right ∧ leftRest = rightRest := by
  induction left generalizing right with
  | nil =>
    cases right with
    | nil => simpa using equal
    | cons character rest =>
      have first := congrArg unescape equal
      rw [flatMap_cons, append_assoc, unescape_escaped] at first
      simp [unescape] at first
  | cons character rest ih =>
    cases right with
    | nil =>
      have first := congrArg unescape equal
      rw [flatMap_cons, append_assoc, unescape_escaped] at first
      simp [unescape] at first
    | cons other otherRest =>
      have first := congrArg unescape equal
      rw [flatMap_cons, flatMap_cons, append_assoc, append_assoc,
        unescape_escaped, unescape_escaped, Option.some.injEq, Prod.mk.injEq] at first
      rcases ih first.2 with ⟨texts, rests⟩
      exact ⟨by rw [first.1, texts], rests⟩

theorem quoted_injective {left right : String}
    (equal : quoted left ++ leftRest = quoted right ++ rightRest) :
    left = right ∧ leftRest = rightRest := by
  simp only [quoted, cons_append, List.cons.injEq, true_and, append_assoc, nil_append] at equal
  rcases quoted_append_injective equal with ⟨texts, rests⟩
  exact ⟨String.toList_injective texts, rests⟩

mutual

/-- `JSON.stringify(value)`. -/
def Json.stringify : Json → List Char
  | .null => "null".toList
  | .boolean true => "true".toList
  | .boolean false => "false".toList
  | .number value => value.text
  | .text value => quoted value
  | .array [] => ['[', ']']
  | .array (item :: items) => '[' :: (item.stringify ++ stringifyItems items)
  | .object [] => ['\x7b', '\x7d']
  | .object ((name, value) :: members) =>
    '\x7b' :: (quoted name ++ ':' :: (value.stringify ++ stringifyMembers members))

def stringifyItems : List Json → List Char
  | [] => [']']
  | item :: items => ',' :: (item.stringify ++ stringifyItems items)

def stringifyMembers : List (String × Json) → List Char
  | [] => ['\x7d']
  | (name, value) :: members =>
    ',' :: (quoted name ++ ':' :: (value.stringify ++ stringifyMembers members))

end

/-- What follows a value does not go on with it. -/
def Delimited (rest : List Char) : Prop :=
  ∀ character ∈ rest.head?, isNumberChar character = false

theorem delimited_items (items : List Json) (rest : List Char) :
    Delimited (stringifyItems items ++ rest) := by
  cases items <;> simp [Delimited, stringifyItems, isNumberChar]

theorem delimited_members (members : List (String × Json)) (rest : List Char) :
    Delimited (stringifyMembers members ++ rest) := by
  cases members <;> simp [Delimited, stringifyMembers, isNumberChar]

/-- What a text with a first character is the text of. -/
inductive JsonKind where
  | null
  | boolean
  | number
  | text
  | array
  | object

def Json.kind : Json → JsonKind
  | .null => .null
  | .boolean _ => .boolean
  | .number _ => .number
  | .text _ => .text
  | .array _ => .array
  | .object _ => .object

def kindOfFirst (character : Char) : JsonKind :=
  if character = 'n' then .null
  else if character = 't' ∨ character = 'f' then .boolean
  else if character = '"' then .text
  else if character = '[' then .array
  else if character = '\x7b' then .object
  else .number

theorem kindOfFirst_of_isNumberChar {character : Char}
    (plain : isNumberChar character = true) : kindOfFirst character = .number := by
  unfold kindOfFirst
  split
  · subst character
    cases plain
  · split
    · rename_i letter
      rcases letter with rfl | rfl <;> cases plain
    · split
      · subst character
        cases plain
      · split
        · subst character
          cases plain
        · split
          · subst character
            cases plain
          · rfl

theorem kindOfFirst_stringify (value : Json) :
    ∃ first rest, value.stringify = first :: rest ∧ kindOfFirst first = value.kind ∧
      first ≠ ']' := by
  cases value with
  | null => exact ⟨_, _, rfl, rfl, by decide⟩
  | boolean value => cases value <;> exact ⟨_, _, rfl, rfl, by decide⟩
  | number value =>
    rcases value.text_chars with ⟨chars, first, rest, start⟩
    have plain := chars first (by rw [start]; exact .head _)
    refine ⟨first, rest, start, kindOfFirst_of_isNumberChar plain, ?_⟩
    rintro rfl
    cases plain
  | text value => exact ⟨_, _, rfl, rfl, by decide⟩
  | array items => cases items <;> exact ⟨_, _, rfl, rfl, by decide⟩
  | object members =>
    cases members with
    | nil => exact ⟨_, _, rfl, rfl, by decide⟩
    | cons member rest => exact ⟨_, _, rfl, rfl, by decide⟩

theorem kind_eq_of_stringify {left right : Json}
    (equal : left.stringify ++ leftRest = right.stringify ++ rightRest) :
    left.kind = right.kind := by
  rcases kindOfFirst_stringify left with ⟨first, rest, start, kind, _⟩
  rcases kindOfFirst_stringify right with ⟨other, otherRest, otherStart, otherKind, _⟩
  rw [start, otherStart, cons_append, cons_append, List.cons.injEq] at equal
  rw [← kind, ← otherKind, equal.1]

theorem stringify_ne_close (value : Json) (rest after : List Char) :
    value.stringify ++ rest ≠ ']' :: after := by
  intro equal
  rcases kindOfFirst_stringify value with ⟨first, others, start, _, noClose⟩
  rw [start, cons_append, List.cons.injEq] at equal
  exact noClose equal.1

theorem number_append_injective {left right : JsonNumber}
    (leftEnd : Delimited leftRest) (rightEnd : Delimited rightRest)
    (equal : left.text ++ leftRest = right.text ++ rightRest) :
    left = right ∧ leftRest = rightRest := by
  have taken : ∀ {number : JsonNumber} {rest : List Char}, Delimited rest →
      (number.text ++ rest).takeWhile isNumberChar = number.text := by
    intro number rest ends
    rw [takeWhile_append_of_pos number.text_chars.1]
    cases rest with
    | nil => simp
    | cons first others =>
      have stops : isNumberChar first = false := ends first rfl
      simp [stops]
  have texts := congrArg (List.takeWhile isNumberChar) equal
  rw [taken leftEnd, taken rightEnd] at texts
  rw [texts, append_cancel_left_eq] at equal
  exact ⟨JsonNumber.text_injective texts, equal⟩

mutual

/-- A value and what follows it are determined by the text. -/
theorem stringify_append_injective (left right : Json) (leftRest rightRest : List Char)
    (leftEnd : Delimited leftRest) (rightEnd : Delimited rightRest)
    (equal : left.stringify ++ leftRest = right.stringify ++ rightRest) :
    left = right ∧ leftRest = rightRest := by
  have kinds := kind_eq_of_stringify equal
  match left with
  | .null =>
    cases right <;> cases kinds
    simpa [Json.stringify] using equal
  | .boolean value =>
    cases right with
    | boolean other =>
      cases value <;> cases other <;> simp [Json.stringify] at equal ⊢
      · exact equal
      · exact equal
    | _ => cases kinds
  | .number value =>
    cases right with
    | number other =>
      simp only [Json.stringify] at equal
      rcases number_append_injective leftEnd rightEnd equal with ⟨rfl, rests⟩
      exact ⟨rfl, rests⟩
    | _ => cases kinds
  | .text value =>
    cases right with
    | text other =>
      simp only [Json.stringify] at equal
      rcases quoted_injective equal with ⟨rfl, rests⟩
      exact ⟨rfl, rests⟩
    | _ => cases kinds
  | .array [] =>
    cases right with
    | array others =>
      cases others with
      | nil =>
        simp only [Json.stringify, cons_append, nil_append, List.cons.injEq, true_and] at equal
        exact ⟨rfl, equal⟩
      | cons other others =>
        simp only [Json.stringify, cons_append, nil_append, List.cons.injEq,
          true_and, append_assoc] at equal
        exact (stringify_ne_close other _ _ equal.symm).elim
    | _ => cases kinds
  | .array (item :: items) =>
    cases right with
    | array others =>
      cases others with
      | nil =>
        simp only [Json.stringify, cons_append, nil_append, List.cons.injEq,
          true_and, append_assoc] at equal
        exact (stringify_ne_close item _ _ equal).elim
      | cons other others =>
        simp only [Json.stringify, cons_append, List.cons.injEq, true_and, append_assoc] at equal
        rcases stringify_append_injective item other _ _ (delimited_items items leftRest)
          (delimited_items others rightRest) equal with ⟨rfl, tails⟩
        rcases stringifyItems_append_injective items others _ _ tails with ⟨rfl, rests⟩
        exact ⟨rfl, rests⟩
    | _ => cases kinds
  | .object [] =>
    cases right with
    | object others =>
      cases others with
      | nil =>
        simp only [Json.stringify, cons_append, nil_append, List.cons.injEq, true_and] at equal
        exact ⟨rfl, equal⟩
      | cons other others => simp [Json.stringify, quoted] at equal
    | _ => cases kinds
  | .object ((name, value) :: members) =>
    cases right with
    | object others =>
      cases others with
      | nil => simp [Json.stringify, quoted] at equal
      | cons other others =>
        rcases other with ⟨otherName, other⟩
        simp only [Json.stringify, cons_append, List.cons.injEq, true_and, append_assoc] at equal
        rcases quoted_injective equal with ⟨rfl, values⟩
        rw [List.cons.injEq] at values
        rcases stringify_append_injective value other _ _
          (delimited_members members leftRest) (delimited_members others rightRest)
          values.2 with ⟨rfl, tails⟩
        rcases stringifyMembers_append_injective members others _ _ tails with ⟨rfl, rests⟩
        exact ⟨rfl, rests⟩
    | _ => cases kinds

theorem stringifyItems_append_injective (left right : List Json) (leftRest rightRest : List Char)
    (equal : stringifyItems left ++ leftRest = stringifyItems right ++ rightRest) :
    left = right ∧ leftRest = rightRest := by
  match left with
  | [] =>
    cases right with
    | nil => simpa [stringifyItems] using equal
    | cons other others => simp [stringifyItems] at equal
  | item :: items =>
    cases right with
    | nil => simp [stringifyItems] at equal
    | cons other others =>
      simp only [stringifyItems, cons_append, List.cons.injEq, true_and, append_assoc] at equal
      rcases stringify_append_injective item other _ _ (delimited_items items leftRest)
        (delimited_items others rightRest) equal with ⟨rfl, tails⟩
      rcases stringifyItems_append_injective items others _ _ tails with ⟨rfl, rests⟩
      exact ⟨rfl, rests⟩

theorem stringifyMembers_append_injective (left right : List (String × Json))
    (leftRest rightRest : List Char)
    (equal : stringifyMembers left ++ leftRest = stringifyMembers right ++ rightRest) :
    left = right ∧ leftRest = rightRest := by
  match left with
  | [] =>
    cases right with
    | nil => simpa [stringifyMembers] using equal
    | cons other others => simp [stringifyMembers] at equal
  | (name, value) :: members =>
    cases right with
    | nil => simp [stringifyMembers] at equal
    | cons other others =>
      rcases other with ⟨otherName, other⟩
      simp only [stringifyMembers, cons_append, List.cons.injEq, true_and, append_assoc] at equal
      rcases quoted_injective equal with ⟨rfl, values⟩
      rw [List.cons.injEq] at values
      rcases stringify_append_injective value other _ _
        (delimited_members members leftRest) (delimited_members others rightRest)
        values.2 with ⟨rfl, tails⟩
      rcases stringifyMembers_append_injective members others _ _ tails with ⟨rfl, rests⟩
      exact ⟨rfl, rests⟩

end

theorem stringify_injective {left right : Json} (equal : left.stringify = right.stringify) :
    left = right :=
  (stringify_append_injective left right [] [] (by simp [Delimited]) (by simp [Delimited])
    (by rw [equal])).1

end SupremeOs.DomainModel
