import Mathlib.Data.Int.Log
import Mathlib.Data.List.TakeWhile
import Mathlib.Data.Rat.Floor

/-!
# Script values

Capability states are open records whose fields hold arbitrary values of the
script language, and comparators compare such values with `===` or after the
conversion `Number(value)`.  This file gives the values and the two operations.

Numbers are the extended reals a double can hold; zero has one sign here,
because neither `===` nor an order comparison tells the two zeros apart.
-/

namespace SupremeOs.DomainModel

open List Nat

inductive JsNumber where
  | notANumber
  | negativeInfinity
  | finite (value : ℚ)
  | positiveInfinity
deriving DecidableEq

inductive JsPrimitive where
  | undefined
  | null
  | boolean (value : Bool)
  | number (value : JsNumber)
  | text (value : String)
deriving DecidableEq

inductive JsValue where
  | primitive (value : JsPrimitive)
  | object (identity : Nat) (toPrimitive : JsPrimitive)
deriving DecidableEq

def JsValue.asText : JsValue → Option String
  | .primitive (.text value) => some value
  | _ => none

/-- The nearest double, ties to even. -/
def roundToDouble (value : ℚ) : JsNumber :=
  if value = 0 then .finite 0
  else
    let step : ℤ := max (Int.log 2 |value| - 52) (-1074)
    let scaled : ℚ := |value| / (2 : ℚ) ^ step
    let below : ℤ := ⌊scaled⌋
    let excess : ℚ := scaled - below
    let rounded : ℤ :=
      if excess < 1 / 2 then below
      else if 1 / 2 < excess then below + 1
      else if below % 2 = 0 then below
      else below + 1
    let magnitude : ℚ := rounded * (2 : ℚ) ^ step
    if (2 : ℚ) ^ 1024 ≤ magnitude then
      if value < 0 then .negativeInfinity else .positiveInfinity
    else .finite (if value < 0 then -magnitude else magnitude)

/-- Integers of at most 53 bits are doubles. -/
theorem roundToDouble_intCast {value : ℤ} (small : value.natAbs < 2 ^ 53) :
    roundToDouble value = .finite value := by
  by_cases zero : value = 0
  · simp [roundToDouble, zero]
  have nonzero : (value : ℚ) ≠ 0 := Int.cast_ne_zero.mpr zero
  have magnitude : |(value : ℚ)| = (value.natAbs : ℚ) := by
    rw [← Int.cast_abs, Int.abs_eq_natAbs, Int.cast_natCast]
  have log : Int.log 2 |(value : ℚ)| ≤ 52 := by
    rw [magnitude, Int.log_natCast]
    have bound : Nat.log 2 value.natAbs < 53 := log_lt_of_lt_pow (by omega) small
    omega
  obtain ⟨shift, step⟩ : ∃ shift : ℕ, max (Int.log 2 |(value : ℚ)| - 52) (-1074) = -(shift : ℤ) :=
    ⟨(-max (Int.log 2 |(value : ℚ)| - 52) (-1074)).toNat, by omega⟩
  have scaled : |(value : ℚ)| / (2 : ℚ) ^ (-(shift : ℤ)) =
      ((value.natAbs * 2 ^ shift : ℤ) : ℚ) := by
    rw [magnitude, zpow_neg, div_inv_eq_mul, zpow_natCast]
    simp
  have back : ((value.natAbs * 2 ^ shift : ℤ) : ℚ) * (2 : ℚ) ^ (-(shift : ℤ)) =
      |(value : ℚ)| := by
    rw [← scaled, div_mul_cancel₀]
    exact zpow_ne_zero _ two_ne_zero
  have finite : ¬ (2 : ℚ) ^ 1024 ≤ |(value : ℚ)| := by
    rw [not_le, magnitude]
    calc ((value.natAbs : ℕ) : ℚ) < (2 : ℚ) ^ 53 := by exact_mod_cast small
      _ ≤ (2 : ℚ) ^ 1024 := pow_le_pow_right₀ one_le_two (by decide)
  have whole : (0 : ℚ) < 1 / 2 := by norm_num
  unfold roundToDouble
  simp only [if_neg nonzero, step, scaled, Int.floor_intCast, sub_self, if_pos whole, back,
    if_neg finite]
  split
  · rename_i negative
    rw [abs_of_neg negative, neg_neg]
  · rename_i nonnegative
    rw [abs_of_nonneg (not_lt.mp nonnegative)]

theorem roundToDouble_natCast {value : Nat} (safe : value < 2 ^ 53) :
    roundToDouble (value : ℚ) = .finite (value : ℚ) := by
  have cast : ((value : ℤ) : ℚ) = (value : ℚ) := Int.cast_natCast value
  rw [← cast, roundToDouble_intCast (by simpa using safe)]

/-- The value of a digit in bases up to sixteen. -/
def digitValue (digit : Char) : Option Nat :=
  if '0' ≤ digit ∧ digit ≤ '9' then some (digit.toNat - '0'.toNat)
  else if 'a' ≤ digit ∧ digit ≤ 'f' then some (digit.toNat - 'a'.toNat + 10)
  else if 'A' ≤ digit ∧ digit ≤ 'F' then some (digit.toNat - 'A'.toNat + 10)
  else none

/-- Read all characters as digits of a base. -/
def digitsValue (base : Nat) : Nat → List Char → Option Nat
  | value, [] => some value
  | value, digit :: rest =>
    match digitValue digit with
    | none => none
    | some next =>
      if next < base then digitsValue base (value * base + next) rest else none

/-- The exponent part of a decimal literal; an empty text is exponent zero. -/
def exponentValue : List Char → Option ℤ
  | [] => some 0
  | mark :: rest =>
    if mark = 'e' ∨ mark = 'E' then
      match rest with
      | [] => none
      | '+' :: [] => none
      | '-' :: [] => none
      | '+' :: digits => (digitsValue 10 0 digits).map Int.ofNat
      | '-' :: digits => (digitsValue 10 0 digits).map fun value => -Int.ofNat value
      | digits => (digitsValue 10 0 digits).map Int.ofNat
    else none

def isDecimalDigit (character : Char) : Bool :=
  decide ('0' ≤ character ∧ character ≤ '9')

def unsignedDecimalValue (text : List Char) : Option ℚ :=
  let whole := text.takeWhile isDecimalDigit
  let afterWhole := text.dropWhile isDecimalDigit
  let (fraction, afterFraction) :=
    match afterWhole with
    | '.' :: rest => (rest.takeWhile isDecimalDigit, rest.dropWhile isDecimalDigit)
    | rest => ([], rest)
  if whole ++ fraction = [] then none
  else
    match digitsValue 10 0 (whole ++ fraction), exponentValue afterFraction with
    | some digits, some exponent =>
      some (digits * (10 : ℚ) ^ (exponent - Int.ofNat fraction.length))
    | _, _ => none

/-- White space and line terminators, which the conversion strips at both ends. -/
def isStrippedSpace (character : Char) : Bool :=
  [0x9, 0xA, 0xB, 0xC, 0xD, 0x20, 0xA0, 0x1680, 0x2028, 0x2029, 0x202F, 0x205F,
    0x3000, 0xFEFF].contains character.toNat ||
  decide (0x2000 ≤ character.toNat ∧ character.toNat ≤ 0x200A)

def stripSpaces (text : List Char) : List Char :=
  ((text.dropWhile isStrippedSpace).reverse.dropWhile isStrippedSpace).reverse

/-- `Number(text)` for a text. -/
def textToNumber (text : String) : JsNumber :=
  let prefixed (base : Nat) (digits : List Char) : JsNumber :=
    match digits, digitsValue base 0 digits with
    | _ :: _, some value => roundToDouble value
    | _, _ => .notANumber
  let decimal (sign : ℚ) (infinity : JsNumber) (literal : List Char) : JsNumber :=
    if literal = "Infinity".toList then infinity
    else
      match unsignedDecimalValue literal with
      | some value => roundToDouble (sign * value)
      | none => .notANumber
  match stripSpaces text.toList with
  | [] => .finite 0
  | '0' :: 'x' :: digits => prefixed 16 digits
  | '0' :: 'X' :: digits => prefixed 16 digits
  | '0' :: 'o' :: digits => prefixed 8 digits
  | '0' :: 'O' :: digits => prefixed 8 digits
  | '0' :: 'b' :: digits => prefixed 2 digits
  | '0' :: 'B' :: digits => prefixed 2 digits
  | '+' :: literal => decimal 1 .positiveInfinity literal
  | '-' :: literal => decimal (-1) .negativeInfinity literal
  | literal => decimal 1 .positiveInfinity literal

example : textToNumber " 21.5 " = .finite (43 / 2) := by decide +kernel

def JsPrimitive.toNumber : JsPrimitive → JsNumber
  | .undefined => .notANumber
  | .null => .finite 0
  | .boolean value => .finite (if value then 1 else 0)
  | .number value => value
  | .text value => textToNumber value

/-- `Number(value)`. -/
def JsValue.toNumber : JsValue → JsNumber
  | .primitive value => value.toNumber
  | .object _ value => value.toNumber

def isDigitOf (base : Nat) (character : Char) : Bool :=
  (digitValue character).any fun value => value < base

/-- A text without the mark of hexadecimal digits, if they are expected. -/
def unmarked (radix : Nat) : List Char → List Char
  | '0' :: 'x' :: digits => if radix = 16 then digits else '0' :: 'x' :: digits
  | '0' :: 'X' :: digits => if radix = 16 then digits else '0' :: 'X' :: digits
  | digits => digits

def leadingInteger (radix : Nat) (sign : ℤ) (text : List Char) : JsNumber :=
  match (unmarked radix text).takeWhile (isDigitOf radix) with
  | [] => .notANumber
  | digits =>
    match digitsValue radix 0 digits with
    | some value => roundToDouble ((sign * value : ℤ) : ℚ)
    | none => .notANumber

/-- `parseInt(text, radix)` for the radixes ten and sixteen. -/
def parseInt (radix : Nat) (text : List Char) : JsNumber :=
  match text.dropWhile isStrippedSpace with
  | '-' :: rest => leadingInteger radix (-1) rest
  | '+' :: rest => leadingInteger radix 1 rest
  | rest => leadingInteger radix 1 rest

theorem digitValue_digitChar {value : Nat} (small : value < 16) :
    digitValue value.digitChar = some value := by
  revert value
  decide

theorem digitsValue_append (base value : Nat) (left right : List Char) :
    digitsValue base value (left ++ right) =
      (digitsValue base value left).bind fun middle => digitsValue base middle right := by
  induction left generalizing value with
  | nil => rfl
  | cons digit rest ih =>
    simp only [cons_append, digitsValue]
    cases digitValue digit with
    | none => rfl
    | some next =>
      dsimp only
      split
      · exact ih _
      · rfl

section Digits

variable {base : Nat}

theorem digitsValue_toDigits (large : 1 < base) (small : base ≤ 16) (value : Nat) :
    digitsValue base 0 (Nat.toDigits base value) = some value := by
  induction value using Nat.strongRecOn with
  | ind value ih =>
    rw [toDigits_eq_if large]
    split
    · rename_i below
      simp [digitsValue, digitValue_digitChar (show value < 16 by omega), below]
    · rename_i above
      have smaller : value / base < value := Nat.div_lt_self (by omega) large
      have digit : value % base < base := mod_lt _ (by omega)
      rw [digitsValue_append, ih _ smaller]
      simp [digitsValue, digitValue_digitChar (show value % base < 16 by omega), digit,
        div_add_mod']

theorem forall_mem_toDigits (large : 1 < base) (property : Char → Prop)
    (digits : ∀ number < base, property number.digitChar) (value : Nat) :
    ∀ character ∈ Nat.toDigits base value, property character := by
  induction value using Nat.strongRecOn with
  | ind value ih =>
    intro character member
    rw [toDigits_eq_if large] at member
    split at member
    · rename_i below
      rw [mem_singleton] at member
      exact member ▸ digits value below
    · rename_i above
      rcases mem_append.mp member with front | last
      · exact ih _ (Nat.div_lt_self (by omega) large) character front
      · rw [mem_singleton] at last
        exact last ▸ digits _ (mod_lt _ (by omega))

theorem isDigitOf_of_mem_toDigits (large : 1 < base) (small : base ≤ 16) (value : Nat) :
    ∀ character ∈ Nat.toDigits base value, isDigitOf base character = true := by
  refine forall_mem_toDigits large (fun character => isDigitOf base character = true) ?_ value
  intro number below
  simp [isDigitOf, digitValue_digitChar (show number < 16 by omega), below]

theorem isDigitOf_plain {character : Char} (digit : isDigitOf base character = true) :
    isStrippedSpace character = false ∧ character ≠ '-' ∧ character ≠ '+' ∧
      character ≠ 'x' ∧ character ≠ 'X' := by
  have known : digitValue character ≠ none := by
    intro none
    simp [isDigitOf, none] at digit
  refine ⟨?_, ?_, ?_, ?_, ?_⟩
  · have range : ('0' ≤ character ∧ character ≤ '9') ∨ ('a' ≤ character ∧ character ≤ 'f') ∨
        ('A' ≤ character ∧ character ≤ 'F') := by
      by_contra outside
      simp only [not_or] at outside
      simp [digitValue, outside] at known
    simp only [Char.le_def, UInt32.le_iff_toNat_le] at range
    have value : character.toNat = character.val.toNat := rfl
    simp only [isStrippedSpace, value]
    simp only [Bool.or_eq_false_iff, decide_eq_false_iff_not, contains_eq_mem,
      mem_cons, not_mem_nil, or_false]
    have zero : '0'.val.toNat = 48 := rfl
    have nine : '9'.val.toNat = 57 := rfl
    have a : 'a'.val.toNat = 97 := rfl
    have f : 'f'.val.toNat = 102 := rfl
    have upperA : 'A'.val.toNat = 65 := rfl
    have upperF : 'F'.val.toNat = 70 := rfl
    omega
  all_goals
    rintro rfl
    exact known (by decide)

theorem unmarked_of_digits {text : List Char}
    (digits : ∀ character ∈ text, isDigitOf base character = true) :
    unmarked base text = text := by
  unfold unmarked
  split
  · exact ((isDigitOf_plain (digits 'x' (by simp))).2.2.2.1 rfl).elim
  · exact ((isDigitOf_plain (digits 'X' (by simp))).2.2.2.2 rfl).elim
  · rfl

theorem parseInt_toDigits (large : 1 < base) (small : base ≤ 16) {value : Nat}
    (safe : value < 2 ^ 53) :
    parseInt base (Nat.toDigits base value) = .finite (value : ℚ) := by
  have digits := isDigitOf_of_mem_toDigits large small value
  have integer : leadingInteger base 1 (Nat.toDigits base value) = .finite (value : ℚ) := by
    have cast : (((1 : ℤ) * value : ℤ) : ℚ) = (value : ℚ) := by push_cast; ring
    rw [leadingInteger, unmarked_of_digits digits, takeWhile_eq_self_iff.mpr digits]
    split
    · rename_i none
      exact (toDigits_ne_nil none).elim
    · rw [digitsValue_toDigits large small]
      dsimp only
      rw [roundToDouble_intCast (by omega), cast]
  have visible : (Nat.toDigits base value).dropWhile isStrippedSpace = Nat.toDigits base value := by
    cases text : Nat.toDigits base value with
    | nil => rfl
    | cons first rest =>
      rw [text] at digits
      rw [dropWhile_cons, (isDigitOf_plain (digits first (.head _))).1]
      rfl
  rw [parseInt, visible]
  split
  · rename_i rest minus
    rw [minus] at digits
    exact ((isDigitOf_plain (digits '-' mem_cons_self)).2.1 rfl).elim
  · rename_i rest plus
    rw [plus] at digits
    exact ((isDigitOf_plain (digits '+' mem_cons_self)).2.2.1 rfl).elim
  · exact integer

end Digits

/-- `left < right` on numbers; false as soon as one of them is not a number. -/
def JsNumber.less : JsNumber → JsNumber → Bool
  | .notANumber, _ => false
  | _, .notANumber => false
  | _, .negativeInfinity => false
  | .negativeInfinity, _ => true
  | .positiveInfinity, _ => false
  | _, .positiveInfinity => true
  | .finite left, .finite right => decide (left < right)

/-- `left === right` on numbers. -/
def JsNumber.strictEquals (left right : JsNumber) : Bool :=
  decide (left ≠ .notANumber ∧ left = right)

/-- `left <= right` on numbers. -/
def JsNumber.lessOrEqual (left right : JsNumber) : Bool :=
  left.less right || left.strictEquals right

theorem JsNumber.less_of_not_lessOrEqual {left right : JsNumber} (leftNumber : left ≠ .notANumber)
    (rightNumber : right ≠ .notANumber) (above : left.lessOrEqual right = false) :
    right.less left = true := by
  cases left <;> cases right <;>
    simp_all [JsNumber.lessOrEqual, JsNumber.less, JsNumber.strictEquals]
  exact lt_of_le_of_ne above.1 (Ne.symm above.2)

theorem JsNumber.less_trans {left middle right : JsNumber} (first : left.less middle = true)
    (second : middle.less right = true) : left.less right = true := by
  cases left <;> cases middle <;> cases right <;> simp_all [JsNumber.less]
  exact lt_trans first second

theorem JsNumber.less_irrefl (number : JsNumber) : ¬number.less number = true := by
  cases number <;> simp [JsNumber.less]

theorem JsNumber.less_asymm {left right : JsNumber} (below : left.less right = true) :
    right.less left = false :=
  Bool.eq_false_iff.mpr fun above => JsNumber.less_irrefl left (JsNumber.less_trans below above)

/-- `left === right`. -/
def JsValue.strictEquals : JsValue → JsValue → Bool
  | .primitive (.number left), .primitive (.number right) => left.strictEquals right
  | .primitive left, .primitive right => decide (left = right)
  | .object left _, .object right _ => decide (left = right)
  | _, _ => false

/--
The significant digits of a positive double and the position of its decimal
point: the fewest digits that determine it, the closest such if there are more.
-/
def significantDigits (value : ℚ) : Nat × ℤ :=
  let position : ℤ := Int.log 10 value + 1
  let candidates (count : Nat) : List (Nat × ℤ) :=
    let scaled : ℚ := value * (10 : ℚ) ^ ((count : ℤ) - position)
    [(⌊scaled⌋.toNat, position), (⌈scaled⌉.toNat, position), (10 ^ (count - 1), position + 1)]
  let error (count : Nat) (candidate : Nat × ℤ) : ℚ :=
    |candidate.1 * (10 : ℚ) ^ (candidate.2 - count) - value|
  let fits (count : Nat) (candidate : Nat × ℤ) : Bool :=
    decide (10 ^ (count - 1) ≤ candidate.1 ∧ candidate.1 < 10 ^ count) &&
      decide (roundToDouble (candidate.1 * (10 : ℚ) ^ (candidate.2 - count)) =
        .finite value)
  let closest (count : Nat) : Option (Nat × ℤ) :=
    ((candidates count).filter (fits count)).foldl
      (fun best candidate =>
        match best with
        | none => some candidate
        | some other =>
          if error count candidate < error count other then some candidate
          else some other)
      none
  ((List.range 17).findSome? fun index => closest (index + 1)).getD (0, 0)

/-- `String(value)` for a positive finite number. -/
def positiveToText (value : ℚ) : String :=
  let (digits, position) := significantDigits value
  let text := (toString digits).toList
  let count : ℤ := text.length
  let zeros (amount : ℤ) : List Char := List.replicate amount.toNat '0'
  if count ≤ position ∧ position ≤ 21 then
    String.ofList (text ++ zeros (position - count))
  else if 0 < position ∧ position ≤ 21 then
    String.ofList (text.take position.toNat) ++ "." ++ String.ofList (text.drop position.toNat)
  else if -6 < position ∧ position ≤ 0 then
    "0." ++ String.ofList (zeros (-position) ++ text)
  else
    let exponent := position - 1
    let mantissa :=
      if text.length = 1 then String.ofList text
      else String.ofList (text.take 1) ++ "." ++ String.ofList (text.drop 1)
    mantissa ++ (if exponent < 0 then "e-" else "e+") ++ toString exponent.natAbs

/-- `JSON.stringify(value)` for a number. -/
def JsNumber.json : JsNumber → String
  | .finite value =>
    if value = 0 then "0"
    else if value < 0 then "-" ++ positiveToText (-value)
    else positiveToText value
  | _ => "null"

/-- `String(value)`. -/
def JsNumber.toText : JsNumber → String
  | .notANumber => "NaN"
  | .negativeInfinity => "-Infinity"
  | .positiveInfinity => "Infinity"
  | .finite value => (JsNumber.finite value).json

@[inherit_doc JsNumber.toText]
def JsPrimitive.toText : JsPrimitive → String
  | .undefined => "undefined"
  | .null => "null"
  | .boolean value => if value then "true" else "false"
  | .number value => value.toText
  | .text value => value

@[inherit_doc JsNumber.toText]
def JsValue.toText : JsValue → String
  | .primitive value => value.toText
  | .object _ toPrimitive => toPrimitive.toText

def hexDigit (value : Nat) : Char :=
  if value < 10 then Char.ofNat ('0'.toNat + value) else Char.ofNat ('a'.toNat + value - 10)

/-- A character inside a quoted text. -/
def jsonCharacter (character : Char) : String :=
  match character.toNat with
  | 0x22 => "\\\""
  | 0x5C => "\\\\"
  | 0x08 => "\\b"
  | 0x0C => "\\f"
  | 0x0A => "\\n"
  | 0x0D => "\\r"
  | 0x09 => "\\t"
  | code =>
    if code < 0x20 then
      "\\u00" ++ String.ofList [hexDigit (code / 16), hexDigit (code % 16)]
    else character.toString

/-- `JSON.stringify(value)`; for `undefined` the text that a template prints instead. -/
def JsPrimitive.json : JsPrimitive → String
  | .undefined => "undefined"
  | .null => "null"
  | .boolean value => if value then "true" else "false"
  | .number value => value.json
  | .text value =>
    "\"" ++ String.join (value.toList.map jsonCharacter) ++ "\""

example : (JsNumber.finite (43 / 2)).json = "21.5" := by decide +kernel

/-- `text.startsWith(head)`. -/
def startsWith (text head : String) : Bool := head.toList.isPrefixOf text.toList

theorem append_separator_injective {separator : Char} {left right leftRest rightRest : List Char}
    (leftPlain : separator ∉ left) (rightPlain : separator ∉ right)
    (equal : left ++ separator :: leftRest = right ++ separator :: rightRest) :
    left = right ∧ leftRest = rightRest := by
  induction left generalizing right with
  | nil =>
    cases right with
    | nil => simpa using equal
    | cons head tail =>
      simp only [nil_append, cons_append, List.cons.injEq] at equal
      simp [← equal.1] at rightPlain
  | cons head tail ih =>
    cases right with
    | nil =>
      simp only [nil_append, cons_append, List.cons.injEq] at equal
      simp [equal.1] at leftPlain
    | cons rightHead rightTail =>
      simp only [cons_append, List.cons.injEq] at equal
      simp only [mem_cons, not_or] at leftPlain rightPlain
      rcases ih leftPlain.2 rightPlain.2 equal.2 with ⟨tails, rests⟩
      exact ⟨by rw [equal.1, tails], rests⟩

theorem not_mem_decimal {character : Char} (other : character.isDigit = false) (value : Nat) :
    character ∉ (toString value).toList := by
  intro member
  rw [toString_eq_repr, toList_repr] at member
  have digit := isDigit_of_mem_toDigits (by decide) (by decide) member
  rw [other] at digit
  exact Bool.noConfusion digit

theorem append_decimal_injective (separator : Char) (other : separator.isDigit = false)
    {left right : List Char} {leftValue rightValue : Nat}
    (equal : left ++ separator :: (toString leftValue).toList =
      right ++ separator :: (toString rightValue).toList) :
    left = right := by
  have reversed := congrArg List.reverse equal
  simp only [reverse_append, reverse_cons, append_assoc, cons_append, nil_append] at reversed
  have texts := (append_separator_injective (by simpa using not_mem_decimal other leftValue)
    (by simpa using not_mem_decimal other rightValue) reversed).2
  exact reverse_injective texts

/-- `-number`. -/
def JsNumber.negate : JsNumber → JsNumber
  | .notANumber => .notANumber
  | .negativeInfinity => .positiveInfinity
  | .finite value => .finite (-value)
  | .positiveInfinity => .negativeInfinity

/-- `left + right`. -/
def JsNumber.add : JsNumber → JsNumber → JsNumber
  | .notANumber, _ | _, .notANumber => .notANumber
  | .positiveInfinity, .negativeInfinity | .negativeInfinity, .positiveInfinity => .notANumber
  | .positiveInfinity, _ | _, .positiveInfinity => .positiveInfinity
  | .negativeInfinity, _ | _, .negativeInfinity => .negativeInfinity
  | .finite left, .finite right => roundToDouble (left + right)

/-- `left - right`. -/
def JsNumber.subtract (left right : JsNumber) : JsNumber := left.add right.negate

/-- An infinite product with a factor, by the sign of the factor. -/
def JsNumber.infinityTimes : JsNumber → JsNumber
  | .notANumber => .notANumber
  | .negativeInfinity => .negativeInfinity
  | .finite value =>
    if value = 0 then .notANumber
    else if 0 < value then .positiveInfinity
    else .negativeInfinity
  | .positiveInfinity => .positiveInfinity

/-- `left * right`. -/
def JsNumber.multiply : JsNumber → JsNumber → JsNumber
  | .finite left, .finite right => roundToDouble (left * right)
  | .positiveInfinity, right => right.infinityTimes
  | left, .positiveInfinity => left.infinityTimes
  | .negativeInfinity, right => right.infinityTimes.negate
  | left, .negativeInfinity => left.infinityTimes.negate
  | .notANumber, .notANumber | .notANumber, .finite _ | .finite _, .notANumber => .notANumber

/-- `number / divisor` for a positive divisor. -/
def JsNumber.divideBy (number : JsNumber) (divisor : ℚ) : JsNumber :=
  match number with
  | .finite value => roundToDouble (value / divisor)
  | .notANumber | .negativeInfinity | .positiveInfinity => number

/-- `Math.max(left, right)`. -/
def JsNumber.max (left right : JsNumber) : JsNumber :=
  if left = .notANumber ∨ right = .notANumber then .notANumber
  else if left.less right then right
  else left

/-- `Math.min(left, right)`. -/
def JsNumber.min (left right : JsNumber) : JsNumber :=
  if left = .notANumber ∨ right = .notANumber then .notANumber
  else if right.less left then right
  else left

end SupremeOs.DomainModel
