import SupremeOs.DomainModel.CommandSchema
import SupremeOs.DomainModel.JsonText

/-!
# Reading JSON texts

`JSON.parse` on the texts that `JSON.stringify` writes.  A text that is written
otherwise, with white space or with digits that can be left out, is not read.
-/

namespace SupremeOs.DomainModel

open List Option Nat

/-- A number without the zeros at its end, and how many these are. -/
def dropZeros : Nat → Nat → Nat × Nat
  | 0, value => (value, 0)
  | fuel + 1, value =>
    if value % 10 = 0 then
      let (kept, zeros) := dropZeros fuel (value / 10)
      (kept, zeros + 1)
    else (value, 0)

variable {fuel : Nat} {rest : List Char}

theorem dropZeros_mul_pow {value zeros : Nat} (trimmed : value % 10 ≠ 0)
    (enough : zeros ≤ fuel) : dropZeros fuel (value * 10 ^ zeros) = (value, zeros) := by
  induction zeros generalizing fuel with
  | zero =>
    cases fuel with
    | zero => simp [dropZeros]
    | succ fuel => simp [dropZeros, trimmed]
  | succ zeros ih =>
    obtain ⟨less, rfl⟩ : ∃ less, fuel = less + 1 := ⟨fuel - 1, by omega⟩
    have split : value * 10 ^ (zeros + 1) = value * 10 ^ zeros * 10 := by
      rw [Nat.pow_succ, Nat.mul_assoc]
    rw [dropZeros, split, if_pos (mul_mod_left _ _), Nat.mul_div_cancel _ (by decide),
      ih (by omega)]

theorem dropZeros_spec {value : Nat} (positive : 0 < value) (enough : value ≤ fuel) :
    (dropZeros fuel value).1 % 10 ≠ 0 ∧
      (dropZeros fuel value).1 * 10 ^ (dropZeros fuel value).2 = value := by
  induction fuel generalizing value with
  | zero => omega
  | succ fuel ih =>
    rw [dropZeros]
    split
    · rename_i zero
      rcases ih (by omega) (by omega : value / 10 ≤ fuel) with ⟨trimmed, product⟩
      refine ⟨trimmed, ?_⟩
      simp only [Nat.pow_succ, ← Nat.mul_assoc, product]
      omega
    · rename_i trimmed
      exact ⟨trimmed, by simp⟩

def JsonNumber.ofInt (value : Int) : JsonNumber :=
  let kept := dropZeros value.natAbs value.natAbs
  if trimmed : kept.1 % 10 ≠ 0 then
    .nonzero (decide (value < 0)) ⟨kept.1, trimmed⟩ (kept.2 + (Nat.toDigits 10 kept.1).length)
  else .zero

@[simp]
theorem JsonNumber.decimal_ofInt (value : Int) : (JsonNumber.ofInt value).decimal = value := by
  rcases eq_or_ne value 0 with rfl | something
  · rfl
  · rcases dropZeros_spec (Int.natAbs_pos.mpr something) (Nat.le_refl _) with ⟨trimmed, product⟩
    rw [JsonNumber.ofInt]
    simp only [dif_pos trimmed, JsonNumber.decimal, Int.add_sub_cancel, zpow_natCast]
    have absolute : ((dropZeros value.natAbs value.natAbs).1 : ℚ) *
        10 ^ (dropZeros value.natAbs value.natAbs).2 = |value| := by
      have product := congrArg (fun natural : Nat => (natural : ℚ)) product
      push_cast at product
      rw [product, Int.abs_eq_natAbs, Int.cast_natCast]
    rw [mul_assoc, absolute]
    rcases lt_or_ge value 0 with negative | positive
    · simp [negative, abs_of_neg negative]
    · simp [positive.not_gt, abs_of_nonneg positive]

/-- The digits and the place of the point of a number without a sign. -/
def readDigits (text : List Char) : Option (Significand × Int) :=
  match reading text with
  | (some digits, exponent) =>
    let (kept, zeros) := dropZeros digits digits
    if trimmed : kept % 10 ≠ 0 then
      some (⟨kept, trimmed⟩, exponent + zeros + (Nat.toDigits 10 kept).length)
    else none
  | (none, _) => none

def JsonNumber.read : List Char → Option JsonNumber
  | ['0'] => some .zero
  | '-' :: text => (readDigits text).map fun entry => .nonzero true entry.1 entry.2
  | text => (readDigits text).map fun entry => .nonzero false entry.1 entry.2

theorem readDigits_decimalText (digits : Significand) (point : Int) :
    readDigits (decimalText (Nat.toDigits 10 digits.value) point) = some (digits, point) := by
  rcases reading_decimalText digits.value point with ⟨zeros, read⟩
  have enough : zeros ≤ digits.value * 10 ^ zeros := by
    have positive : 0 < digits.value := by
      have trimmed := digits.trimmed
      omega
    calc zeros ≤ 10 ^ zeros := Nat.le_of_lt (Nat.lt_pow_self (by decide))
      _ ≤ digits.value * 10 ^ zeros := Nat.le_mul_of_pos_left _ positive
  rw [readDigits, read]
  simp only [dropZeros_mul_pow digits.trimmed enough, dif_pos digits.trimmed]
  congr 2
  omega

theorem JsonNumber.read_text (number : JsonNumber) : JsonNumber.read number.text = some number := by
  cases number with
  | zero => rfl
  | nonzero negative digits point =>
    cases negative with
    | true =>
      simp only [JsonNumber.text, if_true, singleton_append, JsonNumber.read,
        readDigits_decimalText, map_some]
    | false =>
      rcases decimalText_chars digits.value point with ⟨_, first, rest, start, noSign⟩
      have notZero := decimalText_ne_zero digits point
      have read := readDigits_decimalText digits point
      simp only [JsonNumber.text, Bool.false_eq_true, if_false, nil_append]
      unfold JsonNumber.read
      split
      · rename_i zero
        exact absurd zero notZero
      · rename_i text signed
        rw [start, List.cons.injEq] at signed
        exact absurd signed.1 noSign
      · rw [read, map_some]

/-- The text up to a quotation mark, and what follows the mark. -/
def readText : Nat → List Char → Option (List Char × List Char)
  | 0, _ => none
  | fuel + 1, text =>
    match unescape text with
    | some (character, rest) =>
      (readText fuel rest).map fun entry => (character :: entry.1, entry.2)
    | none =>
      match text with
      | '"' :: rest => some ([], rest)
      | _ => none

theorem readText_escaped {value : List Char} (enough : value.length < fuel) :
    readText fuel (value.flatMap escaped ++ '"' :: rest) = some (value, rest) := by
  induction value generalizing fuel with
  | nil =>
    obtain ⟨less, rfl⟩ : ∃ less, fuel = less + 1 := ⟨fuel - 1, by simp at enough; omega⟩
    rfl
  | cons character others ih =>
    obtain ⟨less, rfl⟩ : ∃ less, fuel = less + 1 := ⟨fuel - 1, by simp at enough; omega⟩
    rw [flatMap_cons, append_assoc]
    unfold readText
    simp only [unescape_escaped, ih (lt_of_succ_lt_succ enough), map_some]

theorem length_le_escaped (value : List Char) : value.length ≤ (value.flatMap escaped).length := by
  induction value with
  | nil => exact Nat.le_refl 0
  | cons character others ih =>
    have some_ : 0 < (escaped character).length := by
      apply length_pos_of_ne_nil
      intro none
      have first := unescape_escaped character []
      rw [none] at first
      cases first
    rw [flatMap_cons, length_append, length_cons]
    omega

theorem readText_quoted (value : String) (rest : List Char) :
    readText (value.toList.flatMap escaped ++ '"' :: rest).length
      (value.toList.flatMap escaped ++ '"' :: rest) = some (value.toList, rest) := by
  apply readText_escaped
  have long := length_le_escaped value.toList
  rw [length_append, length_cons]
  omega

mutual

/-- The value at the beginning of a text, and what follows it. -/
def readValue : Nat → List Char → Option (Json × List Char)
  | 0, _ => none
  | fuel + 1, text =>
    match text with
    | 'n' :: 'u' :: 'l' :: 'l' :: rest => some (.null, rest)
    | 't' :: 'r' :: 'u' :: 'e' :: rest => some (.boolean true, rest)
    | 'f' :: 'a' :: 'l' :: 's' :: 'e' :: rest => some (.boolean false, rest)
    | '"' :: rest =>
      (readText rest.length rest).map fun entry => (.text (String.ofList entry.1), entry.2)
    | '[' :: ']' :: rest => some (.array [], rest)
    | '[' :: rest =>
      match readValue fuel rest with
      | some (item, rest) =>
        (readItems fuel rest).map fun entry => (.array (item :: entry.1), entry.2)
      | none => none
    | '\x7b' :: '\x7d' :: rest => some (.object [], rest)
    | '\x7b' :: rest =>
      match readMember fuel rest with
      | some (first, rest) =>
        (readMembers fuel rest).map fun entry => (.object (first :: entry.1), entry.2)
      | none => none
    | text =>
      (JsonNumber.read (text.takeWhile isNumberChar)).map fun number =>
        (.number number, text.dropWhile isNumberChar)

def readItems : Nat → List Char → Option (List Json × List Char)
  | 0, _ => none
  | fuel + 1, text =>
    match text with
    | ']' :: rest => some ([], rest)
    | ',' :: rest =>
      match readValue fuel rest with
      | some (item, rest) =>
        (readItems fuel rest).map fun entry => (item :: entry.1, entry.2)
      | none => none
    | _ => none

def readMember : Nat → List Char → Option ((String × Json) × List Char)
  | 0, _ => none
  | fuel + 1, text =>
    match text with
    | '"' :: rest =>
      match readText rest.length rest with
      | some (name, ':' :: rest) =>
        (readValue fuel rest).map fun entry => ((String.ofList name, entry.1), entry.2)
      | _ => none
    | _ => none

def readMembers : Nat → List Char → Option (List (String × Json) × List Char)
  | 0, _ => none
  | fuel + 1, text =>
    match text with
    | '\x7d' :: rest => some ([], rest)
    | ',' :: rest =>
      match readMember fuel rest with
      | some (member, rest) =>
        (readMembers fuel rest).map fun entry => (member :: entry.1, entry.2)
      | none => none
    | _ => none

end

theorem isNumberChar_of_number {number : JsonNumber} {others : List Char} {first : Char}
    (start : number.text ++ rest = first :: others) : isNumberChar first = true := by
  rcases number.text_chars with ⟨chars, digit, more, text⟩
  rw [text, cons_append, List.cons.injEq] at start
  exact chars first (by rw [text, ← start.1]; exact .head _)

theorem takeWhile_number {number : JsonNumber} {rest : List Char} (ends : Delimited rest) :
    (number.text ++ rest).takeWhile isNumberChar = number.text ∧
      (number.text ++ rest).dropWhile isNumberChar = rest := by
  rw [takeWhile_append_of_pos number.text_chars.1, dropWhile_append_of_pos number.text_chars.1]
  cases rest with
  | nil => simp
  | cons first others =>
    have stops : isNumberChar first = false := ends first rfl
    simp [stops]

theorem readValue_number (number : JsonNumber) (ends : Delimited rest) (enough : 0 < fuel) :
    readValue fuel (number.text ++ rest) = some (.number number, rest) := by
  obtain ⟨less, rfl⟩ : ∃ less, fuel = less + 1 := ⟨fuel - 1, by omega⟩
  have plain : ∀ {first others}, number.text ++ rest = first :: others →
      isNumberChar first = true := isNumberChar_of_number
  rcases @takeWhile_number number rest ends with ⟨taken, dropped⟩
  rw [readValue, taken, dropped, JsonNumber.read_text, map_some]
  all_goals exact fun after start => absurd (plain start) (by decide)

theorem readMember_of_value {name : String} {value : Json} {rest : List Char} {fuel : Nat}
    (read : readValue fuel (value.stringify ++ rest) = some (value, rest)) :
    readMember (fuel + 1) (quoted name ++ ':' :: (value.stringify ++ rest)) =
      some ((name, value), rest) := by
  simp only [quoted, cons_append, append_assoc, nil_append]
  unfold readMember
  simp only [readText_quoted, read, map_some, String.ofList_toList]

theorem member_fuel {name : String} {value after : List Char}
    (enough : (quoted name ++ ':' :: (value ++ after)).length < fuel) :
    ∃ less, fuel = less + 1 ∧ (value ++ after).length < less := by
  refine ⟨fuel - 1, by omega, ?_⟩
  simp only [quoted, length_append, length_cons] at enough ⊢
  omega

mutual

theorem readValue_stringify (value : Json) (rest : List Char) (fuel : Nat)
    (ends : Delimited rest) (enough : (value.stringify ++ rest).length < fuel) :
    readValue fuel (value.stringify ++ rest) = some (value, rest) := by
  obtain ⟨less, rfl⟩ : ∃ less, fuel = less + 1 := ⟨fuel - 1, by omega⟩
  match value with
  | .null => rfl
  | .boolean true => rfl
  | .boolean false => rfl
  | .number number => exact readValue_number number ends (succ_pos less)
  | .text value =>
    simp only [Json.stringify, quoted, cons_append, append_assoc, nil_append]
    unfold readValue
    simp only [readText_quoted, map_some, String.ofList_toList]
  | .array [] => rfl
  | .array (item :: items) =>
    simp only [Json.stringify, cons_append, append_assoc] at enough ⊢
    have first := readValue_stringify item (stringifyItems items ++ rest) less
      (delimited_items items rest) (lt_of_succ_lt_succ enough)
    have others := readItems_stringify items rest less
      (Nat.lt_of_le_of_lt (by simp) (lt_of_succ_lt_succ enough))
    rw [readValue, first]
    · simp only [others, map_some]
    · exact fun after => stringify_ne_close item _ after
  | .object [] => rfl
  | .object ((name, value) :: members) =>
    simp only [Json.stringify, cons_append, append_assoc] at enough ⊢
    rcases member_fuel (lt_of_succ_lt_succ enough) with ⟨fewer, rfl, left⟩
    have first := @readMember_of_value name _ _ _
      (readValue_stringify value (stringifyMembers members ++ rest) fewer
        (delimited_members members rest) left)
    have others := readMembers_stringify members rest (fewer + 1)
      (Nat.lt_of_le_of_lt (by simp) (lt_succ_of_lt left))
    rw [readValue, first]
    · simp only [others, map_some]
    · simp [quoted]

theorem readItems_stringify (items : List Json) (rest : List Char) (fuel : Nat)
    (enough : (stringifyItems items ++ rest).length < fuel) :
    readItems fuel (stringifyItems items ++ rest) = some (items, rest) := by
  obtain ⟨less, rfl⟩ : ∃ less, fuel = less + 1 := ⟨fuel - 1, by omega⟩
  match items with
  | [] => rfl
  | item :: items =>
    simp only [stringifyItems, cons_append, append_assoc] at enough ⊢
    have first := readValue_stringify item (stringifyItems items ++ rest) less
      (delimited_items items rest) (lt_of_succ_lt_succ enough)
    have others := readItems_stringify items rest less
      (Nat.lt_of_le_of_lt (by simp) (lt_of_succ_lt_succ enough))
    unfold readItems
    simp only [first, others, map_some]

theorem readMembers_stringify (members : List (String × Json)) (rest : List Char) (fuel : Nat)
    (enough : (stringifyMembers members ++ rest).length < fuel) :
    readMembers fuel (stringifyMembers members ++ rest) = some (members, rest) := by
  obtain ⟨less, rfl⟩ : ∃ less, fuel = less + 1 := ⟨fuel - 1, by omega⟩
  match members with
  | [] => rfl
  | (name, value) :: members =>
    simp only [stringifyMembers, cons_append, append_assoc] at enough ⊢
    rcases member_fuel (lt_of_succ_lt_succ enough) with ⟨fewer, rfl, left⟩
    have first := @readMember_of_value name _ _ _
      (readValue_stringify value (stringifyMembers members ++ rest) fewer
        (delimited_members members rest) left)
    have others := readMembers_stringify members rest (fewer + 1)
      (Nat.lt_of_le_of_lt (by simp) (lt_succ_of_lt left))
    unfold readMembers
    simp only [first, others, map_some]

end

def Json.parse (text : List Char) : Option Json :=
  match readValue (text.length + 1) text with
  | some (value, []) => if value.stringify = text then some value else none
  | _ => none

theorem Json.parse_stringify (value : Json) : Json.parse value.stringify = some value := by
  have read := readValue_stringify value [] (value.stringify.length + 1) (by simp [Delimited])
    (by simp)
  rw [append_nil] at read
  simp only [Json.parse, read, if_true]

end SupremeOs.DomainModel
