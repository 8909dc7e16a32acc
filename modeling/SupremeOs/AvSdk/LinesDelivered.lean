import SupremeOs.AvSdk.LineAccumulator

/-!
# Lines are delivered

An accumulator with a bound of its own hands on every complete line of a stream
as long as no chunk exceeds the bound together with the partial line before it.
The bound is looked at before the lines are taken off: a chunk of many short
lines is dropped as a whole.
-/

namespace SupremeOs.AvSdk

open List

variable {Character : Type*} (unit : Character → UInt16) (delimiter : List UInt16)

/-- What a call of `feed` keeps, returns, and says of dropped text. -/
structure Fed (Character : Type*) where
  buffer : List Character
  lines : List (List Character)
  overflows : List Nat
deriving DecidableEq

/-- `feed` of an accumulator whose bound is given. -/
def feedWithin (maxBytes : Nat) (buffer chunk : List Character) : Fed Character :=
  let text := buffer ++ chunk
  if maxBytes < text.length then ⟨[], [], [text.length]⟩
  else
    let lines := split unit delimiter text
    ⟨lines.getLast?.getD [], lines.dropLast, []⟩

def feedChunks (maxBytes : Nat) : List Character → List (List Character) → Fed Character
  | buffer, [] => ⟨buffer, [], []⟩
  | buffer, chunk :: rest =>
    let now := feedWithin unit delimiter maxBytes buffer chunk
    let later := feedChunks maxBytes now.buffer rest
    ⟨later.buffer, now.lines ++ later.lines, now.overflows ++ later.overflows⟩

/-- The partial line that a stream ends with. -/
def trailing (text : List Character) : List Character :=
  (split unit delimiter text).getLast?.getD []

def completeLines (text : List Character) : List (List Character) :=
  (split unit delimiter text).dropLast

variable {unit delimiter} {piece line text before after rest buffer chunk : List Character}
variable {chunks : List (List Character)} {number : Nat}

theorem feed_eq_feedWithin : feed unit delimiter buffer chunk =
    ((feedWithin unit delimiter AvSdk.maxBytes buffer chunk).buffer,
      (feedWithin unit delimiter AvSdk.maxBytes buffer chunk).lines) := by
  rw [feed, feedWithin]
  dsimp only
  split <;> rfl

def StartsAt (unit : Character → UInt16) (delimiter : List UInt16) (text : List Character)
    (place : Nat) : Prop :=
  delimiter <+: (text.drop place).map unit

theorem piecesFrom_of_none (none : ∀ place < before.length,
      ¬StartsAt unit delimiter (before ++ after) place) :
    piecesFrom unit delimiter 0 piece (before ++ after) =
      piecesFrom unit delimiter 0 (piece ++ before) after := by
  induction before generalizing piece with
  | nil => rw [nil_append, append_nil]
  | cons first others ih =>
    have start : ¬delimiter.isPrefixOf ((first :: (others ++ after)).map unit) = true := by
      rw [List.isPrefixOf_iff_prefix]
      exact none 0 (Nat.zero_lt_succ _)
    have later : piecesFrom unit delimiter 0 (piece ++ [first]) (others ++ after) =
        piecesFrom unit delimiter 0 (piece ++ [first] ++ others) after :=
      ih fun place inside => none (place + 1) (Nat.succ_lt_succ inside)
    rw [cons_append, piecesFrom, if_neg start, later, append_assoc, singleton_append]

theorem piecesFrom_skip (skipped : List Character) :
    piecesFrom unit delimiter skipped.length piece (skipped ++ rest) =
      piecesFrom unit delimiter 0 piece rest := by
  induction skipped with
  | nil => rfl
  | cons first others ih => rw [length_cons, cons_append, piecesFrom, ih]

theorem piecesFrom_delimiter {found : List Character} (nonempty : delimiter ≠ [])
    (same : found.map unit = delimiter) :
    piecesFrom unit delimiter 0 piece (found ++ rest) =
      piece :: piecesFrom unit delimiter 0 [] rest := by
  cases found with
  | nil => exact absurd same.symm nonempty
  | cons first others =>
    have start : delimiter.isPrefixOf ((first :: (others ++ rest)).map unit) = true := by
      rw [List.isPrefixOf_iff_prefix, ← same]
      exact ⟨rest.map unit, by simp⟩
    have length : delimiter.length - 1 = others.length := by
      rw [← same, length_map, length_cons, Nat.add_sub_cancel]
    rw [cons_append, piecesFrom, if_pos start, length, piecesFrom_skip]

theorem exists_first (unit : Character → UInt16) (delimiter : List UInt16) (text : List Character) :
    (∀ place < text.length, ¬StartsAt unit delimiter text place) ∨
      ∃ line found rest, text = line ++ (found ++ rest) ∧ found.map unit = delimiter ∧
        ∀ place < line.length, ¬StartsAt unit delimiter text place := by
  induction text with
  | nil => exact .inl nofun
  | cons first others ih =>
    by_cases start : StartsAt unit delimiter (first :: others) 0
    · obtain ⟨after, same⟩ := start
      obtain ⟨found, rest, whole, same, -⟩ := map_eq_append_iff.mp same.symm
      exact .inr ⟨[], found, rest, whole, same, nofun⟩
    · rcases ih with none | ⟨line, found, rest, whole, same, none⟩
      · left
        rintro (_ | place) inside
        · exact start
        · exact none place (Nat.lt_of_succ_lt_succ inside)
      · refine .inr ⟨first :: line, found, rest, by rw [whole]; rfl, same, ?_⟩
        rintro (_ | place) inside
        · exact start
        · exact none place (Nat.lt_of_succ_lt_succ inside)

theorem startsAt_of_append {place : Nat} (fits : place + delimiter.length ≤ before.length)
    (starts : StartsAt unit delimiter (before ++ after) place) :
    StartsAt unit delimiter before place := by
  rw [StartsAt, drop_append_of_le_length (by omega), map_append] at starts
  refine prefix_of_prefix_length_le starts (prefix_append _ _) ?_
  rw [length_map, length_drop]
  omega

theorem piecesFrom_ne_nil (text : List Character) (skipped : Nat) (piece : List Character) :
    piecesFrom unit delimiter skipped piece text ≠ [] := by
  induction text generalizing skipped piece with
  | nil => exact cons_ne_nil _ _
  | cons first rest ih =>
    cases skipped with
    | succ left => exact ih left piece
    | zero =>
      rw [piecesFrom]
      split
      · exact cons_ne_nil _ _
      · exact ih 0 _

theorem piecesFrom_first (nonempty : delimiter ≠ []) {found : List Character}
    (same : found.map unit = delimiter) (none : ∀ place < line.length,
      ¬StartsAt unit delimiter (line ++ (found ++ rest)) place) :
    piecesFrom unit delimiter 0 [] (line ++ (found ++ rest)) =
      line :: piecesFrom unit delimiter 0 [] rest := by
  rw [piecesFrom_of_none none, nil_append, piecesFrom_delimiter nonempty same]

/-- The pieces of a longer text: those that are complete, and those of the last one and the rest. -/
theorem piecesFrom_append (nonempty : delimiter ≠ []) (before after : List Character) :
    piecesFrom unit delimiter 0 [] (before ++ after) =
      (piecesFrom unit delimiter 0 [] before).dropLast ++ piecesFrom unit delimiter 0 []
          ((piecesFrom unit delimiter 0 [] before).getLast?.getD [] ++ after) := by
  induction length : before.length using Nat.strongRecOn generalizing before with
  | ind size ih =>
    rcases exists_first unit delimiter before with
      none | ⟨line, found, rest, rfl, same, none⟩
    · have single : piecesFrom unit delimiter 0 [] before = [before] := by
        have all : piecesFrom unit delimiter 0 [] (before ++ []) =
            piecesFrom unit delimiter 0 ([] ++ before) [] :=
          piecesFrom_of_none (by rwa [append_nil])
        rwa [append_nil, nil_append] at all
      rw [single]
      rfl
    · have positive : 0 < found.length := by
        rw [← length_map (f := unit), same]
        exact length_pos_iff.mpr nonempty
      have size : found.length = delimiter.length := by rw [← same, length_map]
      have first := piecesFrom_first nonempty same none
      have further : piecesFrom unit delimiter 0 [] (line ++ (found ++ (rest ++ after))) =
          line :: piecesFrom unit delimiter 0 [] (rest ++ after) := by
        refine piecesFrom_first nonempty same fun place inside starts => ?_
        rw [← append_assoc found, ← append_assoc line] at starts
        refine none place inside (startsAt_of_append ?_ starts)
        simp only [length_append]
        omega
      have shorter : rest.length < (line ++ (found ++ rest)).length := by
        simp only [length_append]
        omega
      have last : (line :: piecesFrom unit delimiter 0 [] rest).getLast? =
          (piecesFrom unit delimiter 0 [] rest).getLast? := by
        rw [getLast?_cons, getLast?_eq_some_getLast (piecesFrom_ne_nil _ _ _)]
        rfl
      rw [append_assoc, append_assoc, further, first, last, dropLast_cons_of_ne_nil
        (piecesFrom_ne_nil _ _ _), cons_append, ← ih _ (length ▸ shorter) rest rfl]

theorem split_append (before after : List Character) :
    split unit delimiter (before ++ after) = completeLines unit delimiter before ++
      split unit delimiter (trailing unit delimiter before ++ after) := by
  simp only [completeLines, trailing, AvSdk.split]
  by_cases empty : delimiter.isEmpty = true
  · simp only [empty, if_true]
    rcases eq_nil_or_concat before with rfl | ⟨others, last, rfl⟩
    · rfl
    · simp
  · simp only [if_neg empty]
    exact piecesFrom_append (fun nil => empty (List.isEmpty_iff.mpr nil)) before after

theorem completeLines_of_split_eq_nil
    (none : split unit delimiter (trailing unit delimiter before ++ after) = []) :
    completeLines unit delimiter before = [] := by
  rw [AvSdk.split] at none
  split at none
  · rename_i empty
    obtain ⟨nothing, -⟩ := append_eq_nil_iff.mp (map_eq_nil_iff.mp none)
    rw [trailing, AvSdk.split, if_pos empty] at nothing
    rcases eq_nil_or_concat before with rfl | ⟨others, last, rfl⟩
    · rw [completeLines, AvSdk.split, if_pos empty]
      rfl
    · simp at nothing
  · exact absurd none (piecesFrom_ne_nil _ _ _)

theorem completeLines_append (before after : List Character) :
    completeLines unit delimiter (before ++ after) = completeLines unit delimiter before ++
      completeLines unit delimiter (trailing unit delimiter before ++ after) := by
  rw [completeLines, split_append]
  by_cases none : split unit delimiter (trailing unit delimiter before ++ after) = []
  · rw [completeLines_of_split_eq_nil none, nil_append, nil_append]
    rfl
  · rw [dropLast_append_of_ne_nil none]
    rfl

theorem trailing_append (before after : List Character) :
    trailing unit delimiter (before ++ after) =
      trailing unit delimiter (trailing unit delimiter before ++ after) := by
  rw [trailing, split_append]
  by_cases none : split unit delimiter (trailing unit delimiter before ++ after) = []
  · rw [completeLines_of_split_eq_nil none, nil_append]
    rfl
  · rw [getLast?_append_of_ne_nil _ none]
    rfl

variable {maxBytes : Nat} {stream : List Character}

theorem feedWithin_of_le (fits : buffer.length + chunk.length ≤ maxBytes) :
    feedWithin unit delimiter maxBytes buffer chunk =
      ⟨trailing unit delimiter (buffer ++ chunk), completeLines unit delimiter (buffer ++ chunk),
        []⟩ := by
  rw [feedWithin, length_append, if_neg (Nat.not_lt.mpr fits)]
  rfl

theorem feedWithin_of_lt (exceeds : maxBytes < buffer.length + chunk.length) :
    (feedWithin unit delimiter maxBytes buffer chunk).overflows ≠ [] := by
  rw [feedWithin, length_append, if_pos exceeds]
  exact cons_ne_nil _ _

/-- Every chunk fits into the bound, together with the partial line before it. -/
def FitsAfter (unit : Character → UInt16) (delimiter : List UInt16) (maxBytes : Nat)
    (stream : List Character) (chunks : List (List Character)) : Prop :=
  ∀ received chunk, received ++ [chunk] <+: chunks →
    (trailing unit delimiter (stream ++ received.flatten)).length + chunk.length ≤ maxBytes

theorem fitsAfter_cons : FitsAfter unit delimiter maxBytes stream (chunk :: chunks) ↔
      (trailing unit delimiter stream).length + chunk.length ≤ maxBytes ∧
        FitsAfter unit delimiter maxBytes (stream ++ chunk) chunks := by
  constructor
  · intro fits
    refine ⟨?_, fun received next starts => ?_⟩
    · have first := fits [] chunk ⟨chunks, rfl⟩
      rwa [flatten_nil, append_nil] at first
    · have later := fits (chunk :: received) next ((prefix_cons_inj chunk).mpr starts)
      rwa [flatten_cons, ← append_assoc] at later
  · rintro ⟨first, later⟩ received next starts
    cases received with
    | nil =>
      obtain ⟨rfl, -⟩ := cons_prefix_cons.mp starts
      rwa [flatten_nil, append_nil]
    | cons one others =>
      obtain ⟨rfl, further⟩ := cons_prefix_cons.mp starts
      have fits := later others next further
      rwa [append_assoc] at fits

theorem feedChunks_of_fits (fits : FitsAfter unit delimiter maxBytes stream chunks) :
    completeLines unit delimiter stream ++
        (feedChunks unit delimiter maxBytes (trailing unit delimiter stream) chunks).lines =
      completeLines unit delimiter (stream ++ chunks.flatten) := by
  induction chunks generalizing stream with
  | nil => rw [feedChunks, flatten_nil, append_nil, append_nil]
  | cons chunk rest ih =>
    obtain ⟨first, later⟩ := fitsAfter_cons.mp fits
    rw [feedChunks, feedWithin_of_le first]
    dsimp only
    rw [← append_assoc, ← completeLines_append, ← trailing_append, ih later,
      flatten_cons, append_assoc]

theorem overflows_eq_nil_iff :
    (feedChunks unit delimiter maxBytes (trailing unit delimiter stream) chunks).overflows = [] ↔
      FitsAfter unit delimiter maxBytes stream chunks := by
  induction chunks generalizing stream with
  | nil => exact ⟨fun _ _ _ starts => absurd (prefix_nil.mp starts) (by simp), fun _ => rfl⟩
  | cons chunk rest ih =>
    rw [fitsAfter_cons, feedChunks]
    dsimp only
    rw [append_eq_nil_iff]
    by_cases first : (trailing unit delimiter stream).length + chunk.length ≤ maxBytes
    · rw [feedWithin_of_le first]
      dsimp only
      rw [← trailing_append, ih]
      simp only [first, true_and]
    · have dropped : (feedWithin unit delimiter maxBytes (trailing unit delimiter stream)
          chunk).overflows ≠ [] := feedWithin_of_lt (Nat.lt_of_not_le first)
      simp only [dropped, first, false_and]

/-- All lines of a stream are delivered, and no text is dropped. -/
structure DeliversLines (unit : Character → UInt16) (delimiter : List UInt16) (maxBytes : Nat)
    (chunks : List (List Character)) : Prop where
  lines : (feedChunks unit delimiter maxBytes [] chunks).lines =
    completeLines unit delimiter chunks.flatten
  overflows : (feedChunks unit delimiter maxBytes [] chunks).overflows = []

/--
A stream is delivered exactly if each of its chunks fits into the bound, together
with the partial line that came before it.
-/
theorem deliversLines_iff (delimiter : List UInt16) (maxBytes : Nat) (chunks : List (List UInt16)) :
    DeliversLines id delimiter maxBytes chunks ↔ FitsAfter id delimiter maxBytes [] chunks := by
  have nothing : trailing id delimiter ([] : List UInt16) = [] := by
    rw [trailing, AvSdk.split]
    split <;> rfl
  have none : completeLines id delimiter ([] : List UInt16) = [] := by
    rw [completeLines, AvSdk.split]
    split <;> rfl
  have dropped : (feedChunks id delimiter maxBytes [] chunks).overflows = [] ↔
      FitsAfter id delimiter maxBytes [] chunks := by
    rw [← overflows_eq_nil_iff, nothing]
  refine ⟨fun delivers => dropped.mp delivers.overflows, fun fits => ⟨?_, dropped.mpr fits⟩⟩
  have lines := feedChunks_of_fits fits
  rwa [none, nothing, nil_append, nil_append] at lines

/-- Two status lines in one chunk: each of them fits, the chunk does not. -/
theorem deliversLines_fails_burst :
    let chunk : List UInt16 := [80, 87, 79, 78, 13, 77, 86, 53, 48, 13]
    completeLines id [13] chunk = [[80, 87, 79, 78], [77, 86, 53, 48]] ∧
      (∀ line ∈ completeLines id [13] chunk, line.length + 1 ≤ 8) ∧
      feedChunks id [13] 8 [] [chunk] = ⟨[], [], [10]⟩ ∧ ¬DeliversLines id [13] 8 [chunk] := by
  refine ⟨by decide, by decide, by decide, fun delivers => ?_⟩
  exact absurd delivers.overflows (by decide)

end SupremeOs.AvSdk
