import Mathlib.Data.List.Basic

/-!
# Lines of a stream of chunks

A connection delivers text in chunks that need not end where a line ends.  What
follows the last delimiter is kept until the next chunk; text without a
delimiter that grows too long is dropped.

The characters are of any type from which a code unit can be read off, so that
a chunk may say more about its characters than what they are.
-/

namespace SupremeOs.AvSdk

open List

variable {Character : Type*} (unit : Character → UInt16) (delimiter : List UInt16)

/--
The pieces between the delimiters, the leftmost first, that do not overlap.
The next `skipped` characters are those of a delimiter that was found, and
`piece` is what was read of a piece.
-/
def piecesFrom (skipped : Nat) (piece : List Character) : List Character → List (List Character)
  | [] => [piece]
  | first :: rest =>
    match skipped with
    | left + 1 => piecesFrom left piece rest
    | 0 =>
      if delimiter.isPrefixOf ((first :: rest).map unit) then
        piece :: piecesFrom (delimiter.length - 1) [] rest
      else piecesFrom 0 (piece ++ [first]) rest

/-- `text.split(delimiter)`; an empty delimiter stands between any two characters. -/
def split (text : List Character) : List (List Character) :=
  if delimiter.isEmpty then text.map ([·]) else piecesFrom unit delimiter 0 [] text

def maxBytes : Nat := 64 * 1024

/-- The buffer once a chunk was fed to it, and the lines that are complete. -/
def feed (buffer chunk : List Character) : List Character × List (List Character) :=
  let text := buffer ++ chunk
  if maxBytes < text.length then ([], [])
  else
    let lines := split unit delimiter text
    (lines.getLast?.getD [], lines.dropLast)

variable {unit delimiter} {skipped : Nat} {piece text buffer chunk line : List Character}
variable {character : Character}

theorem mem_of_mem_piecesFrom (found : line ∈ piecesFrom unit delimiter skipped piece text)
    (member : character ∈ line) : character ∈ piece ∨ character ∈ text := by
  induction text generalizing skipped piece with
  | nil =>
    obtain rfl := mem_singleton.mp found
    exact .inl member
  | cons first rest ih =>
    cases skipped with
    | succ left => exact (ih found).imp_right (mem_cons_of_mem first)
    | zero =>
      rw [piecesFrom] at found
      split at found
      · rcases mem_cons.mp found with rfl | later
        · exact .inl member
        · rcases ih later with inPiece | inRest
          · exact absurd inPiece not_mem_nil
          · exact .inr (mem_cons_of_mem first inRest)
      · rcases ih found with inPiece | inRest
        · rcases mem_append.mp inPiece with before | last
          · exact .inl before
          · exact .inr (mem_singleton.mp last ▸ mem_cons_self)
        · exact .inr (mem_cons_of_mem first inRest)

theorem mem_of_mem_split (found : line ∈ split unit delimiter text)
    (member : character ∈ line) : character ∈ text := by
  rw [AvSdk.split] at found
  split at found
  · rcases mem_map.mp found with ⟨only, inside, rfl⟩
    exact mem_singleton.mp member ▸ inside
  · exact (mem_of_mem_piecesFrom found member).resolve_left not_mem_nil

theorem mem_of_mem_feed_line (found : line ∈ (feed unit delimiter buffer chunk).2)
    (member : character ∈ line) : character ∈ buffer ∨ character ∈ chunk := by
  rw [feed] at found
  dsimp only at found
  split at found
  · cases found
  · exact mem_append.mp (mem_of_mem_split (dropLast_subset _ found) member)

/-- A chunk is cut at the delimiters, and what follows the last one waits. -/
example : feed (id : UInt16 → UInt16) [13, 10] [80, 87] [79, 78, 13, 10, 13, 10, 77, 13] =
    ([77, 13], [[80, 87, 79, 78], []]) := by decide

end SupremeOs.AvSdk
