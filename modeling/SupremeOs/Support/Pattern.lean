import SupremeOs.DomainModel.JsValue

/-!
# Searching a text for a pattern

A small part of the regular expressions of the script language: alternatives of
characters, `.`, `\s`, `\b`, and the marks `?` and `*` after a character.  A
pattern is read from its text and searched for anywhere in another text.
-/

namespace SupremeOs.Support.Pattern

inductive Piece where
  | one (test : Char → Bool)
  | optional (test : Char → Bool)
  | many (test : Char → Bool)
  | boundary

/-- `.`, any character but a line terminator. -/
def isAny (character : Char) : Bool :=
  !(['\n', '\r', Char.ofNat 0x2028, Char.ofNat 0x2029].contains character)

/-- A piece, if a character follows that marks it. -/
def mark (mark : Char) : List Piece → List Piece
  | .one test :: rest => (if mark = '?' then .optional test else .many test) :: rest
  | rest => rest

/-- The pieces of one alternative, the last one first, and whether a backslash came before. -/
def readNext (read : Bool × List Piece) (character : Char) : Bool × List Piece :=
  let (escaped, pieces) := read
  if escaped then
    (false, if character = 'b' then .boundary :: pieces
      else if character = 's' then .one DomainModel.isStrippedSpace :: pieces
      else .one (fun other => other == character) :: pieces)
  else if character = '\\' then (true, pieces)
  else if character = '?' ∨ character = '*' then (false, mark character pieces)
  else if character = '.' then (false, .one isAny :: pieces)
  else (false, .one (fun other => other == character) :: pieces)

def alternatives (pattern : String) : List (List Piece) :=
  (pattern.toList.splitOn '|').map fun alternative =>
    (alternative.foldl readNext (false, [])).2.reverse

def isWordCharacter (character : Char) : Bool := character.isAlphanum || character == '_'

/-- A word begins or ends between two characters. -/
def atBoundary (before after : Option Char) : Bool :=
  before.any isWordCharacter != after.any isWordCharacter

/-- Any number of characters, and then the rest of the pattern. -/
def afterMany (test : Char → Bool) (rest : Option Char → List Char → Bool) :
    Option Char → List Char → Bool
  | before, [] => rest before []
  | before, character :: text =>
    (test character && afterMany test rest (some character) text) ||
      rest before (character :: text)

def matchesHere : List Piece → Option Char → List Char → Bool
  | [], _, _ => true
  | .boundary :: rest, before, text => atBoundary before text.head? && matchesHere rest before text
  | .one _ :: _, _, [] => false
  | .one test :: rest, _, character :: text =>
    test character && matchesHere rest (some character) text
  | .optional _ :: rest, before, [] => matchesHere rest before []
  | .optional test :: rest, before, character :: text =>
    (test character && matchesHere rest (some character) text) ||
      matchesHere rest before (character :: text)
  | .many test :: rest, before, text => afterMany test (matchesHere rest) before text

def searchFrom (patterns : List (List Piece)) : Option Char → List Char → Bool
  | before, [] => patterns.any fun pieces => matchesHere pieces before []
  | before, character :: text =>
    (patterns.any fun pieces => matchesHere pieces before (character :: text)) ||
      searchFrom patterns (some character) text

/-- `/pattern/.test(text)`. -/
def found (pattern text : String) : Bool := searchFrom (alternatives pattern) none text.toList

example : found "warm\\s*white|\\bac\\b|fan.?coil" "an ac unit" = true := by decide +kernel

example : found "warm\\s*white|\\bac\\b|fan.?coil" "a fancoil" = true := by decide +kernel

example : found "warm\\s*white|\\bac\\b|fan.?coil" "a back room" = false := by decide +kernel

end SupremeOs.Support.Pattern
