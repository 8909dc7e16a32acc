import SupremeOs.DomainModel.JsValue

/-!
# Names of installers

Names are cut into segments at dashes, colons and the like, and abbreviations in
them are written out.  How a text is put into lower case is a parameter.
-/

namespace SupremeOs.KnxImport

open DomainModel

/-- `text.trim()`. -/
def trim (text : String) : String := String.ofList (stripSpaces text.toList)

/-- `text.split(/\s+/).filter(Boolean)`. -/
def words (text : String) : List String :=
  ((text.toList.splitOnP isStrippedSpace).filter fun word => !word.isEmpty).map String.ofList

/-- `texts.join(separator)`. -/
def join (separator : String) (texts : List String) : String := separator.intercalate texts

def given (text : Option String) : Option String := text.filter fun text => !text.isEmpty

/-- `left || right`. -/
def orElse (left right : String) : String := if left.isEmpty then right else left

def isNameSeparator (character : Char) : Bool :=
  ['-', '–', '·', ':', '|'].contains character

def splitNameSegments (raw : String) : List String :=
  ((raw.toList.splitOnP isNameSeparator).map fun segment => String.ofList (stripSpaces segment)
    ).filter fun segment => !segment.isEmpty

/-- `ABBREVIATIONS`, with what an object literal inherits under names in lower case. -/
def abbreviations : List (String × String) := [
  ("mb", "Master Bedroom"), ("mbr", "Master Bedroom"), ("mstr", "Master"), ("lr", "Living Room"),
  ("liv", "Living"), ("dr", "Dining Room"), ("din", "Dining"), ("kit", "Kitchen"),
  ("kthn", "Kitchen"), ("bd", "Bedroom"), ("br", "Bedroom"), ("bdrm", "Bedroom"),
  ("bth", "Bathroom"), ("bath", "Bathroom"), ("wc", "Toilet"), ("pwd", "Powder Room"),
  ("gst", "Guest"), ("grg", "Garage"), ("corr", "Corridor"), ("hw", "Hallway"),
  ("strg", "Storage"), ("bsmt", "Basement"), ("att", "Attic"), ("terr", "Terrace"),
  ("bal", "Balcony"), ("pat", "Patio"), ("util", "Utility"), ("ldry", "Laundry"),
  ("ent", "Entrance"), ("ext", "Exterior"), ("int", "Interior"), ("rm", "Room"),
  ("gf", "Ground Floor"), ("ff", "First Floor"), ("sf", "Second Floor"), ("tf", "Third Floor"),
  ("curt", "Curtain"), ("crt", "Curtain"), ("sp", "Spot"), ("sw", "Switch"), ("dim", "Dimmer"),
  ("fb", "Feedback"), ("fdbk", "Feedback"), ("stat", "Status"), ("temp", "Temperature"),
  ("ctrl", "Control"),
  ("constructor", "function Object() \x7b [native code] \x7d"), ("__proto__", "[object Object]")]

def isLatinLetter (character : Char) : Bool :=
  ('a' ≤ character && character ≤ 'z') || ('A' ≤ character && character ≤ 'Z')

/-- All capitals and digits, as in "AC". -/
def looksLikeDeliberateAcronym (token : String) : Bool :=
  decide (1 < token.length) && token.toList.all fun character =>
    ('A' ≤ character && character ≤ 'Z') || isDecimalDigit character

def titleCaseWord (word : String) : String :=
  if looksLikeDeliberateAcronym word then word
  else
    match word.toList with
    | first :: rest =>
      if 'a' ≤ first ∧ first ≤ 'z' then String.ofList (first.toUpper :: rest) else word
    | [] => word

/-- Letters followed by a number are cut in two. -/
def splitTrailingNumber (token : String) : String × String :=
  let base := token.toList.takeWhile isLatinLetter
  let suffix := token.toList.dropWhile isLatinLetter
  if base ≠ [] ∧ suffix ≠ [] ∧ suffix.all isDecimalDigit = true then
    (String.ofList base, String.ofList suffix)
  else (token, "")

def expandToken (toLowerCase : String → String) (token : String) : String :=
  let (base, suffix) := splitTrailingNumber token
  match abbreviations.lookup (toLowerCase base) with
  | some expanded => if suffix.isEmpty then expanded else expanded ++ " " ++ suffix
  | none => titleCaseWord token

def humanizeSegment (toLowerCase : String → String) (raw : String) : String :=
  join " " ((words raw).map (expandToken toLowerCase))

def humanizeName (toLowerCase : String → String) (raw : String) : String :=
  match splitNameSegments raw with
  | [] => trim raw
  | segments => join " — " (segments.map (humanizeSegment toLowerCase))

end SupremeOs.KnxImport
