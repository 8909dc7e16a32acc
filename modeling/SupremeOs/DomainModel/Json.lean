import SupremeOs.Support.OrderedMap

/-!
# JSON values

The values that travel as JSON: rows of a store, frames on a socket, requests
that are validated later.  An object lists its members in the order in which
the language enumerates them.

A number is given by its decimal digits, the shortest ones that denote it.
-/

namespace SupremeOs.DomainModel

/-- Decimal digits without a trailing zero. -/
structure Significand where
  value : Nat
  trimmed : value % 10 ≠ 0
deriving DecidableEq

/-- A finite number; `point` is the place of the decimal point before the first digit. -/
inductive JsonNumber where
  | zero
  | nonzero (negative : Bool) (digits : Significand) (point : Int)
deriving DecidableEq

inductive Json where
  | null
  | boolean (value : Bool)
  | number (value : JsonNumber)
  | text (value : String)
  | array (items : List Json)
  | object (members : List (String × Json))

/-- The value of a member, if the value is an object that has it. -/
def Json.member (name : String) : Json → Option Json
  | .object members => (members.find? fun entry => decide (entry.1 = name)).map Prod.snd
  | _ => none

end SupremeOs.DomainModel
