/-!
# JSON values

`Json.Value` is what a JSON document denotes, as far as it is told apart here. Members of an object
keep their order and may share a name, since a reader of a document decides what to make of that. A
number is kept as a natural number where it is written as one, and by its spelling otherwise. A
string is the list of characters that it denotes; a string whose escapes contain half of a surrogate
pair denotes none.
-/

namespace RadioLink.Json

/-- What a string denotes, if it denotes characters. -/
abbrev Text : Type :=
  Option String

/-- A number. -/
inductive Number where
  /-- A number that is written with digits alone. -/
  | natural (n : Nat)
  /-- A number with a sign, a fraction or an exponent, as it is written. -/
  | spelled (text : List Char)
  deriving DecidableEq

/-- What a document denotes. -/
inductive Value where
  | null
  | bool (b : Bool)
  | number (n : Number)
  | string (text : Text)
  | array (items : List Value)
  | object (members : List (Text × Value))

namespace Value

/-- A natural number. -/
def ofNat (n : Nat) : Value :=
  .number (.natural n)

/-- A string of characters. -/
def ofString (s : String) : Value :=
  .string (some s)

end Value

end RadioLink.Json
