import RadioLink.Json.Value
import RadioLink.Text.Hex

/-!
# Writing JSON

`Json.Value.render` writes a value without any blanks. In a string the quote, the backslash and the
control characters are escaped and everything else stands for itself. A string that denotes no
characters is written as half of a surrogate pair.
-/

namespace RadioLink.Json

open Text (hexDigit)

/-- A number in base ten. -/
def Number.chars : Number → List Char
  | natural n => Nat.toDigits 10 n
  | spelled text => text

/-- A character of a string. -/
def escaped (c : Char) : List Char :=
  if c = '"' then ['\\', '"']
  else if c = '\\' then ['\\', '\\']
  else if c = '\x08' then ['\\', 'b']
  else if c = '\x0c' then ['\\', 'f']
  else if c = '\n' then ['\\', 'n']
  else if c = '\r' then ['\\', 'r']
  else if c = '\t' then ['\\', 't']
  else if c.toNat < 0x20 then
    ['\\', 'u', '0', '0', hexDigit (c.toNat / 16), hexDigit (c.toNat % 16)]
  else [c]

/-- A string between quotes. -/
def Text.chars : Text → List Char
  | some s => '"' :: s.toList.flatMap escaped ++ ['"']
  | none => ['"', '\\', 'u', 'd', '8', '0', '0', '"']

namespace Value

mutual

/-- The characters of a value. -/
def chars : Value → List Char
  | null => ['n', 'u', 'l', 'l']
  | bool true => ['t', 'r', 'u', 'e']
  | bool false => ['f', 'a', 'l', 's', 'e']
  | number n => n.chars
  | string s => Text.chars s
  | array [] => ['[', ']']
  | array (v :: vs) => '[' :: v.chars ++ itemChars vs
  | object [] => ['\x7b', '\x7d']
  | object ((name, v) :: ms) => '\x7b' :: Text.chars name ++ ':' :: v.chars ++ memberChars ms

/-- The items of an array after its first one, and its closing bracket. -/
def itemChars : List Value → List Char
  | [] => [']']
  | v :: vs => ',' :: v.chars ++ itemChars vs

/-- The members of an object after its first one, and its closing brace. -/
def memberChars : List (Text × Value) → List Char
  | [] => ['\x7d']
  | (name, v) :: ms => ',' :: Text.chars name ++ ':' :: v.chars ++ memberChars ms

end

/-- The text of a value. -/
def render (v : Value) : String :=
  String.ofList v.chars

end Value

end RadioLink.Json
