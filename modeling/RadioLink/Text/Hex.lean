import RadioLink.Text.Blank

/-!
# Hexadecimal text

Bytes are written as two lower-case digits each (`Hex.encode`). Reading is more generous
(`Hex.decode`): digits of either case, with blanks around the text, one `0x` in front of it and the
separators space, colon, hyphen and underscore anywhere. Of the two digits of a byte the first may
also be a plus sign, which stands for nothing, as it does in front of a number.
-/

namespace RadioLink.Text

/-- The value of a hexadecimal digit. -/
def hexDigit? (c : Char) : Option Nat :=
  if '0' ≤ c ∧ c ≤ '9' then
    some (c.toNat - '0'.toNat)
  else if 'a' ≤ c ∧ c ≤ 'f' then
    some (c.toNat - 'a'.toNat + 10)
  else if 'A' ≤ c ∧ c ≤ 'F' then
    some (c.toNat - 'A'.toNat + 10)
  else
    none

/-- The lower-case digit of a value below sixteen. -/
def hexDigit (n : Nat) : Char :=
  if n < 10 then Char.ofNat (n + '0'.toNat) else Char.ofNat (n - 10 + 'a'.toNat)

namespace Hex

/-- Why a text is not read as bytes. -/
inductive Defect where
  /-- It holds something that is no digit. -/
  | malformed
  /-- It ends in the middle of a byte. -/
  | odd
  deriving DecidableEq

/-- The two digits of a byte. -/
def digitsOf (byte : UInt8) : List Char :=
  [hexDigit (byte.toNat / 16), hexDigit (byte.toNat % 16)]

/-- The text of some bytes. -/
def encode (bytes : List UInt8) : String :=
  String.ofList (bytes.flatMap digitsOf)

/-- The characters that may stand between digits. -/
def isSeparator (c : Char) : Bool :=
  c == ' ' || c == ':' || c == '-' || c == '_'

/-- A text without the `0x` in front of it. -/
def dropMark : List Char → List Char
  | '0' :: 'x' :: rest => rest
  | text => text

/-- What is left of a text to be read as digits. -/
def digits (text : String) : List Char :=
  (dropMark (trim text.toList)).filter fun c => !isSeparator c

/-- The byte that two characters stand for. -/
def byte? (a b : Char) : Option UInt8 :=
  if a = '+' then
    (hexDigit? b).map UInt8.ofNat
  else
    (hexDigit? a).bind fun x => (hexDigit? b).map fun y => UInt8.ofNat (16 * x + y)

/-- The bytes that the characters of a text stand for, pair by pair. -/
def bytes? : List Char → Option (List UInt8)
  | [] => some []
  | [_] => none
  | a :: b :: rest => (byte? a b).bind fun byte => (bytes? rest).map (byte :: ·)

/-- Reads bytes. A text with a character outside ASCII is malformed whatever its length. -/
def decode (text : String) : Except Defect (List UInt8) :=
  let digits := digits text
  if digits.all fun c => decide (c.toNat < 128) then
    if digits.length % 2 = 0 then
      match bytes? digits with
      | some bytes => .ok bytes
      | none => .error .malformed
    else
      .error .odd
  else
    .error .malformed

end Hex

end RadioLink.Text
