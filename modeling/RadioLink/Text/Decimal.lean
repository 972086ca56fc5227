/-!
# Decimal numbers

Numbers in base ten: what a run of ASCII digits writes (`Decimal.ofDigits`), and whole texts that
are numbers. Such a text has at least one digit, with a plus sign in front or none, and leading
zeros do not matter.
-/

namespace RadioLink.Text.Decimal

/-- The number that some digits write. -/
def ofDigits (digits : List Char) : Nat :=
  digits.foldl (fun n c => 10 * n + (c.toNat - '0'.toNat)) 0

/-- The number that a run of digits writes, if it is one. -/
def digits? (text : List Char) : Option Nat :=
  if text.isEmpty || !text.all Char.isDigit then none else some (ofDigits text)

/-- A natural number. -/
def natural? (text : String) : Option Nat :=
  match text.toList with
  | '+' :: rest => digits? rest
  | text => digits? text

/-- A number that may have a minus sign. -/
def integer? (text : String) : Option Int :=
  match text.toList with
  | '-' :: rest => (digits? rest).map fun n => -(n : Int)
  | _ => (natural? text).map Int.ofNat

end RadioLink.Text.Decimal
