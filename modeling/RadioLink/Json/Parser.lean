import RadioLink.Json.Value
import RadioLink.Text.Decimal
import RadioLink.Text.Hex

/-!
# Reading JSON

`Json.parse?` reads a document: one value, with blanks around it and nothing else. Blanks are space,
tab, line feed and carriage return. Numbers have no leading zeros, strings no raw control
characters, and there are no comments and no commas after a last item. Nesting may be as deep as the
document is long.

Each reader takes a text and gives what it read together with the rest of the text. The readers of
values call each other under a fuel that the length of the document bounds: every second call
consumes a character at least.
-/

namespace RadioLink.Json

open RadioLink.Text (hexDigit?)

/-- Whether a character may stand between the parts of a document. -/
def isBlank (c : Char) : Bool :=
  c == ' ' || c == '\t' || c == '\n' || c == '\r'

/-- A text without its leading blanks. -/
def skipBlanks (text : List Char) : List Char :=
  text.dropWhile isBlank

/-! ## Numbers -/

/-- A run of digits, of which there has to be one. -/
def digits? (text : List Char) : Option (List Char × List Char) :=
  match text.takeWhile Char.isDigit with
  | [] => none
  | ds => some (ds, text.dropWhile Char.isDigit)

/-- The digits before the point: a lone zero, or digits that do not start with zero. -/
def wholePart? (text : List Char) : Option (List Char × List Char) :=
  match digits? text with
  | some ('0' :: _ :: _, _) => none
  | found => found

/-- The fraction of a number, which may be missing. -/
def fraction? : List Char → Option (List Char × List Char)
  | '.' :: rest => (digits? rest).map fun (ds, rest) => ('.' :: ds, rest)
  | text => some ([], text)

/-- The sign of an exponent, which may be missing. -/
def exponentSign : List Char → List Char × List Char
  | '+' :: rest => (['+'], rest)
  | '-' :: rest => (['-'], rest)
  | text => ([], text)

/-- The exponent of a number, which may be missing. -/
def exponent? : List Char → Option (List Char × List Char)
  | c :: rest =>
    if c = 'e' ∨ c = 'E' then
      let (sign, rest) := exponentSign rest
      (digits? rest).map fun (ds, rest) => (c :: sign ++ ds, rest)
    else
      some ([], c :: rest)
  | [] => some ([], [])

/-- A number without a sign. -/
def unsigned? (text : List Char) : Option (Number × List Char) := do
  let (whole, rest) ← wholePart? text
  let (fraction, rest) ← fraction? rest
  let (exponent, rest) ← exponent? rest
  match fraction, exponent with
  | [], [] => some (.natural (RadioLink.Text.Decimal.ofDigits whole), rest)
  | _, _ => some (.spelled (whole ++ fraction ++ exponent), rest)

/-- A number. -/
def number? : List Char → Option (Number × List Char)
  | '-' :: rest =>
    (unsigned? rest).map fun (_, after) =>
      (.spelled ('-' :: rest.take (rest.length - after.length)), after)
  | text => unsigned? text

/-! ## Strings -/

/-- A part of a string: a character, or a unit of sixteen bits that an escape gives by its
number. -/
inductive Piece where
  | char (c : Char)
  | unit (n : Nat)
  deriving DecidableEq

/-- The number that four hexadecimal digits write. -/
def unit? (a b c d : Char) : Option Nat := do
  let a ← hexDigit? a
  let b ← hexDigit? b
  let c ← hexDigit? c
  let d ← hexDigit? d
  some (((a * 16 + b) * 16 + c) * 16 + d)

/-- The character that a short escape stands for. -/
def shortEscape? : Char → Option Char
  | '"' => some '"'
  | '\\' => some '\\'
  | '/' => some '/'
  | 'b' => some '\x08'
  | 'f' => some '\x0c'
  | 'n' => some '\n'
  | 'r' => some '\r'
  | 't' => some '\t'
  | _ => none

/-- The parts of a string, after its opening quote and up to its closing one. -/
def pieces? : List Char → Option (List Piece × List Char)
  | [] => none
  | '"' :: rest => some ([], rest)
  | '\\' :: 'u' :: a :: b :: c :: d :: rest => do
    let n ← unit? a b c d
    let (ps, rest) ← pieces? rest
    some (.unit n :: ps, rest)
  | '\\' :: c :: rest => do
    let c ← shortEscape? c
    let (ps, rest) ← pieces? rest
    some (.char c :: ps, rest)
  | c :: rest =>
    if c = '\\' ∨ c.toNat < 0x20 then
      none
    else do
      let (ps, rest) ← pieces? rest
      some (.char c :: ps, rest)

/-- Whether a unit is the first half of a surrogate pair. -/
def isHigh (n : Nat) : Bool :=
  0xD800 ≤ n && n < 0xDC00

/-- Whether a unit is the second half of a surrogate pair. -/
def isLow (n : Nat) : Bool :=
  0xDC00 ≤ n && n < 0xE000

/-- The characters that the parts of a string denote. Half of a surrogate pair denotes none. -/
def join? : List Piece → Option (List Char)
  | [] => some []
  | .char c :: rest => (join? rest).map (c :: ·)
  | .unit n :: rest =>
    if isLow n then
      none
    else if isHigh n then
      match rest with
      | .unit m :: rest =>
        if isLow m then
          (join? rest).map (Char.ofNat (0x10000 + (n - 0xD800) * 0x400 + (m - 0xDC00)) :: ·)
        else
          none
      | _ => none
    else
      (join? rest).map (Char.ofNat n :: ·)

/-- A string, after its opening quote. -/
def string? (text : List Char) : Option (Text × List Char) :=
  (pieces? text).map fun (ps, rest) => ((join? ps).map String.ofList, rest)

/-! ## Values -/

mutual

/-- A value, with the blanks before it. -/
def value? : Nat → List Char → Option (Value × List Char)
  | 0, _ => none
  | fuel + 1, text =>
    match skipBlanks text with
    | 'n' :: 'u' :: 'l' :: 'l' :: rest => some (.null, rest)
    | 't' :: 'r' :: 'u' :: 'e' :: rest => some (.bool true, rest)
    | 'f' :: 'a' :: 'l' :: 's' :: 'e' :: rest => some (.bool false, rest)
    | '"' :: rest => (string? rest).map fun (s, rest) => (.string s, rest)
    | '[' :: rest =>
      match skipBlanks rest with
      | ']' :: rest => some (.array [], rest)
      | _ => (items? fuel rest).map fun (vs, rest) => (.array vs, rest)
    | '\x7b' :: rest =>
      match skipBlanks rest with
      | '\x7d' :: rest => some (.object [], rest)
      | _ => (members? fuel rest).map fun (ms, rest) => (.object ms, rest)
    | text => (number? text).map fun (n, rest) => (.number n, rest)

/-- The items of an array that has some, up to its closing bracket. -/
def items? : Nat → List Char → Option (List Value × List Char)
  | 0, _ => none
  | fuel + 1, text => do
    let (v, rest) ← value? fuel text
    match skipBlanks rest with
    | ']' :: rest => some ([v], rest)
    | ',' :: rest => do
      let (vs, rest) ← items? fuel rest
      some (v :: vs, rest)
    | _ => none

/-- The members of an object that has some, up to its closing brace. -/
def members? : Nat → List Char → Option (List (Text × Value) × List Char)
  | 0, _ => none
  | fuel + 1, text =>
    match skipBlanks text with
    | '"' :: rest => do
      let (name, rest) ← string? rest
      match skipBlanks rest with
      | ':' :: rest => do
        let (v, rest) ← value? fuel rest
        match skipBlanks rest with
        | '\x7d' :: rest => some ([(name, v)], rest)
        | ',' :: rest => do
          let (ms, rest) ← members? fuel rest
          some ((name, v) :: ms, rest)
        | _ => none
      | _ => none
    | _ => none

end

/-- The value that a document denotes, if it is one. -/
def parse? (document : String) : Option Value :=
  let text := document.toList
  match value? (2 * text.length + 2) text with
  | some (v, rest) => if (skipBlanks rest).isEmpty then some v else none
  | none => none

end RadioLink.Json
