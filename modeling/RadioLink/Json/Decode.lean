import RadioLink.Json.Value

/-!
# Decoding JSON values

Readers of the data that a value stands for. A reader gives nothing for a value that does not stand
for such data.

A record is an object that names its fields, in any order, or an array that gives them by position
and may stop early. What becomes of a field that is not given is up to the record. A field that is
named twice is refused; a name that is no field is passed over (`Value.fields?`) or refused
(`Value.strictFields?`).
-/

namespace RadioLink.Json.Value

variable {α : Type}

/-- A natural number below a bound. -/
def natBelow? (bound : Nat) : Value → Option Nat
  | number (.natural n) => if n < bound then some n else none
  | _ => none

/-- A byte. -/
def byte? (v : Value) : Option UInt8 :=
  (v.natBelow? UInt8.size).map UInt8.ofNat

/-- A truth value. -/
def bool? : Value → Option Bool
  | bool b => some b
  | _ => none

/-- A string that denotes characters. -/
def string? : Value → Option String
  | string text => text
  | _ => none

/-- One of several things that have names: its name, or an object whose only member has that name
and holds null. -/
def oneOf? (name : α → String) (all : List α) : Value → Option α
  | string (some s) => all.find? fun a => name a == s
  | object [(some s, null)] => all.find? fun a => name a == s
  | _ => none

/-- Null for nothing, or something. -/
def nullable? (read : Value → Option α) : Value → Option (Option α)
  | null => some none
  | v => (read v).map some

/-- An array of things of one kind. -/
def list? (read : Value → Option α) : Value → Option (List α)
  | array items => items.mapM read
  | _ => none

/-- The value of a member, if there is one. There must not be two of its name. -/
def member? (members : List (Text × Value)) (name : String) : Option (Option Value) :=
  match members.filter fun m => m.1 == some name with
  | [] => some none
  | [(_, v)] => some (some v)
  | _ => none

/-- The fields of a record that are given by position, with the missing ones left out. -/
def positional? (count : Nat) (items : List Value) : Option (List (Option Value)) :=
  if items.length ≤ count then
    some (items.map some ++ List.replicate (count - items.length) none)
  else
    none

/-- The fields of a record in the order of their names, where they are given. -/
def fields? (names : List String) : Value → Option (List (Option Value))
  | object members =>
    if members.all fun m => m.1.isSome then names.mapM (member? members) else none
  | array items => positional? names.length items
  | _ => none

/-- The fields of a record that has no others. -/
def strictFields? (names : List String) : Value → Option (List (Option Value))
  | object members =>
    if members.all fun m => m.1.any names.contains then names.mapM (member? members) else none
  | array items => positional? names.length items
  | _ => none

/-- A field that has a value of its own where none is given. -/
def orDefault? (fallback : α) (read : Value → Option α) : Option Value → Option α
  | none => some fallback
  | some v => read v

end RadioLink.Json.Value
