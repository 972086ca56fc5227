import RadioLink.Proofs.Json.Lexeme

/-!
# The texts of values

`Json.Spells` is the grammar of JSON values, and `Json.Document` says that a text is a document of a
value: the value with blanks around it and nothing else. Blanks may stand around every value and
every name, and nowhere else. An object keeps its members in their order, also those that share a
name.

A document is read as its value (`parse?_of_document`). The readers recurse under a fuel, and the
induction is on the grammar: every second call takes at least one character, so twice the length of
a text is enough for it.
-/

namespace RadioLink.Json

/-- Blanks, of which there may be none. -/
def IsBlanks (text : List Char) : Prop :=
  ∀ c ∈ text, isBlank c = true

mutual

/-- The texts of values, without blanks around them. -/
inductive Spells : List Char → Value → Prop
  | null : Spells ['n', 'u', 'l', 'l'] .null
  | yes : Spells ['t', 'r', 'u', 'e'] (.bool true)
  | no : Spells ['f', 'a', 'l', 's', 'e'] (.bool false)
  | number {text : List Char} {n : Number} : SpellsNumber text n → Spells text (.number n)
  | string {text : List Char} {s : Text} : SpellsString text s → Spells text (.string s)
  | emptyArray {blanks : List Char} : IsBlanks blanks → Spells ('[' :: blanks ++ [']']) (.array [])
  | array {text : List Char} {items : List Value} : SpellsItems text items →
      Spells ('[' :: text) (.array items)
  | emptyObject {blanks : List Char} : IsBlanks blanks →
      Spells ('\x7b' :: blanks ++ ['\x7d']) (.object [])
  | object {text : List Char} {members : List (Text × Value)} : SpellsMembers text members →
      Spells ('\x7b' :: text) (.object members)

/-- The texts of the items of an array, of which there is one at least, with the closing bracket. -/
inductive SpellsItems : List Char → List Value → Prop
  | last {before text after : List Char} {v : Value} : IsBlanks before → Spells text v →
      IsBlanks after → SpellsItems (before ++ text ++ after ++ [']']) [v]
  | more {before text after rest : List Char} {v : Value} {items : List Value} : IsBlanks before →
      Spells text v → IsBlanks after → SpellsItems rest items →
        SpellsItems (before ++ text ++ after ++ ',' :: rest) (v :: items)

/-- The texts of the members of an object, of which there is one at least, with the closing
brace. -/
inductive SpellsMembers : List Char → List (Text × Value) → Prop
  | last {before name colon value text after : List Char} {s : Text} {v : Value} : IsBlanks before →
      SpellsString name s → IsBlanks colon → IsBlanks value → Spells text v → IsBlanks after →
      SpellsMembers (before ++ name ++ colon ++ ':' :: value ++ text ++ after ++ ['\x7d']) [(s, v)]
  | more {before name colon value text after rest : List Char} {s : Text} {v : Value}
      {members : List (Text × Value)} :
      IsBlanks before → SpellsString name s → IsBlanks colon → IsBlanks value →
      Spells text v → IsBlanks after → SpellsMembers rest members →
      SpellsMembers (before ++ name ++ colon ++ ':' :: value ++ text ++ after ++ ',' :: rest)
        ((s, v) :: members)

end

/-- A text is a document of a value. -/
def Document (document : String) (v : Value) : Prop :=
  ∃ before text after, IsBlanks before ∧ Spells text v ∧ IsBlanks after ∧
    document.toList = before ++ text ++ after

/-! ## Blanks -/

variable {blanks text rest : List Char} {fuel : Nat}

theorem skipBlanks_append (h : IsBlanks blanks) (text : List Char) :
    skipBlanks (blanks ++ text) = skipBlanks text :=
  List.dropWhile_append_of_pos h

/-- At a character that is no blank nothing is skipped. -/
theorem skipBlanks_cons {c : Char} (h : isBlank c = false) (text : List Char) :
    skipBlanks (c :: text) = c :: text := by
  simp [skipBlanks, h]

/-- Blanks in front of a character that is none are skipped up to it. -/
theorem skipBlanks_append_cons {c : Char} (hblanks : IsBlanks blanks) (hc : isBlank c = false)
    (text : List Char) :
    skipBlanks (blanks ++ c :: text) = c :: text := by
  rw [skipBlanks_append hblanks, skipBlanks_cons hc]

/-- No number goes on with a sign that stands between values. -/
theorem endsNumber_cons {c : Char} (hc : c = ',' ∨ c = ']' ∨ c = '\x7d') (text : List Char) :
    EndsNumber (c :: text) := by
  intro d hd
  obtain rfl : c = d := Option.some.inj hd
  rcases hc with rfl | rfl | rfl <;> decide

/-- No number goes on with a blank. -/
theorem endsNumber_append (hblanks : IsBlanks blanks) (hrest : EndsNumber rest) :
    EndsNumber (blanks ++ rest) := by
  cases blanks with
  | nil => exact hrest
  | cons blank blanks =>
    intro d hd
    obtain rfl : blank = d := Option.some.inj hd
    have hblank := hblanks blank (List.mem_cons_self ..)
    simp only [isBlank, Bool.or_eq_true, beq_iff_eq] at hblank
    rcases hblank with ((rfl | rfl) | rfl) | rfl <;> decide

/-- A number starts with a digit or a minus sign. -/
theorem SpellsNumber.exists_cons {n : Number} (h : SpellsNumber text n) :
    ∃ c tail, text = c :: tail ∧ (c.isDigit = true ∨ c = '-') := by
  cases h with
  | natural hwhole =>
    obtain ⟨c, tail, rfl, hc⟩ := hwhole.exists_cons
    exact ⟨c, tail, rfl, .inl hc⟩
  | positive hwhole =>
    obtain ⟨c, tail, rfl, hc⟩ := hwhole.exists_cons
    exact ⟨c, _, rfl, .inl hc⟩
  | negative => exact ⟨'-', _, rfl, .inr rfl⟩

/-- A character that starts a number is none that does not. -/
theorem ne_of_startsNumber {c d : Char} (hc : c.isDigit = true ∨ c = '-')
    (hd : d.isDigit = false ∧ d ≠ '-') :
    c ≠ d := by
  rintro rfl
  rcases hc with hc | rfl
  · rw [hd.1] at hc
    cases hc
  · exact hd.2 rfl

/-- What starts a number is no blank. -/
theorem isBlank_of_startsNumber {c : Char} (hc : c.isDigit = true ∨ c = '-') :
    isBlank c = false := by
  rw [isBlank, Bool.or_eq_false_iff, Bool.or_eq_false_iff, Bool.or_eq_false_iff]
  simp only [beq_eq_false_iff_ne]
  refine ⟨⟨⟨?_, ?_⟩, ?_⟩, ?_⟩ <;> exact ne_of_startsNumber hc (by decide)

/-- A value starts with a character that is no blank and does not close an array. -/
theorem Spells.exists_cons {v : Value} (h : Spells text v) :
    ∃ c tail, text = c :: tail ∧ isBlank c = false ∧ c ≠ ']' := by
  cases h with
  | null | yes | no | emptyArray | array | emptyObject | object =>
      exact ⟨_, _, rfl, by decide, by decide⟩
  | number hn =>
    obtain ⟨c, tail, rfl, hc⟩ := hn.exists_cons
    exact ⟨c, tail, rfl, isBlank_of_startsNumber hc, ne_of_startsNumber hc (by decide)⟩
  | string hs =>
    cases hs with
    | chars | broken => exact ⟨_, _, rfl, by decide, by decide⟩

/-! ## One step of the readers

What the reader of values does is known from the first character that is no blank. -/

theorem value?_null (h : skipBlanks text = 'n' :: 'u' :: 'l' :: 'l' :: rest) :
    value? (fuel + 1) text = some (.null, rest) := by
  simp only [value?, h]

theorem value?_true (h : skipBlanks text = 't' :: 'r' :: 'u' :: 'e' :: rest) :
    value? (fuel + 1) text = some (.bool true, rest) := by
  simp only [value?, h]

theorem value?_false (h : skipBlanks text = 'f' :: 'a' :: 'l' :: 's' :: 'e' :: rest) :
    value? (fuel + 1) text = some (.bool false, rest) := by
  simp only [value?, h]

/-- At a quotation mark the reader of values reads a string. -/
theorem value?_string (h : skipBlanks text = '"' :: rest) :
    value? (fuel + 1) text = (string? rest).map fun (s, rest) => (.string s, rest) := by
  simp only [value?, h]

/-- At a digit or a minus sign it reads a number. -/
theorem value?_number {c : Char} {tail : List Char} (hc : c.isDigit = true ∨ c = '-')
    (h : skipBlanks text = c :: tail) :
    value? (fuel + 1) text = (number? (c :: tail)).map fun (n, rest) => (.number n, rest) := by
  have hother {d : Char} {after : List Char} (hd : d.isDigit = false ∧ d ≠ '-') :
      c :: tail ≠ d :: after :=
    fun heq => ne_of_startsNumber hc hd (List.cons.inj heq).1
  rw [value?, h]
  split
  · next heq => exact absurd heq (hother (by decide))
  · next heq => exact absurd heq (hother (by decide))
  · next heq => exact absurd heq (hother (by decide))
  · next heq => exact absurd heq (hother (by decide))
  · next heq => exact absurd heq (hother (by decide))
  · next heq => exact absurd heq (hother (by decide))
  · rfl

/-- At an opening bracket with the closing one next it reads an array of nothing. -/
theorem value?_emptyArray {after : List Char} (h : skipBlanks text = '[' :: rest)
    (hafter : skipBlanks rest = ']' :: after) :
    value? (fuel + 1) text = some (.array [], after) := by
  simp only [value?, h, hafter]

/-- At an opening bracket with anything else next it reads items. -/
theorem value?_array {c : Char} {tail : List Char} (h : skipBlanks text = '[' :: rest)
    (hitem : skipBlanks rest = c :: tail) (hc : c ≠ ']') :
    value? (fuel + 1) text = (items? fuel rest).map fun (vs, rest) => (.array vs, rest) := by
  simp only [value?, h, hitem]
  split
  · next heq => exact absurd (List.cons.inj heq).1 hc
  · rfl

/-- At an opening brace with the closing one next it reads an object of nothing. -/
theorem value?_emptyObject {after : List Char} (h : skipBlanks text = '\x7b' :: rest)
    (hafter : skipBlanks rest = '\x7d' :: after) :
    value? (fuel + 1) text = some (.object [], after) := by
  simp only [value?, h, hafter]

/-- At an opening brace with a quotation mark next it reads members. -/
theorem value?_object {tail : List Char} (h : skipBlanks text = '\x7b' :: rest)
    (hname : skipBlanks rest = '"' :: tail) :
    value? (fuel + 1) text = (members? fuel rest).map fun (ms, rest) => (.object ms, rest) := by
  simp only [value?, h, hname]
  rfl

/-- The reader of items goes on behind a comma. -/
theorem items?_more {v : Value} {after next : List Char} (hv : value? fuel text = some (v, after))
    (h : skipBlanks after = ',' :: next) :
    items? (fuel + 1) text = (items? fuel next).map fun (vs, rest) => (v :: vs, rest) := by
  simp only [items?, hv, Option.bind_eq_bind, Option.bind_some, h]
  cases items? fuel next <;> rfl

/-- The reader of items ends behind the closing bracket. -/
theorem items?_last {v : Value} {after : List Char} (hv : value? fuel text = some (v, after))
    (h : skipBlanks after = ']' :: rest) : items? (fuel + 1) text = some ([v], rest) := by
  simp only [items?, hv, Option.bind_eq_bind, Option.bind_some, h]

/-- The reader of members goes on behind a comma. -/
theorem members?_more {s : Text} {v : Value} {name colon value after next : List Char}
    (hname : skipBlanks text = '"' :: name) (hs : string? name = some (s, colon))
    (hcolon : skipBlanks colon = ':' :: value) (hv : value? fuel value = some (v, after))
    (h : skipBlanks after = ',' :: next) :
    members? (fuel + 1) text = (members? fuel next).map fun (ms, rest) => ((s, v) :: ms, rest) := by
  simp only [members?, hname, hs, hcolon, hv, Option.bind_eq_bind, Option.bind_some, h]
  cases members? fuel next <;> rfl

/-- The reader of members ends behind the closing brace. -/
theorem members?_last {s : Text} {v : Value} {name colon value after : List Char}
    (hname : skipBlanks text = '"' :: name) (hs : string? name = some (s, colon))
    (hcolon : skipBlanks colon = ':' :: value) (hv : value? fuel value = some (v, after))
    (h : skipBlanks after = '\x7d' :: rest) : members? (fuel + 1) text = some ([(s, v)], rest) := by
  simp only [members?, hname, hs, hcolon, hv, Option.bind_eq_bind, Option.bind_some, h]

/-! ## Reading what is spelled -/

/-- Blanks in front of a value are skipped up to it. -/
theorem Spells.skipBlanks {v : Value} (h : Spells text v) (hblanks : IsBlanks blanks)
    (rest : List Char) :
    skipBlanks (blanks ++ (text ++ rest)) = text ++ rest := by
  obtain ⟨c, tail, rfl, hc, -⟩ := h.exists_cons
  exact skipBlanks_append_cons hblanks hc (tail ++ rest)

/-- Blanks in front of a string are skipped, and the string is read. -/
theorem SpellsString.skipBlanks {s : Text} (h : SpellsString text s) (hblanks : IsBlanks blanks)
    (rest : List Char) :
    ∃ inner, Json.skipBlanks (blanks ++ (text ++ rest)) = '"' :: inner ∧
      string? inner = some (s, rest) := by
  obtain ⟨inner, htext, hread⟩ := string?_append h rest
  refine ⟨inner, ?_, hread⟩
  rw [htext, skipBlanks_append_cons hblanks (by decide)]

/-- Items start with a value, so that the array is not taken to be empty. -/
theorem SpellsItems.skipBlanks {items : List Value} (h : SpellsItems text items)
    (rest : List Char) :
    ∃ c tail, Json.skipBlanks (text ++ rest) = c :: tail ∧ c ≠ ']' := by
  cases h with
  | last hbefore hv | more hbefore hv =>
    simp only [List.append_assoc]
    rw [hv.skipBlanks hbefore]
    obtain ⟨c, tail, rfl, -, hc⟩ := hv.exists_cons
    exact ⟨c, _, rfl, hc⟩

/-- Members start with a name, so that the object is not taken to be empty. -/
theorem SpellsMembers.skipBlanks {members : List (Text × Value)} (h : SpellsMembers text members)
    (rest : List Char) :
    ∃ tail, Json.skipBlanks (text ++ rest) = '"' :: tail := by
  cases h with
  | last hbefore hs | more hbefore hs =>
    simp only [List.append_assoc]
    obtain ⟨inner, hskip, -⟩ := hs.skipBlanks hbefore _
    exact ⟨inner, hskip⟩

mutual

/-- What spells a value is read as that value, whatever stands behind it, as long as no number goes
on with that. -/
theorem value?_of_spells {text : List Char} {v : Value} :
    Spells text v → ∀ {fuel : Nat} {input rest : List Char},
    skipBlanks input = text ++ rest → EndsNumber rest → 2 * text.length ≤ fuel →
    value? fuel input = some (v, rest)
  | .null, _ + 1, _, _, hinput, _, _ => value?_null hinput
  | .yes, _ + 1, _, _, hinput, _, _ => value?_true hinput
  | .no, _ + 1, _, _, hinput, _, _ => value?_false hinput
  | .number hn, fuel, input, rest, hinput, hrest, hfuel => by
    have hread := number?_append hn hrest
    obtain ⟨c, tail, rfl, hc⟩ := hn.exists_cons
    obtain ⟨fuel, rfl⟩ : ∃ k, fuel = k + 1 := ⟨fuel - 1, by rw [List.length_cons] at hfuel; omega⟩
    rw [List.cons_append] at hinput hread
    rw [value?_number hc hinput, hread]
    rfl
  | .string hs, fuel, input, rest, hinput, _, hfuel => by
    obtain ⟨inner, htext, hread⟩ := string?_append hs rest
    obtain ⟨fuel, rfl⟩ : ∃ k, fuel = k + 1 := ⟨fuel - 1, by cases hs <;> simp at hfuel <;> omega⟩
    rw [htext] at hinput
    rw [value?_string hinput, hread]
    rfl
  | .emptyArray hinner, fuel + 1, input, rest, hinput, _, _ => by
    rw [List.cons_append, List.cons_append, List.append_assoc] at hinput
    exact value?_emptyArray hinput (skipBlanks_append_cons hinner (by decide) rest)
  | .array hitems, fuel + 1, input, rest, hinput, _, hfuel => by
    obtain ⟨c, tail, hskip, hc⟩ := hitems.skipBlanks rest
    rw [List.cons_append] at hinput
    rw [value?_array hinput hskip hc,
      items?_of_spells hitems (by rw [List.length_cons] at hfuel; omega)]
    rfl
  | .emptyObject hinner, fuel + 1, input, rest, hinput, _, _ => by
    rw [List.cons_append, List.cons_append, List.append_assoc] at hinput
    exact value?_emptyObject hinput (skipBlanks_append_cons hinner (by decide) rest)
  | .object hmembers, fuel + 1, input, rest, hinput, _, hfuel => by
    obtain ⟨tail, hskip⟩ := hmembers.skipBlanks rest
    rw [List.cons_append] at hinput
    rw [value?_object hinput hskip,
      members?_of_spells hmembers (by rw [List.length_cons] at hfuel; omega)]
    rfl

/-- The items of an array are read, each under the fuel that its predecessors leave. -/
theorem items?_of_spells {text : List Char} {items : List Value} : SpellsItems text items →
    ∀ {fuel : Nat} {rest : List Char}, 2 * text.length ≤ fuel →
      items? fuel (text ++ rest) = some (items, rest)
  | .last hbefore hv hafter, fuel, rest, hfuel => by
    obtain ⟨fuel, rfl⟩ : ∃ k, fuel = k + 1 := ⟨fuel - 1, by simp at hfuel; omega⟩
    simp only [List.length_append, List.length_cons] at hfuel
    simp only [List.append_assoc, List.cons_append, List.nil_append]
    have hend := endsNumber_append hafter (endsNumber_cons (c := ']') (by decide) rest)
    exact items?_last (value?_of_spells hv (hv.skipBlanks hbefore _) hend (by omega))
      (skipBlanks_append_cons hafter (by decide) rest)
  | @SpellsItems.more _ _ _ next _ _ hbefore hv hafter hitems, fuel, rest, hfuel => by
    obtain ⟨fuel, rfl⟩ : ∃ k, fuel = k + 1 := ⟨fuel - 1, by simp at hfuel; omega⟩
    simp only [List.length_append, List.length_cons] at hfuel
    simp only [List.append_assoc, List.cons_append]
    have hend := endsNumber_append hafter (endsNumber_cons (c := ',') (by decide) (next ++ rest))
    rw [items?_more (value?_of_spells hv (hv.skipBlanks hbefore _) hend (by omega))
      (skipBlanks_append_cons hafter (by decide) (next ++ rest)),
      items?_of_spells hitems (by omega)]
    rfl

/-- The members of an object are read, in their order. -/
theorem members?_of_spells {text : List Char} {members : List (Text × Value)} :
    SpellsMembers text members →
    ∀ {fuel : Nat} {rest : List Char}, 2 * text.length ≤ fuel →
      members? fuel (text ++ rest) = some (members, rest)
  | .last hbefore hs hcolon hvalue hv hafter, fuel, rest, hfuel => by
    obtain ⟨fuel, rfl⟩ : ∃ k, fuel = k + 1 := ⟨fuel - 1, by simp at hfuel; omega⟩
    simp only [List.length_append, List.length_cons] at hfuel
    simp only [List.append_assoc, List.cons_append, List.nil_append]
    have hend := endsNumber_append hafter (endsNumber_cons (c := '\x7d') (by decide) rest)
    obtain ⟨inner, hskip, hname⟩ := hs.skipBlanks hbefore _
    exact members?_last hskip hname (skipBlanks_append_cons hcolon (by decide) _)
      (value?_of_spells hv (hv.skipBlanks hvalue _) hend (by omega))
      (skipBlanks_append_cons hafter (by decide) rest)
  | @SpellsMembers.more _ _ _ _ _ _ next _ _ _ hbefore hs hcolon hvalue hv hafter hmembers, fuel,
      rest, hfuel => by
    obtain ⟨fuel, rfl⟩ : ∃ k, fuel = k + 1 := ⟨fuel - 1, by simp at hfuel; omega⟩
    simp only [List.length_append, List.length_cons] at hfuel
    simp only [List.append_assoc, List.cons_append]
    have hend := endsNumber_append hafter (endsNumber_cons (c := ',') (by decide) (next ++ rest))
    obtain ⟨inner, hskip, hname⟩ := hs.skipBlanks hbefore _
    rw [members?_more hskip hname (skipBlanks_append_cons hcolon (by decide) _)
      (value?_of_spells hv (hv.skipBlanks hvalue _) hend (by omega))
      (skipBlanks_append_cons hafter (by decide) (next ++ rest)),
      members?_of_spells hmembers (by omega)]
    rfl

end

/-- A document is read as its value. -/
theorem parse?_of_document {document : String} {v : Value} (h : Document document v) :
    parse? document = some v := by
  obtain ⟨before, text, after, hbefore, hv, hafter, hdocument⟩ := h
  have hend : EndsNumber after := by
    rw [← List.append_nil after]
    exact endsNumber_append hafter nofun
  have hskip := hv.skipBlanks hbefore after
  rw [← List.append_assoc, ← hdocument] at hskip
  have hfuel : 2 * text.length ≤ 2 * document.toList.length + 2 := by
    rw [hdocument]
    simp only [List.length_append]
    omega
  have hread := value?_of_spells hv hskip hend hfuel
  have hnothing : skipBlanks after = [] := List.dropWhile_eq_nil_iff.2 hafter
  simp only [parse?, hread, hnothing]
  rfl

/-! ## Writing -/

theorem spells_ofNat (n : Nat) : Spells (Value.ofNat n).chars (.ofNat n) :=
  .number (spellsNumber_natural n)

/-- A string is printed as one of its texts. -/
theorem spells_ofString (s : String) : Spells (Value.ofString s).chars (.ofString s) :=
  .string (spellsString_chars s)

theorem spells_bool (b : Bool) : Spells (Value.bool b).chars (.bool b) := by
  cases b with
  | false => exact .no
  | true => exact .yes

/-- Members are written as they are spelled, without blanks. -/
theorem spellsMembers_chars (name : String) {v : Value} {members : List (Text × Value)}
    (hv : Spells v.chars v) (hmembers : ∀ m ∈ members, m.1 ≠ none ∧ Spells m.2.chars m.2) :
    SpellsMembers (Text.chars (some name) ++ ':' :: v.chars ++ Value.memberChars members)
      ((some name, v) :: members) := by
  have hname := spellsString_chars name
  induction members generalizing name v with
  | nil =>
    have hlast := SpellsMembers.last (List.forall_mem_nil _) hname (List.forall_mem_nil _)
      (List.forall_mem_nil _) hv (List.forall_mem_nil _)
    simpa [Value.memberChars] using hlast
  | cons m members ih =>
    obtain ⟨⟨hnext, hw⟩, hrest⟩ := List.forall_mem_cons.1 hmembers
    obtain ⟨next | next, w⟩ := m
    · exact absurd rfl hnext
    · have hmore := SpellsMembers.more (List.forall_mem_nil _) hname (List.forall_mem_nil _)
        (List.forall_mem_nil _) hv
        (List.forall_mem_nil _) (ih next hw hrest (spellsString_chars next))
      simpa [Value.memberChars] using hmore

/-- An object is written as it is spelled if its members are. -/
theorem spells_object {members : List (Text × Value)}
    (hmembers : ∀ m ∈ members, m.1 ≠ none ∧ Spells m.2.chars m.2) :
    Spells (Value.object members).chars (.object members) := by
  cases members with
  | nil => exact .emptyObject (List.forall_mem_nil _)
  | cons m members =>
    obtain ⟨⟨hname, hv⟩, hrest⟩ := List.forall_mem_cons.1 hmembers
    obtain ⟨name | name, v⟩ := m
    · exact absurd rfl hname
    · have hobject := Spells.object (spellsMembers_chars name hv hrest)
      simpa [Value.chars] using hobject

/-- A value that is printed as one of its texts is rendered as a document of it. -/
theorem document_render {v : Value} (h : Spells v.chars v) : Document v.render v :=
  ⟨[], v.chars, [], List.forall_mem_nil _, h, List.forall_mem_nil _, by simp [Value.render]⟩

end RadioLink.Json
