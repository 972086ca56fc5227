import Mathlib.Data.List.TakeWhile
import RadioLink.Json.Parser
import RadioLink.Json.Printer

/-!
# The texts of numbers and strings

`Json.SpellsNumber` and `Json.SpellsString` are the grammar of the two kinds of JSON values that
have many texts. A number is a whole part, a fraction and an exponent, the latter two of which may
be missing, and it may be negative. A string is a run of pieces between quotes: characters, short
escapes and escapes by number. The pieces denote characters (`Denotes`), with two units for a
character beyond sixteen bits, unless half of such a pair is alone.

What the grammar spells is read, and what stands behind it is left (`number?_append`,
`string?_append`). A number has no end of its own, so what stands behind it must not go on with it
(`EndsNumber`). What is written is spelled (`spellsNumber_natural`, `spellsString_chars`).
-/

namespace RadioLink.Json

open RadioLink.Text (hexDigit hexDigit?)
open RadioLink.Text.Decimal (ofDigits)

variable {text rest digits whole fraction exponent : List Char}

/-! ## Numbers -/

/-- Digits, of which there is one at least. -/
def IsDigits (text : List Char) : Prop :=
  text ≠ [] ∧ ∀ c ∈ text, c.isDigit = true

/-- The digits of a whole number. They start with a zero only if that is all. -/
def IsWhole (text : List Char) : Prop :=
  IsDigits text ∧ (text.head? = some '0' → text = ['0'])

/-- A point with digits behind it, or nothing. -/
inductive IsFraction : List Char → Prop
  | none : IsFraction []
  | digits {digits : List Char} : IsDigits digits → IsFraction ('.' :: digits)

/-- A mark with digits behind it, which may have a sign, or nothing. -/
inductive IsExponent : List Char → Prop
  | none : IsExponent []
  | digits {mark : Char} {sign digits : List Char} : mark = 'e' ∨ mark = 'E' →
      sign ∈ [[], ['+'], ['-']] → IsDigits digits → IsExponent (mark :: sign ++ digits)

/-- The texts of numbers. Digits alone are told apart from everything else. -/
inductive SpellsNumber : List Char → Number → Prop
  | natural {whole : List Char} : IsWhole whole → SpellsNumber whole (.natural (ofDigits whole))
  | positive {whole fraction exponent : List Char} : IsWhole whole → IsFraction fraction →
      IsExponent exponent → fraction ≠ [] ∨ exponent ≠ [] →
      SpellsNumber (whole ++ fraction ++ exponent) (.spelled (whole ++ fraction ++ exponent))
  | negative {whole fraction exponent : List Char} : IsWhole whole → IsFraction fraction →
      IsExponent exponent →
      SpellsNumber ('-' :: (whole ++ fraction ++ exponent))
        (.spelled ('-' :: (whole ++ fraction ++ exponent)))

/-- A text does not go on with a number that ends in front of it. -/
def EndsNumber (rest : List Char) : Prop :=
  ∀ c ∈ rest.head?, c.isDigit = false ∧ c ≠ '.' ∧ c ≠ 'e' ∧ c ≠ 'E'

/-- Digits are read up to the first character that is none. -/
theorem digits?_append (h : IsDigits digits) (hrest : ∀ c ∈ rest.head?, c.isDigit = false) :
    digits? (digits ++ rest) = some (digits, rest) := by
  have htake : rest.takeWhile Char.isDigit = [] := by
    cases rest with
    | nil => rfl
    | cons c rest => simp [hrest c rfl]
  have hdrop : rest.dropWhile Char.isDigit = rest := by
    cases rest with
    | nil => rfl
    | cons c rest => simp [hrest c rfl]
  rw [digits?, List.takeWhile_append_of_pos h.2, List.dropWhile_append_of_pos h.2, htake, hdrop,
    List.append_nil]
  split
  · exact absurd rfl h.1
  · rfl

/-- A whole number is read up to the first character that is no digit. -/
theorem wholePart?_append (h : IsWhole whole) (hrest : ∀ c ∈ rest.head?, c.isDigit = false) :
    wholePart? (whole ++ rest) = some (whole, rest) := by
  rw [wholePart?, digits?_append h.1 hrest]
  split
  · next hzero =>
    obtain ⟨rfl, -⟩ := Prod.mk.inj (Option.some.inj hzero)
    cases h.2 rfl
  · rfl

/-- A fraction is read, also if it is nothing. -/
theorem fraction?_append (h : IsFraction fraction)
    (hrest : ∀ c ∈ rest.head?, c.isDigit = false ∧ c ≠ '.') :
    fraction? (fraction ++ rest) = some (fraction, rest) := by
  cases h with
  | none =>
    rw [List.nil_append, fraction?.eq_def]
    split
    · exact absurd rfl (hrest '.' rfl).2
    · rfl
  | digits hdigits =>
    rw [List.cons_append, fraction?, digits?_append hdigits fun c hc => (hrest c hc).1]
    rfl

/-- The sign of an exponent is read, also if there is none. -/
theorem exponentSign_append {sign : List Char} (hsign : sign ∈ [[], ['+'], ['-']])
    (h : IsDigits digits) :
    exponentSign (sign ++ (digits ++ rest)) = (sign, digits ++ rest) := by
  simp only [List.mem_cons, List.not_mem_nil, or_false] at hsign
  rcases hsign with rfl | rfl | rfl
  · obtain ⟨c, digits, rfl⟩ := List.exists_cons_of_ne_nil h.1
    have hc := h.2 c (List.mem_cons_self ..)
    rw [List.nil_append, List.cons_append, exponentSign.eq_def]
    split
    · next hplus =>
      obtain ⟨rfl, -⟩ := List.cons.inj hplus
      exact absurd hc (by decide)
    · next hminus =>
      obtain ⟨rfl, -⟩ := List.cons.inj hminus
      exact absurd hc (by decide)
    · rfl
  · rfl
  · rfl

/-- An exponent is read, also if it is nothing. -/
theorem exponent?_append (h : IsExponent exponent) (hrest : EndsNumber rest) :
    exponent? (exponent ++ rest) = some (exponent, rest) := by
  cases h with
  | none =>
    cases rest with
    | nil => rfl
    | cons c rest => simp [exponent?, hrest c rfl]
  | digits hmark hsign hdigits =>
    rw [List.append_assoc, List.cons_append, exponent?, if_pos hmark,
      exponentSign_append hsign hdigits]
    simp only [digits?_append hdigits fun c hc => (hrest c hc).1, Option.map_some, List.cons_append]

/-- A fraction and an exponent do not go on with digits. -/
theorem not_digit_of_mem_head? (hfraction : IsFraction fraction) (hexponent : IsExponent exponent)
    (hrest : EndsNumber rest) :
    ∀ c ∈ (fraction ++ (exponent ++ rest)).head?, c.isDigit = false := by
  intro c hc
  cases hfraction with
  | digits => cases hc; rfl
  | none =>
    cases hexponent with
    | none => exact (hrest c hc).1
    | digits hmark =>
      cases hc
      rcases hmark with rfl | rfl <;> rfl

/-- An exponent does not go on with a fraction. -/
theorem not_point_of_mem_head? (hexponent : IsExponent exponent) (hrest : EndsNumber rest) :
    ∀ c ∈ (exponent ++ rest).head?, c.isDigit = false ∧ c ≠ '.' := by
  intro c hc
  cases hexponent with
  | none => exact ⟨(hrest c hc).1, (hrest c hc).2.1⟩
  | digits hmark =>
    cases hc
    rcases hmark with rfl | rfl <;> exact ⟨rfl, by decide⟩

/-- A number without a sign is read as digits alone if it has no other part. -/
theorem unsigned?_append (hwhole : IsWhole whole) (hfraction : IsFraction fraction)
    (hexponent : IsExponent exponent) (hrest : EndsNumber rest) :
    unsigned? (whole ++ fraction ++ exponent ++ rest) =
      some (if fraction = [] ∧ exponent = [] then .natural (ofDigits whole)
        else .spelled (whole ++ fraction ++ exponent), rest) := by
  rw [List.append_assoc, List.append_assoc, unsigned?,
    wholePart?_append hwhole (not_digit_of_mem_head? hfraction hexponent hrest)]
  simp only [Option.bind_eq_bind, Option.bind_some,
    fraction?_append hfraction (not_point_of_mem_head? hexponent hrest),
      exponent?_append hexponent hrest]
  cases fraction with
  | cons => simp
  | nil => cases exponent <;> simp

/-- A whole number starts with a digit. -/
theorem IsWhole.exists_cons (h : IsWhole whole) :
    ∃ c tail, whole = c :: tail ∧ c.isDigit = true := by
  obtain ⟨c, tail, rfl⟩ := List.exists_cons_of_ne_nil h.1.1
  exact ⟨c, tail, rfl, h.1.2 c (List.mem_cons_self ..)⟩

/-- A number that starts with a digit has no sign. -/
theorem number?_of_digit {c : Char} (hc : c.isDigit = true) :
    number? (c :: text) = unsigned? (c :: text) := by
  rw [number?.eq_def]
  split
  · next hminus =>
    obtain ⟨rfl, -⟩ := List.cons.inj hminus
    exact absurd hc (by decide)
  · rfl

/-- What spells a number is read as that number, up to where it ends. -/
theorem number?_append {n : Number} (h : SpellsNumber text n) (hrest : EndsNumber rest) :
    number? (text ++ rest) = some (n, rest) := by
  cases h with
  | natural hwhole =>
    have hread := unsigned?_append hwhole .none .none hrest
    rw [List.append_nil, List.append_nil] at hread
    obtain ⟨c, tail, rfl, hc⟩ := hwhole.exists_cons
    rw [List.cons_append, number?_of_digit hc, ← List.cons_append, hread]
    rfl
  | positive hwhole hfraction hexponent hparts =>
    have hread := unsigned?_append hwhole hfraction hexponent hrest
    rw [if_neg (not_and_or.2 hparts)] at hread
    obtain ⟨c, tail, rfl, hc⟩ := hwhole.exists_cons
    simp only [List.cons_append] at hread ⊢
    rw [number?_of_digit hc, hread]
  | negative hwhole hfraction hexponent =>
    rw [List.cons_append, number?, unsigned?_append hwhole hfraction hexponent hrest,
      Option.map_some]
    dsimp only
    rw [List.length_append, Nat.add_sub_cancel, List.take_left' rfl]

/-! ### Written numbers -/

/-- No digit but zero is printed as a zero. -/
theorem eq_zero_of_digitChar : ∀ n < 10, Nat.digitChar n = '0' → n = 0 := by
  decide

/-- Only zero is written with a zero in front. -/
theorem head?_toDigits (n : Nat) : (Nat.toDigits 10 n).head? = some '0' → n = 0 := by
  induction n using Nat.strongRecOn with
  | ind n ih =>
    rw [Nat.toDigits_eq_if (by decide)]
    split
    · next hn =>
      intro hhead
      exact eq_zero_of_digitChar n hn (Option.some.inj hhead)
    · next hn =>
      intro hhead
      obtain ⟨c, tail, hdigits⟩ :=
        List.exists_cons_of_ne_nil (Nat.toDigits_ne_nil (n := n / 10) (b := 10))
      have hfront := ih (n / 10) (by omega)
      rw [hdigits] at hhead hfront
      have := hfront hhead
      omega

/-- The decimal digits of a natural number are one of its texts. -/
theorem spellsNumber_natural (n : Nat) : SpellsNumber (Nat.toDigits 10 n) (.natural n) := by
  have hvalue : ofDigits (Nat.toDigits 10 n) = n := by
    rw [ofDigits, ← Nat.ofDigitChars_eq_foldl]
    exact Nat.ofDigitChars_ten_toDigits
  have hwhole : IsWhole (Nat.toDigits 10 n) := by
    refine ⟨⟨Nat.toDigits_ne_nil,
      fun c hc => Nat.isDigit_of_mem_toDigits (by decide) (by decide) hc⟩, fun hzero => ?_⟩
    rw [head?_toDigits n hzero]
    rfl
  have hspells := SpellsNumber.natural hwhole
  rwa [hvalue] at hspells

/-! ## Strings -/

/-- The pieces of a string. -/
inductive SpellsPieces : List Char → List Piece → Prop
  | nil : SpellsPieces [] []
  | plain {c : Char} {text : List Char} {pieces : List Piece} : c ≠ '"' → c ≠ '\\' →
      0x20 ≤ c.toNat → SpellsPieces text pieces → SpellsPieces (c :: text) (.char c :: pieces)
  | short {escape c : Char} {text : List Char} {pieces : List Piece} :
      shortEscape? escape = some c →
      SpellsPieces text pieces → SpellsPieces ('\\' :: escape :: text) (.char c :: pieces)
  | unit {a b c d : Char} {n : Nat} {text : List Char} {pieces : List Piece} :
      unit? a b c d = some n →
      SpellsPieces text pieces →
        SpellsPieces ('\\' :: 'u' :: a :: b :: c :: d :: text) (.unit n :: pieces)

/-- The characters that pieces denote. A unit denotes its character unless it is half of a surrogate
pair, and a pair of halves in the right order denotes one character. -/
inductive Denotes : List Piece → List Char → Prop
  | nil : Denotes [] []
  | char {c : Char} {pieces : List Piece} {chars : List Char} : Denotes pieces chars →
      Denotes (.char c :: pieces) (c :: chars)
  | unit {n : Nat} {pieces : List Piece} {chars : List Char} : isHigh n = false → isLow n = false →
      Denotes pieces chars → Denotes (.unit n :: pieces) (Char.ofNat n :: chars)
  | pair {n m : Nat} {pieces : List Piece} {chars : List Char} : isHigh n = true → isLow m = true →
      Denotes pieces chars →
      Denotes (.unit n :: .unit m :: pieces)
        (Char.ofNat (0x10000 + (n - 0xD800) * 0x400 + (m - 0xDC00)) :: chars)

/-- The texts of strings, with their quotes. A string whose pieces denote no characters denotes
nothing. -/
inductive SpellsString : List Char → Text → Prop
  | chars {text chars : List Char} {pieces : List Piece} : SpellsPieces text pieces →
      Denotes pieces chars → SpellsString ('"' :: text ++ ['"']) (some (String.ofList chars))
  | broken {text : List Char} {pieces : List Piece} : SpellsPieces text pieces →
      (∀ chars, ¬Denotes pieces chars) → SpellsString ('"' :: text ++ ['"']) none

/-- The pieces of a string are read up to the quotation mark behind them. -/
theorem pieces?_append {pieces : List Piece} (h : SpellsPieces text pieces) (rest : List Char) :
    pieces? (text ++ '"' :: rest) = some (pieces, rest) := by
  induction h with
  | nil => rfl
  | @plain c text pieces hquote hescape hcontrol _ ih =>
    rw [List.cons_append, pieces?.eq_def]
    split
    · next hnil => cases hnil
    · next hcons => exact absurd (List.cons.inj hcons).1 hquote
    · next hcons => exact absurd (List.cons.inj hcons).1 hescape
    · next hcons => exact absurd (List.cons.inj hcons).1 hescape
    · next hcons =>
      obtain ⟨rfl, rfl⟩ := List.cons.inj hcons
      rw [if_neg (not_or.2 ⟨hescape, Nat.not_lt.2 hcontrol⟩), ih]
      rfl
  | @short escape c text pieces hc _ ih =>
    rw [List.cons_append, List.cons_append, pieces?.eq_def]
    split
    · next hnil => cases hnil
    · next hcons => cases (List.cons.inj hcons).1
    · next hcons =>
      obtain ⟨rfl, -⟩ := List.cons.inj (List.cons.inj hcons).2
      cases hc
    · next hcons =>
      obtain ⟨rfl, rfl⟩ := List.cons.inj (List.cons.inj hcons).2
      simp only [hc, ih, Option.bind_eq_bind, Option.bind_some]
    · next hother hcons =>
      obtain ⟨rfl, rfl⟩ := List.cons.inj hcons
      exact (hother escape _ rfl rfl).elim
  | unit hn _ ih =>
    simp only [List.cons_append, pieces?, hn, ih, Option.bind_eq_bind, Option.bind_some]

/-- The reader joins what denotes characters, and nothing else. -/
theorem join?_eq_some_iff {pieces : List Piece} {chars : List Char} :
    join? pieces = some chars ↔ Denotes pieces chars := by
  constructor
  · intro h
    fun_induction join? pieces generalizing chars with
    | case1 =>
      obtain rfl := Option.some.inj h
      exact .nil
    | case2 c rest ih =>
      obtain ⟨chars, hrest, rfl⟩ := Option.map_eq_some_iff.1 h
      exact .char (ih hrest)
    | case3 => cases h
    | case4 n hlow hhigh m rest hlow' ih =>
      obtain ⟨chars, hrest, rfl⟩ := Option.map_eq_some_iff.1 h
      exact .pair hhigh hlow' (ih hrest)
    | case5 | case6 => cases h
    | case7 n rest hlow hhigh ih =>
      obtain ⟨chars, hrest, rfl⟩ := Option.map_eq_some_iff.1 h
      exact .unit (Bool.eq_false_iff.2 hhigh) (Bool.eq_false_iff.2 hlow) (ih hrest)
  · intro h
    induction h with
    | nil => rfl
    | char _ ih => simp [join?, ih]
    | unit hhigh hlow _ ih =>
      rw [join?.eq_def]
      simp [hhigh, hlow, ih]
    | @pair n m _ _ hhigh hlow _ ih =>
      have hboth : isLow n = false := by
        rw [isHigh, Bool.and_eq_true, decide_eq_true_iff, decide_eq_true_iff] at hhigh
        rw [isLow, Bool.and_eq_false_iff, decide_eq_false_iff_not]
        omega
      simp [join?, hhigh, hlow, hboth, ih]

/-- What spells a string is read as that string, up to its closing quote. -/
theorem string?_append {s : Text} (h : SpellsString text s) (rest : List Char) :
    ∃ inner, text ++ rest = '"' :: inner ∧ string? inner = some (s, rest) := by
  cases h with
  | @chars inner chars pieces hpieces hdenotes =>
    refine ⟨inner ++ '"' :: rest, by simp, ?_⟩
    simp only [string?, pieces?_append hpieces, Option.map_some, join?_eq_some_iff.2 hdenotes]
  | @broken inner pieces hpieces hnone =>
    refine ⟨inner ++ '"' :: rest, by simp, ?_⟩
    have hjoin : join? pieces = none :=
      Option.eq_none_iff_forall_not_mem.2 fun chars hchars =>
        hnone chars (join?_eq_some_iff.1 hchars)
    simp only [string?, pieces?_append hpieces, Option.map_some, hjoin, Option.map_none]

/-! ### Written strings -/

/-- The ways in which a character of a string is written. -/
theorem escaped_cases (c : Char) :
    (∃ escape, shortEscape? escape = some c ∧ escaped c = ['\\', escape]) ∨
    (c.toNat < 0x20 ∧
      escaped c = ['\\', 'u', '0', '0', hexDigit (c.toNat / 16), hexDigit (c.toNat % 16)]) ∨
    (c ≠ '"' ∧ c ≠ '\\' ∧ 0x20 ≤ c.toNat ∧ escaped c = [c]) := by
  unfold escaped
  split
  · next h => exact .inl ⟨'"', by rw [h]; rfl, rfl⟩
  split
  · next h => exact .inl ⟨'\\', by rw [h]; rfl, rfl⟩
  split
  · next h => exact .inl ⟨'b', by rw [h]; rfl, rfl⟩
  split
  · next h => exact .inl ⟨'f', by rw [h]; rfl, rfl⟩
  split
  · next h => exact .inl ⟨'n', by rw [h]; rfl, rfl⟩
  split
  · next h => exact .inl ⟨'r', by rw [h]; rfl, rfl⟩
  split
  · next h => exact .inl ⟨'t', by rw [h]; rfl, rfl⟩
  split
  · next hcontrol => exact .inr (.inl ⟨hcontrol, rfl⟩)
  · next hquote hescape _ _ _ _ _ hcontrol =>
      exact .inr (.inr ⟨hquote, hescape, Nat.not_lt.1 hcontrol, rfl⟩)

/-- The number of a control character is written with four digits. -/
theorem unit?_control {n : Nat} (h : n < 0x20) :
    unit? '0' '0' (hexDigit (n / 16)) (hexDigit (n % 16)) = some n := by
  have hall : ∀ n < 0x20, unit? '0' '0' (hexDigit (n / 16)) (hexDigit (n % 16)) = some n := by
    decide
  exact hall n h

/-- Characters that are escaped are pieces that denote them. -/
theorem exists_pieces (chars : List Char) :
    ∃ pieces, SpellsPieces (chars.flatMap escaped) pieces ∧ Denotes pieces chars := by
  induction chars with
  | nil => exact ⟨[], .nil, .nil⟩
  | cons c chars ih =>
    obtain ⟨pieces, hpieces, hdenotes⟩ := ih
    rw [List.flatMap_cons]
    rcases escaped_cases c with ⟨escape, hescape, hwritten⟩ | ⟨hcontrol, hwritten⟩ |
      ⟨hquote, hescape, hcontrol, hwritten⟩
    · rw [hwritten]
      exact ⟨_, .short hescape hpieces, .char hdenotes⟩
    · rw [hwritten]
      have hhigh : isHigh c.toNat = false := by simp [isHigh]; omega
      have hlow : isLow c.toNat = false := by simp [isLow]; omega
      have hunit := Denotes.unit hhigh hlow hdenotes
      rw [Char.ofNat_toNat] at hunit
      exact ⟨_, .unit (unit?_control hcontrol) hpieces, hunit⟩
    · rw [hwritten]
      exact ⟨_, .plain hquote hescape hcontrol hpieces, .char hdenotes⟩

/-- A string is written as one of its texts. -/
theorem spellsString_chars (s : String) : SpellsString (Text.chars (some s)) (some s) := by
  obtain ⟨pieces, hpieces, hdenotes⟩ := exists_pieces s.toList
  have hspells := SpellsString.chars hpieces hdenotes
  rwa [String.ofList_toList] at hspells

end RadioLink.Json
