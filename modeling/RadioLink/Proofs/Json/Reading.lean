import RadioLink.Proofs.Json.Document

/-!
# What is read is spelled

The readers read nothing but what the grammar spells, each up to the rest that it leaves:
`number?_eq_some`, `string?_eq_some`, and `value?_eq_some` by recursion on the fuel. So the texts
that are read are the documents, and no others (`parse?_eq_some_iff`).
-/

namespace RadioLink.Json

open RadioLink.Text.Decimal (ofDigits)

variable {text rest digits whole fraction exponent : List Char}

/-! ## Numbers -/

/-- What is read as digits is some. -/
theorem digits?_eq_some (h : digits? text = some (digits, rest)) :
    IsDigits digits ∧ text = digits ++ rest := by
  rw [digits?] at h
  split at h
  · cases h
  · next hdigits =>
    obtain ⟨rfl, rfl⟩ := Prod.mk.inj (Option.some.inj h)
    exact ⟨⟨hdigits, fun c hc => List.mem_takeWhile_imp hc⟩, List.takeWhile_append_dropWhile.symm⟩

/-- What is read as a whole number is one. -/
theorem wholePart?_eq_some (h : wholePart? text = some (whole, rest)) :
    IsWhole whole ∧ text = whole ++ rest := by
  rw [wholePart?] at h
  split at h
  · cases h
  · next hzero =>
    obtain ⟨hdigits, htext⟩ := digits?_eq_some h
    refine ⟨⟨hdigits, fun hhead => ?_⟩, htext⟩
    obtain ⟨c, tail, rfl⟩ := List.exists_cons_of_ne_nil hdigits.1
    obtain rfl : c = '0' := Option.some.inj hhead
    cases tail with
    | nil => rfl
    | cons d tail => exact (hzero d tail rest h).elim

/-- What is read as a fraction is one, or nothing. -/
theorem fraction?_eq_some (h : fraction? text = some (fraction, rest)) :
    IsFraction fraction ∧ text = fraction ++ rest := by
  unfold fraction? at h
  split at h
  · obtain ⟨⟨digits, after⟩, hdigits, hsome⟩ := Option.map_eq_some_iff.1 h
    cases hsome
    obtain ⟨hspelled, rfl⟩ := digits?_eq_some hdigits
    exact ⟨.digits hspelled, rfl⟩
  · cases h
    exact ⟨.none, rfl⟩

/-- What is read as the sign of an exponent is one, or nothing. -/
theorem exponentSign_eq {sign : List Char} (h : exponentSign text = (sign, rest)) :
    sign ∈ [[], ['+'], ['-']] ∧ text = sign ++ rest := by
  unfold exponentSign at h
  split at h <;> cases h <;> simp

/-- What is read as an exponent is one, or nothing. -/
theorem exponent?_eq_some (h : exponent? text = some (exponent, rest)) :
    IsExponent exponent ∧ text = exponent ++ rest := by
  unfold exponent? at h
  split at h
  · next c tail =>
    split at h
    · next hmark =>
      rcases hread : exponentSign tail with ⟨sign, behind⟩
      rw [hread] at h
      obtain ⟨⟨digits, after⟩, hdigits, hsome⟩ := Option.map_eq_some_iff.1 h
      cases hsome
      obtain ⟨hspelled, rfl⟩ := digits?_eq_some hdigits
      obtain ⟨hsign, rfl⟩ := exponentSign_eq hread
      exact ⟨.digits hmark hsign hspelled, by simp⟩
    · cases h
      exact ⟨.none, rfl⟩
  · cases h
    exact ⟨.none, rfl⟩

/-- What is read as a number without a sign is made of these three parts, and keeps its text unless
it is of digits alone. -/
theorem unsigned?_eq_some {n : Number} (h : unsigned? text = some (n, rest)) :
    ∃ whole fraction exponent, IsWhole whole ∧ IsFraction fraction ∧ IsExponent exponent ∧
      text = whole ++ fraction ++ exponent ++ rest ∧
      n = if fraction = [] ∧ exponent = [] then .natural (ofDigits whole)
        else .spelled (whole ++ fraction ++ exponent) := by
  simp only [unsigned?, Option.bind_eq_bind, Option.bind_eq_some_iff, Prod.exists] at h
  obtain ⟨whole, behind, hread, fraction, behind', hread', exponent, behind'', hread'', hn⟩ := h
  obtain ⟨hwhole, rfl⟩ := wholePart?_eq_some hread
  obtain ⟨hfraction, rfl⟩ := fraction?_eq_some hread'
  obtain ⟨hexponent, rfl⟩ := exponent?_eq_some hread''
  refine ⟨whole, fraction, exponent, hwhole, hfraction, hexponent, ?_⟩
  split at hn
  · cases hn
    simp
  · next hparts =>
    cases hn
    have hsome : ¬(fraction = [] ∧ exponent = []) := fun hnone => hparts hnone.1 hnone.2
    simp [hsome]

/-- A number that is read is spelled. -/
theorem number?_eq_some {n : Number} (h : number? text = some (n, rest)) :
    ∃ number, text = number ++ rest ∧ SpellsNumber number n := by
  unfold number? at h
  split at h
  · obtain ⟨⟨m, after⟩, hm, hsome⟩ := Option.map_eq_some_iff.1 h
    obtain ⟨whole, fraction, exponent, hwhole, hfraction, hexponent, rfl, -⟩ := unsigned?_eq_some hm
    obtain ⟨rfl, rfl⟩ := Prod.mk.inj hsome
    refine ⟨'-' :: (whole ++ fraction ++ exponent), by simp, ?_⟩
    rw [List.length_append, Nat.add_sub_cancel, List.take_left' rfl]
    exact .negative hwhole hfraction hexponent
  · obtain ⟨whole, fraction, exponent, hwhole, hfraction, hexponent, rfl, rfl⟩ :=
      unsigned?_eq_some h
    split
    · next hnone =>
      obtain ⟨rfl, rfl⟩ := hnone
      exact ⟨whole, by simp, .natural hwhole⟩
    · next hsome => exact ⟨_, rfl, .positive hwhole hfraction hexponent (not_and_or.1 hsome)⟩

/-! ## Strings -/

/-- What is read as the inside of a string is made of pieces, with the quotation mark behind
them. -/
theorem pieces?_eq_some {pieces : List Piece} (h : pieces? text = some (pieces, rest)) :
    ∃ inner, text = inner ++ '"' :: rest ∧ SpellsPieces inner pieces := by
  fun_induction pieces? text generalizing pieces with
  | case1 => cases h
  | case2 =>
    cases h
    exact ⟨[], rfl, .nil⟩
  | case3 a b c d tail ih =>
    simp only [Option.bind_eq_bind, Option.bind_eq_some_iff, Prod.exists] at h
    obtain ⟨n, hn, pieces, after, hpieces, hsome⟩ := h
    cases hsome
    obtain ⟨inner, rfl, hinner⟩ := ih hpieces
    exact ⟨_, rfl, .unit hn hinner⟩
  | case4 escape tail hother ih =>
    simp only [Option.bind_eq_bind, Option.bind_eq_some_iff, Prod.exists] at h
    obtain ⟨c, hc, pieces, after, hpieces, hsome⟩ := h
    cases hsome
    obtain ⟨inner, rfl, hinner⟩ := ih hpieces
    exact ⟨_, rfl, .short hc hinner⟩
  | case5 => cases h
  | case6 c tail hquote hunit hshort hplain ih =>
    simp only [Option.bind_eq_bind, Option.bind_eq_some_iff, Prod.exists] at h
    obtain ⟨pieces, after, hpieces, hsome⟩ := h
    cases hsome
    obtain ⟨inner, rfl, hinner⟩ := ih hpieces
    obtain ⟨hescape, hcontrol⟩ := not_or.1 hplain
    exact ⟨_, rfl, .plain hquote hescape (Nat.not_lt.1 hcontrol) hinner⟩

/-- A string that is read is spelled. -/
theorem string?_eq_some {s : Text} (h : string? text = some (s, rest)) :
    ∃ string, '"' :: text = string ++ rest ∧ SpellsString string s := by
  obtain ⟨⟨pieces, after⟩, hpieces, hsome⟩ := Option.map_eq_some_iff.1 h
  obtain ⟨rfl, rfl⟩ := Prod.mk.inj hsome
  obtain ⟨inner, rfl, hinner⟩ := pieces?_eq_some hpieces
  refine ⟨'"' :: inner ++ ['"'], by simp, ?_⟩
  cases hjoin : join? pieces with
  | none =>
    refine .broken hinner fun chars hchars => ?_
    rw [join?_eq_some_iff.2 hchars] at hjoin
    cases hjoin
  | some chars => exact .chars hinner (join?_eq_some_iff.1 hjoin)

/-! ## Values -/

/-- A text starts with blanks, and goes on with what is left without them. -/
theorem exists_blanks (text : List Char) :
    ∃ blanks, IsBlanks blanks ∧ text = blanks ++ skipBlanks text :=
  ⟨text.takeWhile isBlank, fun _ hc => List.mem_takeWhile_imp hc,
    List.takeWhile_append_dropWhile.symm⟩

mutual

/-- A value that is read is spelled, behind blanks. -/
theorem value?_eq_some :
    ∀ {fuel : Nat} {text rest : List Char} {v : Value}, value? fuel text = some (v, rest) →
    ∃ blanks spelled, IsBlanks blanks ∧ Spells spelled v ∧ text = blanks ++ spelled ++ rest
  | 0, _, _, _, h => nomatch h
  | fuel + 1, text, rest, v, h => by
    obtain ⟨blanks, hblanks, htext⟩ := exists_blanks text
    rw [value?] at h
    -- one case for each way in which a value can start behind the blanks
    split at h
    · next heq =>
      cases h
      exact ⟨blanks, _, hblanks, .null, by rw [htext, heq]; simp⟩
    · next heq =>
      cases h
      exact ⟨blanks, _, hblanks, .yes, by rw [htext, heq]; simp⟩
    · next heq =>
      cases h
      exact ⟨blanks, _, hblanks, .no, by rw [htext, heq]; simp⟩
    · next tail heq =>
      obtain ⟨⟨s, after⟩, hread, hsome⟩ := Option.map_eq_some_iff.1 h
      cases hsome
      obtain ⟨string, hstring, hspells⟩ := string?_eq_some hread
      exact ⟨blanks, string, hblanks,
        .string hspells, by rw [htext, heq, hstring, List.append_assoc]⟩
    · next tail heq =>
      obtain ⟨inner, hinner, htail⟩ := exists_blanks tail
      split at h
      · next heq' =>
        cases h
        exact ⟨blanks, _, hblanks, .emptyArray hinner, by rw [htext, heq, htail, heq']; simp⟩
      · obtain ⟨⟨items, after⟩, hread, hsome⟩ := Option.map_eq_some_iff.1 h
        cases hsome
        obtain ⟨spelled, hitems, rfl⟩ := items?_eq_some hread
        exact ⟨blanks, _, hblanks, .array hitems, by rw [htext, heq]; simp⟩
    · next tail heq =>
      obtain ⟨inner, hinner, htail⟩ := exists_blanks tail
      split at h
      · next heq' =>
        cases h
        exact ⟨blanks, _, hblanks, .emptyObject hinner, by rw [htext, heq, htail, heq']; simp⟩
      · obtain ⟨⟨members, after⟩, hread, hsome⟩ := Option.map_eq_some_iff.1 h
        cases hsome
        obtain ⟨spelled, hmembers, rfl⟩ := members?_eq_some hread
        exact ⟨blanks, _, hblanks, .object hmembers, by rw [htext, heq]; simp⟩
    · obtain ⟨⟨n, after⟩, hread, hsome⟩ := Option.map_eq_some_iff.1 h
      cases hsome
      obtain ⟨number, hnumber, hspells⟩ := number?_eq_some hread
      exact ⟨blanks, number, hblanks, .number hspells, by rw [htext, hnumber, List.append_assoc]⟩

/-- What is read as the items of an array spells them. -/
theorem items?_eq_some : ∀ {fuel : Nat} {text rest : List Char} {items : List Value},
    items? fuel text = some (items, rest) → ∃ spelled, SpellsItems spelled items ∧
      text = spelled ++ rest
  | 0, _, _, _, h => nomatch h
  | fuel + 1, text, rest, items, h => by
    simp only [items?, Option.bind_eq_bind, Option.bind_eq_some_iff, Prod.exists] at h
    obtain ⟨v, behind, hv, h⟩ := h
    obtain ⟨before, spelled, hbefore, hspells, rfl⟩ := value?_eq_some hv
    obtain ⟨after, hafter, hbehind⟩ := exists_blanks behind
    split at h
    · next heq =>
      cases h
      exact ⟨_, .last hbefore hspells hafter, by rw [hbehind, heq]; simp⟩
    · next tail heq =>
      simp only [Option.bind_eq_some_iff, Prod.exists] at h
      obtain ⟨items, rest, hitems, hsome⟩ := h
      cases hsome
      obtain ⟨spelled', hspells', rfl⟩ := items?_eq_some hitems
      exact ⟨_, .more hbefore hspells hafter hspells', by rw [hbehind, heq]; simp⟩
    · cases h

/-- What is read as the members of an object spells them. -/
theorem members?_eq_some : ∀ {fuel : Nat} {text rest : List Char} {members : List (Text × Value)},
    members? fuel text = some (members, rest) → ∃ spelled, SpellsMembers spelled members ∧
      text = spelled ++ rest
  | 0, _, _, _, h => nomatch h
  | fuel + 1, text, rest, members, h => by
    obtain ⟨before, hbefore, htext⟩ := exists_blanks text
    rw [members?] at h
    split at h
    · next inner heq =>
      simp only [Option.bind_eq_bind, Option.bind_eq_some_iff, Prod.exists] at h
      obtain ⟨s, behind, hs, h⟩ := h
      obtain ⟨name, hname, hspells⟩ := string?_eq_some hs
      obtain ⟨colon, hcolon, hbehind⟩ := exists_blanks behind
      split at h
      · next value heq' =>
        simp only [Option.bind_eq_some_iff, Prod.exists] at h
        obtain ⟨v, behind', hv, h⟩ := h
        obtain ⟨blanks, spelled, hblanks, hspelled, rfl⟩ := value?_eq_some hv
        obtain ⟨after, hafter, hbehind'⟩ := exists_blanks behind'
        split at h
        · next heq'' =>
          cases h
          refine ⟨_, .last hbefore hspells hcolon hblanks hspelled hafter, ?_⟩
          rw [htext, heq, hname, hbehind, heq', hbehind', heq'']
          simp
        · next tail heq'' =>
          simp only [Option.bind_eq_some_iff, Prod.exists] at h
          obtain ⟨members, rest, hmembers, hsome⟩ := h
          cases hsome
          obtain ⟨spelled', hspelled', rfl⟩ := members?_eq_some hmembers
          refine ⟨_, .more hbefore hspells hcolon hblanks hspelled hafter hspelled', ?_⟩
          rw [htext, heq, hname, hbehind, heq', hbehind', heq'']
          simp
        · cases h
      · cases h
    · cases h

end

/-- A text is read as a value exactly if it is a document of that value. -/
theorem parse?_eq_some_iff {document : String} {v : Value} :
    parse? document = some v ↔ Document document v := by
  refine ⟨fun h => ?_, parse?_of_document⟩
  simp only [parse?] at h
  split at h
  · next w rest hread =>
    obtain ⟨before, text, hbefore, hspells, htext⟩ := value?_eq_some hread
    split at h
    · next hnothing =>
      cases h
      have hrest : IsBlanks rest := List.dropWhile_eq_nil_iff.1 (List.isEmpty_iff.1 hnothing)
      exact ⟨before, text, rest, hbefore, hspells, hrest, htext⟩
    · cases h
  · cases h

end RadioLink.Json
