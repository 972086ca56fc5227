import Mathlib.Data.List.Forall2
import Mathlib.Data.List.TakeWhile
import RadioLink.Proofs.Text.HexGrammar

/-!
# Bytes that are written and read again

Bytes are written in one way and read in many. `Text.Hex.Respelled` lists the ways in which a text
may be changed without a change of what it stands for: letters may be upper case, and separators may
stand anywhere, also between the two digits of a byte. In front of the result there may be a mark,
and around all of it any blanks. `readPayload_respelled` says that the bytes are read again
whichever of this is done.

Two things have to be seen to. The blanks around a text are dropped before the separators, and a
space is both; but a blank that is dropped from the text itself can only be a space, which the
separators take with them in any case (`filter_trim`). And the mark is dropped once, before the
separators: a text without a mark does not lose its first digits, because there is no `x` in it
(`dropMark_of_unmarked`).
-/

namespace RadioLink

namespace Text

/-! ## Blanks around a text -/

variable {text : List Char}

/-- Blanks at the end are trimmed. -/
theorem trimRight_append_of_blank {back : List Char} (hback : ∀ c ∈ back, isBlank c = true)
    (text : List Char) :
    trimRight (text ++ back) = trimRight text := by
  have hreverse : ∀ c ∈ back.reverse, isBlank c = true := by
    simpa using hback
  rw [trimRight, trimRight, List.reverse_append, List.dropWhile_append_of_pos hreverse]

/-- A character that is no blank is not dropped, and neither is anything in front of it. -/
theorem trimRight_cons_of_visible {c : Char} (hc : isBlank c = false) (text : List Char) :
    trimRight (c :: text) = c :: trimRight text := by
  rw [trimRight, trimRight, List.reverse_cons, List.dropWhile_append]
  split
  · next hblank =>
    rw [List.isEmpty_iff.1 hblank]
    simp [hc]
  · rw [List.reverse_append]
    rfl

/-- Blanks around a text do not matter. -/
theorem trim_surrounded {front back : List Char} (hfront : ∀ c ∈ front, isBlank c = true)
    (hback : ∀ c ∈ back, isBlank c = true) (text : List Char) :
    trim (front ++ text ++ back) = trim text := by
  rw [trim, trim, trimLeft, trimLeft, List.append_assoc, List.dropWhile_append_of_pos hfront,
    List.dropWhile_append]
  split
  · next hblank =>
    -- nothing but blanks is left of the text, nor of what is behind it
    rw [List.isEmpty_iff.1 hblank, List.dropWhile_eq_nil_iff.2 hback]
  · exact trimRight_append_of_blank hback _

/-- Dropping blanks at the front drops no character that a filter keeps. -/
theorem filter_dropWhile {keep : Char → Bool} (h : ∀ c ∈ text, isBlank c = true → keep c = false) :
    (text.dropWhile isBlank).filter keep = text.filter keep := by
  induction text with
  | nil => rfl
  | cons c text ih =>
    cases hblank : isBlank c with
    | false => rw [List.dropWhile_cons, hblank, if_neg (by simp)]
    | true =>
      have hkeep : keep c = false := h c (by simp) hblank
      rw [List.dropWhile_cons, hblank, if_pos rfl, ih fun d hd => h d (by simp [hd]),
        List.filter_cons, hkeep]
      rfl

/-- Neither does trimming them at the end. -/
theorem filter_trimRight {keep : Char → Bool} (h : ∀ c ∈ text, isBlank c = true → keep c = false) :
    (trimRight text).filter keep = text.filter keep := by
  have hreverse : ∀ c ∈ text.reverse, isBlank c = true → keep c = false := by
    simpa using h
  rw [trimRight, List.filter_reverse, filter_dropWhile hreverse, List.filter_reverse,
    List.reverse_reverse]

/-- Where no blank is among the characters that are kept, it does not matter whether the blanks
around a text have been dropped before. -/
theorem filter_trim {keep : Char → Bool} (h : ∀ c ∈ text, isBlank c = true → keep c = false) :
    (trim text).filter keep = text.filter keep := by
  have hleft : ∀ c ∈ trimLeft text, isBlank c = true → keep c = false := by
    intro c hc
    exact h c ((List.dropWhile_sublist isBlank).subset hc)
  rw [trim, filter_trimRight hleft, trimLeft, filter_dropWhile h]

/-- Trimming adds no character. -/
theorem mem_of_mem_trim {c : Char} (h : c ∈ trim text) : c ∈ text := by
  have hleft : c ∈ trimLeft text := by
    have hreverse := (List.dropWhile_sublist isBlank).subset (List.mem_reverse.1 h)
    exact List.mem_reverse.1 hreverse
  exact (List.dropWhile_sublist isBlank).subset hleft

namespace Hex

/-! ## Respelling -/

/-- The second text is the first one with some letters in upper case and some separators put in. -/
inductive Respelled : List Char → List Char → Prop
  | nil : Respelled [] []
  | same {text text' : List Char} (c : Char) : Respelled text text' →
      Respelled (c :: text) (c :: text')
  | upper {text text' : List Char} (c : Char) : Respelled text text' →
      Respelled (c :: text) (c.toUpper :: text')
  | separator {text text' : List Char} {c : Char} : c ∈ [' ', ':', '-', '_'] →
      Respelled text text' → Respelled text (c :: text')

/-- A digit in either case has its value, and is neither a separator nor a blank nor an `x`. -/
theorem hexDigit_facts {n : Nat} (hn : n < 16) {c : Char}
    (hc : c = hexDigit n ∨ c = (hexDigit n).toUpper) :
    hexDigit? c = some n ∧ isSeparator c = false ∧ isBlank c = false ∧ c ≠ 'x' := by
  have hlower : ∀ n < 16, hexDigit? (hexDigit n) = some n ∧ isSeparator (hexDigit n) = false ∧
      isBlank (hexDigit n) = false ∧ hexDigit n ≠ 'x' := by decide
  have hupper : ∀ n < 16, hexDigit? (hexDigit n).toUpper = some n ∧
      isSeparator (hexDigit n).toUpper = false ∧
      isBlank (hexDigit n).toUpper = false ∧ (hexDigit n).toUpper ≠ 'x' := by decide
  rcases hc with rfl | rfl
  · exact hlower n hn
  · exact hupper n hn

/-- Bytes are written with lower-case digits. -/
theorem exists_of_mem_written {bytes : List UInt8} {c : Char} (h : c ∈ bytes.flatMap digitsOf) :
    ∃ n < 16, c = hexDigit n := by
  obtain ⟨byte, -, hc⟩ := List.mem_flatMap.1 h
  have hbyte : byte.toNat < 256 := byte.toNat_lt
  simp only [digitsOf, List.mem_cons, List.not_mem_nil, or_false] at hc
  rcases hc with rfl | rfl
  · exact ⟨byte.toNat / 16, by omega, rfl⟩
  · exact ⟨byte.toNat % 16, by omega, rfl⟩

/-- Without its separators, a respelled text of digits has the same digits. -/
theorem Respelled.same_digits {text text' : List Char} (h : Respelled text text')
    (htext : ∀ c ∈ text, ∃ n < 16, c = hexDigit n) :
    List.Forall₂ (fun c c' => hexDigit? c' = hexDigit? c) text
      (text'.filter fun c => !isSeparator c) := by
  induction h with
  | nil => exact .nil
  | same c _ ih =>
    obtain ⟨n, hn, rfl⟩ := htext c (by simp)
    obtain ⟨-, hseparator, -⟩ := hexDigit_facts hn (.inl rfl)
    rw [List.filter_cons_of_pos (by simp [hseparator])]
    exact .cons rfl (ih fun d hd => htext d (by simp [hd]))
  | upper c _ ih =>
    obtain ⟨n, hn, rfl⟩ := htext c (by simp)
    obtain ⟨hvalue, -⟩ := hexDigit_facts hn (.inl rfl)
    obtain ⟨hupper, hseparator, -⟩ := hexDigit_facts hn (.inr rfl)
    rw [List.filter_cons_of_pos (by simp [hseparator])]
    exact .cons (hupper.trans hvalue.symm) (ih fun d hd => htext d (by simp [hd]))
  | @separator _ _ c hc _ ih =>
    have hseparator : isSeparator c = true := by
      simpa [isSeparator, or_assoc] using hc
    rw [List.filter_cons_of_neg (by simp [hseparator])]
    exact ih htext

/-- A respelled text of digits has no `x` in it, and no blanks but separators. -/
theorem Respelled.plain {text text' : List Char} (h : Respelled text text')
    (htext : ∀ c ∈ text, ∃ n < 16, c = hexDigit n) :
    ∀ c ∈ text', c ≠ 'x' ∧ (isBlank c = true → isSeparator c = true) := by
  have plain_digit {n : Nat} (hn : n < 16) {c : Char}
      (hc : c = hexDigit n ∨ c = (hexDigit n).toUpper) :
      c ≠ 'x' ∧ (isBlank c = true → isSeparator c = true) := by
    obtain ⟨-, -, hblank, hx⟩ := hexDigit_facts hn hc
    refine ⟨hx, fun h => ?_⟩
    rw [hblank] at h
    cases h
  induction h with
  | nil => simp
  | same c _ ih =>
    obtain ⟨n, hn, rfl⟩ := htext c (by simp)
    exact List.forall_mem_cons.2 ⟨plain_digit hn (.inl rfl), ih fun d hd => htext d (by simp [hd])⟩
  | upper c _ ih =>
    obtain ⟨n, hn, rfl⟩ := htext c (by simp)
    exact List.forall_mem_cons.2 ⟨plain_digit hn (.inr rfl), ih fun d hd => htext d (by simp [hd])⟩
  | @separator _ _ c hc _ ih =>
    refine List.forall_mem_cons.2 ⟨?_, ih htext⟩
    simp only [List.mem_cons, List.not_mem_nil, or_false] at hc
    rcases hc with rfl | rfl | rfl | rfl <;> decide

/-- Texts with the digits that bytes are written with spell these bytes. -/
theorem spells_of_same_digits {bytes : List UInt8} {text : List Char}
    (h : List.Forall₂ (fun c c' => hexDigit? c' = hexDigit? c) (bytes.flatMap digitsOf) text) :
    Spells text bytes := by
  induction bytes generalizing text with
  | nil =>
    cases h
    exact .nil
  | cons byte bytes ih =>
    have hbyte : byte.toNat < 256 := byte.toNat_lt
    rw [List.flatMap_cons, digitsOf, List.cons_append, List.cons_append, List.nil_append] at h
    cases h with
    | cons hfirst h =>
      cases h with
      | cons hsecond hrest =>
        have hhigh : hexDigit? (hexDigit (byte.toNat / 16)) = some (byte.toNat / 16) :=
          (hexDigit_facts (by omega) (.inl rfl)).1
        have hlow : hexDigit? (hexDigit (byte.toNat % 16)) = some (byte.toNat % 16) :=
          (hexDigit_facts (by omega) (.inl rfl)).1
        exact .pair (hfirst.trans hhigh) (hsecond.trans hlow) (by omega) (ih hrest)

/-! ## The mark -/

/-- A text without the letter of the mark has no mark. -/
theorem dropMark_of_unmarked {text : List Char} (h : 'x' ∉ text) : dropMark text = text := by
  unfold dropMark
  split
  · simp at h
  · rfl

/-- What is left of a text that has no mark. -/
theorem digits_unmarked {text front back : List Char} (hfront : ∀ c ∈ front, isBlank c = true)
    (hback : ∀ c ∈ back, isBlank c = true)
    (htext : ∀ c ∈ text, c ≠ 'x' ∧ (isBlank c = true → isSeparator c = true)) :
    digits (String.ofList (front ++ text ++ back)) = text.filter fun c => !isSeparator c := by
  have hx : 'x' ∉ trim text := fun hx => (htext 'x' (mem_of_mem_trim hx)).1 rfl
  rw [digits, String.toList_ofList, trim_surrounded hfront hback, dropMark_of_unmarked hx]
  exact filter_trim fun c hc hblank => by simp [(htext c hc).2 hblank]

/-- What is left of a text that has a mark. -/
theorem digits_marked {text front back : List Char} (hfront : ∀ c ∈ front, isBlank c = true)
    (hback : ∀ c ∈ back, isBlank c = true)
    (htext : ∀ c ∈ text, c ≠ 'x' ∧ (isBlank c = true → isSeparator c = true)) :
    digits (String.ofList (front ++ '0' :: 'x' :: text ++ back)) =
      text.filter fun c => !isSeparator c := by
  have hmark : trim ('0' :: 'x' :: text) = '0' :: 'x' :: trimRight text := by
    have hleft : trimLeft ('0' :: 'x' :: text) = '0' :: 'x' :: text := rfl
    rw [trim, hleft, trimRight_cons_of_visible rfl, trimRight_cons_of_visible rfl]
  rw [digits, String.toList_ofList, trim_surrounded hfront hback, hmark, dropMark]
  exact filter_trimRight fun c hc hblank => by simp [(htext c hc).2 hblank]

end Hex

end Text

namespace Simulation

open Text Text.Hex

/-- **Bytes are read as they were written, however the text is respelled.** For every list of bytes:
with any letters of what is written in upper case, with any separators put in anywhere, with or
without a mark in front, and with any blanks around it, the text is read as these bytes. -/
theorem readPayload_respelled (bytes : List UInt8) {text front back : List Char} (marked : Bool)
    (htext : Respelled (encode bytes).toList text) (hfront : ∀ c ∈ front, isBlank c = true)
    (hback : ∀ c ∈ back, isBlank c = true) :
    readPayload (String.ofList (front ++ ((if marked then ['0', 'x'] else []) ++ text) ++ back)) =
      .ok bytes := by
  rw [encode, String.toList_ofList] at htext
  have hdigits : ∀ c ∈ bytes.flatMap digitsOf, ∃ n < 16, c = hexDigit n := fun c hc =>
    exists_of_mem_written hc
  have hspells : Spells (text.filter fun c => !isSeparator c) bytes :=
    spells_of_same_digits (htext.same_digits hdigits)
  have hplain := htext.plain hdigits
  rw [readPayload_eq_ok_iff]
  cases marked with
  | false => exact (digits_unmarked hfront hback hplain).symm ▸ hspells
  | true => exact (digits_marked hfront hback hplain).symm ▸ hspells

/-- Two bytes with a separator at each place, one of them between the digits of a byte and a space
at the end, with a mark and with blanks around. -/
theorem readPayload_respelled_of_two :
    let text := [' ', '0', ':', 'B', '-', '_', 'a', '1', ' ']
    Respelled (encode [0x0b, 0xa1]).toList text ∧ (∀ c ∈ ['\t', ' '], isBlank c = true) ∧
    (∀ c ∈ ['\n', '\u00a0'], isBlank c = true) ∧
    readPayload (String.ofList (['\t', ' '] ++ (['0', 'x'] ++ text) ++ ['\n', '\u00a0'])) =
      .ok [0x0b, 0xa1] := by
  intro text
  have htext : Respelled (encode [0x0b, 0xa1]).toList text :=
    .separator (by decide) (.same '0' (.separator (by decide) (.upper 'b' (.separator (by decide)
      (.separator (by decide) (.same 'a' (.same '1' (.separator (by decide) .nil))))))))
  have hfront : ∀ c ∈ ['\t', ' '], isBlank c = true :=
    List.forall_mem_cons.2 ⟨rfl, List.forall_mem_cons.2 ⟨rfl, List.forall_mem_nil _⟩⟩
  have hback : ∀ c ∈ ['\n', '\u00a0'], isBlank c = true :=
    List.forall_mem_cons.2 ⟨rfl, List.forall_mem_cons.2 ⟨rfl, List.forall_mem_nil _⟩⟩
  exact ⟨htext, hfront, hback, readPayload_respelled [0x0b, 0xa1] true htext hfront hback⟩

end Simulation

end RadioLink
