import Mathlib.Data.List.Basic
import RadioLink.Simulation.Script

/-!
# The texts that are read as bytes

What is left of a payload without the blanks around it, the mark in front and the separators is read
in pairs of characters. `Text.Hex.Spells` is the grammar of the pairs: two digits stand for a byte,
and so does a plus sign in front of a digit, since the digits of a pair are read like a number,
which may have a sign.

`readPayload_ok_iff_spells` says that nothing else is read. Without plus signs it is the grammar
that one would expect, an even number of characters all of which are digits; with one in the place
of a first digit it is not (`readPayload_plus`). Whatever is not read is a wrong use of the command
line.

The pairs are cut out of the text at places counted in bytes. Before that happens the text is known
to be ASCII, so that no such place is inside of a character, and each cut is the pair that is read
(`isSlice_pair`).
-/

namespace RadioLink

namespace Text

/-! ## Digits -/

variable {c : Char} {n : Nat}

/-- A digit is one of the ASCII characters, and its value is below sixteen. -/
theorem hexDigit?_bounds (h : hexDigit? c = some n) : n < 16 ∧ c.toNat < 128 := by
  have toNat_bounds {low high : Char} (hc : low ≤ c ∧ c ≤ high) : low.toNat ≤ c.toNat ∧
      c.toNat ≤ high.toNat := hc
  unfold hexDigit? at h
  split at h
  case isTrue hdigit =>
    have hbounds := toNat_bounds hdigit
    obtain rfl := Option.some.inj h
    simp only [Char.reduceToNat] at hbounds ⊢
    omega
  split at h
  case isTrue hdigit =>
    have hbounds := toNat_bounds hdigit
    obtain rfl := Option.some.inj h
    simp only [Char.reduceToNat] at hbounds ⊢
    omega
  split at h
  case isTrue hdigit =>
    have hbounds := toNat_bounds hdigit
    obtain rfl := Option.some.inj h
    simp only [Char.reduceToNat] at hbounds ⊢
    omega
  case isFalse => cases h

theorem hexDigit?_plus : hexDigit? '+' = none := by decide

namespace Hex

/-! ## Pairs -/

/-- Pairs of characters stand for bytes: two digits, or a plus sign and a digit. -/
inductive Spells : List Char → List UInt8 → Prop
  | nil : Spells [] []
  | pair {a b : Char} {x y : Nat} {byte : UInt8} {text : List Char} {bytes : List UInt8} :
      hexDigit? a = some x → hexDigit? b = some y → byte.toNat = 16 * x + y → Spells text bytes →
      Spells (a :: b :: text) (byte :: bytes)
  | signed {b : Char} {y : Nat} {byte : UInt8} {text : List Char} {bytes : List UInt8} :
      hexDigit? b = some y →
      byte.toNat = y → Spells text bytes → Spells ('+' :: b :: text) (byte :: bytes)

/-- What two characters stand for. -/
theorem byte?_eq_some_iff {a b : Char} {byte : UInt8} :
    byte? a b = some byte ↔
      (∃ x y, hexDigit? a = some x ∧ hexDigit? b = some y ∧ byte.toNat = 16 * x + y) ∨
      (a = '+' ∧ ∃ y, hexDigit? b = some y ∧ byte.toNat = y) := by
  have ofNat_eq_iff {m : Nat} (hm : m < 256) : UInt8.ofNat m = byte ↔ byte.toNat = m := by
    rw [UInt8.ofNat_eq_iff_mod_eq_toNat, Nat.mod_eq_of_lt hm, eq_comm]
  unfold byte?
  split
  case isTrue hplus =>
    subst hplus
    simp only [hexDigit?_plus, Option.map_eq_some_iff, reduceCtorEq, false_and, exists_false,
      false_or, true_and]
    refine exists_congr fun y => and_congr_right fun hy => ofNat_eq_iff ?_
    have := (hexDigit?_bounds hy).1
    omega
  case isFalse hplus =>
    simp only [hplus, Option.bind_eq_some_iff, Option.map_eq_some_iff, false_and, or_false]
    constructor
    · rintro ⟨x, hx, y, hy, hbyte⟩
      have := (hexDigit?_bounds hx).1
      have := (hexDigit?_bounds hy).1
      exact ⟨x, y, hx, hy, (ofNat_eq_iff (by omega)).1 hbyte⟩
    · rintro ⟨x, y, hx, hy, hbyte⟩
      have := (hexDigit?_bounds hx).1
      have := (hexDigit?_bounds hy).1
      exact ⟨x, hx, y, hy, (ofNat_eq_iff (by omega)).2 hbyte⟩

/-- Pairs of characters are read as bytes exactly where they stand for them. -/
theorem bytes?_eq_some_iff {text : List Char} {bytes : List UInt8} :
    bytes? text = some bytes ↔ Spells text bytes := by
  constructor
  · intro h
    fun_induction bytes? text generalizing bytes with
    | case1 =>
      obtain rfl := Option.some.inj h
      exact .nil
    | case2 => cases h
    | case3 a b rest ih =>
      obtain ⟨byte, hbyte, hrest⟩ := Option.bind_eq_some_iff.1 h
      obtain ⟨bytes, hbytes, rfl⟩ := Option.map_eq_some_iff.1 hrest
      rcases byte?_eq_some_iff.1 hbyte with ⟨x, y, hx, hy, hvalue⟩ | ⟨rfl, y, hy, hvalue⟩
      · exact .pair hx hy hvalue (ih hbytes)
      · exact .signed hy hvalue (ih hbytes)
  · intro h
    induction h with
    | nil => rfl
    | pair hx hy hvalue _ ih =>
      have hbyte := byte?_eq_some_iff.2 (.inl ⟨_, _, hx, hy, hvalue⟩)
      simp [bytes?, hbyte, ih]
    | signed hy hvalue _ ih =>
      have hbyte := byte?_eq_some_iff.2 (.inr ⟨rfl, _, hy, hvalue⟩)
      simp [bytes?, hbyte, ih]

variable {text : List Char} {bytes : List UInt8}

/-- What stands for bytes has an even number of characters. -/
theorem Spells.even (h : Spells text bytes) : text.length % 2 = 0 := by
  induction h with
  | nil => rfl
  | pair _ _ _ _ ih | signed _ _ _ ih =>
    simp only [List.length_cons]
    omega

/-- Only digits and plus signs stand for anything. -/
theorem Spells.digit_or_plus (h : Spells text bytes) :
    ∀ c ∈ text, (hexDigit? c).isSome = true ∨ c = '+' := by
  induction h with
  | nil => simp
  | pair hx hy _ _ ih => simpa [hx, hy] using ih
  | signed hy _ _ ih => simpa [hy] using ih

/-- What stands for bytes is in ASCII, so it is cut between characters. -/
theorem Spells.ascii (h : Spells text bytes) : ∀ c ∈ text, c.toNat < 128 := by
  intro c hc
  rcases h.digit_or_plus c hc with hdigit | rfl
  · obtain ⟨n, hn⟩ := Option.isSome_iff_exists.1 hdigit
    exact (hexDigit?_bounds hn).2
  · decide

/-- An even number of digits stands for bytes. -/
theorem exists_spells (heven : text.length % 2 = 0)
    (hdigits : ∀ c ∈ text, (hexDigit? c).isSome = true) :
    ∃ bytes, Spells text bytes := by
  fun_induction bytes? text with
  | case1 => exact ⟨[], .nil⟩
  | case2 => cases heven
  | case3 a b rest ih =>
    obtain ⟨x, hx⟩ := Option.isSome_iff_exists.1 (hdigits a (by simp))
    obtain ⟨y, hy⟩ := Option.isSome_iff_exists.1 (hdigits b (by simp))
    have hrest : rest.length % 2 = 0 := by
      simp only [List.length_cons] at heven
      omega
    obtain ⟨bytes, hbytes⟩ := ih hrest fun c hc => hdigits c (by simp [hc])
    have := (hexDigit?_bounds hx).1
    have := (hexDigit?_bounds hy).1
    refine ⟨UInt8.ofNat (16 * x + y) :: bytes, .pair hx hy ?_ hbytes⟩
    rw [UInt8.toNat_ofNat_of_lt' (by simp [UInt8.size]; omega)]

/-! ## Cuts -/

/-- The part of a text between two places that are counted in bytes. There is none if one of them is
inside of a character, or behind the end. -/
def IsSlice (text : String) (start stop : Nat) (part : String) : Prop :=
  ∃ before after, text = before ++ part ++ after ∧ before.utf8ByteSize = start ∧
    (before ++ part).utf8ByteSize = stop

/-- A text of ASCII has one byte for each character. -/
theorem utf8ByteSize_of_ascii (hascii : ∀ c ∈ text, c.toNat < 128) :
    (String.ofList text).utf8ByteSize = text.length := by
  induction text with
  | nil => rfl
  | cons c text ih =>
    have hc : c.val ≤ 127 := Nat.le_of_lt_succ (hascii c (by simp))
    have hsize : c.utf8Size = 1 := if_pos hc
    rw [String.ofList_cons, String.utf8ByteSize_append, String.utf8ByteSize_singleton, hsize,
      ih fun c hc => hascii c (by simp [hc]), List.length_cons, Nat.add_comm]

/-- The two bytes at an even place of a text of ASCII are a pair of its characters. -/
theorem isSlice_pair (hascii : ∀ c ∈ text, c.toNat < 128) {i : Nat} (hi : 2 * i + 2 ≤ text.length) :
    ∃ a b, text[2 * i]? = some a ∧ text[2 * i + 1]? = some b ∧
      IsSlice (String.ofList text) (2 * i) (2 * i + 2) (String.ofList [a, b]) := by
  have hfirst : 2 * i < text.length := by omega
  have hsecond : 2 * i + 1 < text.length := by omega
  have hrest : text.drop (2 * i) = [text[2 * i], text[2 * i + 1]] ++ text.drop (2 * i + 2) := by
    rw [List.drop_eq_getElem_cons hfirst, List.drop_eq_getElem_cons hsecond]
    rfl
  have hsplit : text = text.take (2 * i) ++ [text[2 * i], text[2 * i + 1]] ++
      text.drop (2 * i + 2) := by
    rw [List.append_assoc, ← hrest, List.take_append_drop]
  have hbefore : (String.ofList (text.take (2 * i))).utf8ByteSize = 2 * i := by
    rw [utf8ByteSize_of_ascii fun c hc => hascii c (List.mem_of_mem_take hc), List.length_take]
    omega
  have hpair : (String.ofList [text[2 * i], text[2 * i + 1]]).utf8ByteSize = 2 := by
    refine utf8ByteSize_of_ascii fun c hc => hascii c ?_
    rw [hsplit]
    simp only [List.mem_append, hc, or_true, true_or]
  refine ⟨text[2 * i], text[2 * i + 1], List.getElem?_eq_getElem hfirst,
    List.getElem?_eq_getElem hsecond, String.ofList (text.take (2 * i)),
      String.ofList (text.drop (2 * i + 2)), ?_, hbefore, ?_⟩
  · rw [← String.ofList_append, ← String.ofList_append, ← hsplit]
  · rw [String.utf8ByteSize_append, hbefore, hpair]

/-! ## Whole texts -/

/-- A text is decoded as bytes exactly where its digits stand for them. -/
theorem decode_eq_ok_iff {text : String} {bytes : List UInt8} :
    decode text = .ok bytes ↔ Spells (digits text) bytes := by
  constructor
  · intro h
    simp only [decode] at h
    split at h
    case isFalse => cases h
    split at h
    case isFalse => cases h
    rw [← bytes?_eq_some_iff]
    split at h
    · next hbytes => rwa [← Except.ok.inj h]
    · cases h
  · intro h
    have hascii : ((digits text).all fun c => decide (c.toNat < 128)) = true := by
      simpa [List.all_eq_true] using h.ascii
    simp only [decode, hascii, if_true, if_pos h.even, bytes?_eq_some_iff.2 h]

/-- Without plus signs, what stands for bytes is an even number of digits. -/
theorem even_digits_iff {text : List Char} :
    (text.length % 2 = 0 ∧ ∀ c ∈ text, (hexDigit? c).isSome = true) ↔
      '+' ∉ text ∧ ∃ bytes, Spells text bytes := by
  constructor
  · rintro ⟨heven, hdigits⟩
    refine ⟨fun hplus => ?_, exists_spells heven hdigits⟩
    have hdigit := hdigits '+' hplus
    rw [hexDigit?_plus] at hdigit
    cases hdigit
  · rintro ⟨hplus, bytes, hspells⟩
    refine ⟨hspells.even, fun c hc => ?_⟩
    rcases hspells.digit_or_plus c hc with hdigit | rfl
    · exact hdigit
    · exact absurd hc hplus

end Hex

end Text

namespace Simulation

open Text Text.Hex

/-- A payload is read as bytes exactly where the digits of its text stand for them. -/
theorem readPayload_eq_ok_iff {text : String} {bytes : List UInt8} :
    readPayload text = .ok bytes ↔ Spells (digits text) bytes := by
  rw [← decode_eq_ok_iff, readPayload]
  rcases decode text with (_ | _) | bytes' <;> simp

/-- A payload that is not read is a wrong use of the command line. -/
theorem exitCode_of_readPayload {text : String} {failure : Failure}
    (h : readPayload text = .error failure) :
    failure.exitCode = ExitCode.usage := by
  unfold readPayload at h
  split at h
  · cases h
  · obtain rfl := Except.error.inj h
    rfl
  · obtain rfl := Except.error.inj h
    rfl

/-- **Which texts are read as bytes.** What is left of the text without blanks around it, the mark
and the separators is read if it spells bytes in pairs, and in no other case; without plus signs
those are the texts of an even number of digits; every other text is refused as a wrong use, with an
error that says so; and where the pairs are cut out of the text, no cut is inside of a character. -/
theorem readPayload_ok_iff_spells (text : String) :
    let left := digits text
    (∀ bytes, readPayload text = .ok bytes ↔ Spells left bytes) ∧
    ((left.length % 2 = 0 ∧ ∀ c ∈ left, (hexDigit? c).isSome = true) ↔
      '+' ∉ left ∧ ∃ bytes, readPayload text = .ok bytes) ∧
    ((∀ bytes, ¬Spells left bytes) →
      ∃ failure, readPayload text = .error failure ∧ failure.exitCode = ExitCode.usage) ∧
    ((∀ c ∈ left, c.toNat < 128) → ∀ i, 2 * i + 2 ≤ left.length → ∃ a b, left[2 * i]? = some a ∧
      left[2 * i + 1]? = some b ∧
      IsSlice (String.ofList left) (2 * i) (2 * i + 2) (String.ofList [a, b])) := by
  intro left
  refine ⟨fun bytes => readPayload_eq_ok_iff, ?_, fun hnone => ?_,
    fun hascii i hi => isSlice_pair hascii hi⟩
  · simp only [readPayload_eq_ok_iff]
    exact even_digits_iff
  · rcases h : readPayload text with failure | bytes
    · exact ⟨failure, rfl, exitCode_of_readPayload h⟩
    · exact absurd (readPayload_eq_ok_iff.1 h) (hnone bytes)

/-- A plus sign in the place of a first digit is no digit, and yet the text is read. -/
theorem readPayload_plus :
    ¬((digits "+f").length % 2 = 0 ∧ ∀ c ∈ digits "+f", (hexDigit? c).isSome = true) ∧
    readPayload "+f" = .ok [15] := by
  refine ⟨fun ⟨_, hdigits⟩ => ?_, by decide⟩
  have hplus := hdigits '+' (by decide)
  rw [hexDigit?_plus] at hplus
  cases hplus

end Simulation

end RadioLink
