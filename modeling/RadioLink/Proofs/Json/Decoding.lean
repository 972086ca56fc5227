import Mathlib.Data.List.Basic
import RadioLink.Json.Settings

/-!
# What JSON values stand for

A member of an object is found by its name, which no other member may share: a name is left out
(`Omits`), given once (`GivesOnce`) or repeated (`Repeats`), and there is no fourth case
(`omits_or_givesOnce_or_repeats`).

`Names` and `Duration.Denoted` say which values stand for one of several named things and for a
duration. These are the values that are read (`oneOf?_eq_some_iff`, `Duration.ofJson?_eq_some_iff`).
-/

namespace RadioLink

namespace Json

/-! ## Members -/

variable {members : List (Text × Value)} {name : String} {v : Value}

/-- No member has the name. -/
def Omits (members : List (Text × Value)) (name : String) : Prop :=
  ∀ m ∈ members, m.1 ≠ some name

/-- One member has the name, and gives it a value. -/
def GivesOnce (members : List (Text × Value)) (name : String) (v : Value) : Prop :=
  ∃ before after, members = before ++ (some name, v) :: after ∧ Omits before name ∧ Omits after name

/-- At least two members have the name. -/
def Repeats (members : List (Text × Value)) (name : String) : Prop :=
  ∃ before v between w after,
    members = before ++ (some name, v) :: between ++ (some name, w) :: after

theorem filter_of_omits (h : Omits members name) :
    members.filter (fun m => m.1 == some name) = [] :=
  List.filter_eq_nil_iff.2 fun m hm => by simpa using h m hm

/-- A name that no member has is found to be missing. -/
theorem member?_of_omits (h : Omits members name) : Value.member? members name = some none := by
  rw [Value.member?, filter_of_omits h]

/-- A name that one member has is found with its value. -/
theorem member?_of_givesOnce (h : GivesOnce members name v) :
    Value.member? members name = some (some v) := by
  obtain ⟨before, after, rfl, hbefore, hafter⟩ := h
  have hfilter : (before ++ (some name, v) :: after).filter (fun m => m.1 == some name) =
      [(some name, v)] := by
    rw [List.filter_append, filter_of_omits hbefore, List.nil_append,
      List.filter_cons_of_pos (by simp), filter_of_omits hafter]
  rw [Value.member?, hfilter]

/-- A name that two members have is an error. -/
theorem member?_of_repeats (h : Repeats members name) : Value.member? members name = none := by
  obtain ⟨before, v, between, w, after, rfl⟩ := h
  rw [Value.member?]
  split
  · next hfilter => simp at hfilter
  · next hfilter =>
    have hlength := congrArg List.length hfilter
    simp at hlength
    omega
  · rfl

/-- A name is left out, given once or repeated. -/
theorem omits_or_givesOnce_or_repeats (members : List (Text × Value)) (name : String) :
    Omits members name ∨ (∃ v, GivesOnce members name v) ∨ Repeats members name := by
  induction members with
  | nil => exact .inl (List.forall_mem_nil _)
  | cons m members ih =>
    obtain ⟨s, v⟩ := m
    by_cases hs : s = some name
    · subst hs
      rcases ih with homits | ⟨w, before, after, rfl, -, -⟩ | ⟨before, w, between, u, after, rfl⟩
      · exact .inr (.inl ⟨v, [], members, rfl, List.forall_mem_nil _, homits⟩)
      · exact .inr (.inr ⟨[], v, before, w, after, rfl⟩)
      · exact .inr (.inr ⟨[], v, before ++ (some name, w) :: between, u, after, rfl⟩)
    · rcases ih with homits | ⟨w, before, after, rfl, hbefore, hafter⟩
        | ⟨before, w, between, u, after, rfl⟩
      · exact .inl (List.forall_mem_cons.2 ⟨hs, homits⟩)
      · exact .inr (.inl ⟨w, (s, v) :: before, after, rfl,
          List.forall_mem_cons.2 ⟨hs, hbefore⟩, hafter⟩)
      · exact .inr (.inr ⟨(s, v) :: before, w, between, u, after, rfl⟩)

/-- A name is found to be missing exactly where no member has it. -/
theorem member?_eq_some_none_iff : Value.member? members name = some none ↔ Omits members name := by
  refine ⟨fun h => ?_, member?_of_omits⟩
  rcases omits_or_givesOnce_or_repeats members name with homits | ⟨v, hgives⟩ | hrepeats
  · exact homits
  · rw [member?_of_givesOnce hgives] at h
    cases h
  · rw [member?_of_repeats hrepeats] at h
    cases h

/-- A name is found with a value exactly where one member has it, with that value. -/
theorem member?_eq_some_some_iff :
    Value.member? members name = some (some v) ↔ GivesOnce members name v := by
  refine ⟨fun h => ?_, member?_of_givesOnce⟩
  rcases omits_or_givesOnce_or_repeats members name with homits | ⟨w, hgives⟩ | hrepeats
  · rw [member?_of_omits homits] at h
    cases h
  · rw [member?_of_givesOnce hgives] at h
    cases h
    exact hgives
  · rw [member?_of_repeats hrepeats] at h
    cases h

/-! ## Named things and numbers -/

/-- The values that stand for one of several things that have names: the name, and an object that
gives the name null and nothing else. -/
inductive Names {α : Type} (name : α → String) : Value → α → Prop
  | word (a : α) : Names name (.string (some (name a))) a
  | tagged (a : α) : Names name (.object [(some (name a), .null)]) a

/-- A search by name over all there are finds the one that has the name, if names are different. -/
theorem find?_name_iff {α : Type} {nameOf : α → String} {all : List α} (hall : ∀ a, a ∈ all)
    (hname : ∀ a b, nameOf a = nameOf b → a = b) {s : String} {a : α} :
    (all.find? fun b => nameOf b == s) = some a ↔ nameOf a = s := by
  constructor
  · intro h
    simpa using List.find?_some h
  · rintro rfl
    have hfound : (all.find? fun b => nameOf b == nameOf a).isSome = true :=
      List.find?_isSome.2 ⟨a, hall a, beq_self_eq_true (nameOf a)⟩
    obtain ⟨b, hb⟩ := Option.isSome_iff_exists.1 hfound
    rw [hb, hname b a (by simpa using List.find?_some hb)]

/-- One of several named things is read exactly where a value names it. -/
theorem oneOf?_eq_some_iff {α : Type} {nameOf : α → String} {all : List α} (hall : ∀ a, a ∈ all)
    (hname : ∀ a b, nameOf a = nameOf b → a = b) {v : Value} {a : α} :
    v.oneOf? nameOf all = some a ↔ Names nameOf v a := by
  constructor
  · intro h
    unfold Value.oneOf? at h
    split at h
    · obtain rfl := (find?_name_iff hall hname).1 h
      exact .word a
    · obtain rfl := (find?_name_iff hall hname).1 h
      exact .tagged a
    · cases h
  · intro h
    cases h with
    | word | tagged => exact (find?_name_iff hall hname).2 rfl

/-- A number below a bound is read exactly where a value is it. -/
theorem natBelow?_eq_some_iff {bound n : Nat} :
    v.natBelow? bound = some n ↔ v = .ofNat n ∧ n < bound := by
  unfold Value.natBelow? Value.ofNat
  split
  · split
    · next k hk =>
      simp only [Option.some.injEq, Value.number.injEq, Number.natural.injEq]
      constructor
      · rintro rfl
        exact ⟨rfl, hk⟩
      · exact fun h => h.1
    · next k hk =>
      simp only [reduceCtorEq, Value.number.injEq, Number.natural.injEq, false_iff]
      rintro ⟨rfl, hlt⟩
      exact hk hlt
  · next hother =>
    simp only [reduceCtorEq, false_iff]
    rintro ⟨rfl, -⟩
    exact hother n rfl

/-- A truth value is read exactly where a value is it. -/
theorem bool?_eq_some_iff {b : Bool} : v.bool? = some b ↔ v = .bool b := by
  cases v <;> simp [Value.bool?]

end Json

namespace Duration

open Json

/-! ## Durations -/

/-- The seconds and the nanoseconds of a duration are its digits to the base of a second. -/
theorem toNanos_mod (d : Duration) :
    d.toNanos / nanosPerSecond = d.seconds.toNat ∧ d.toNanos % nanosPerSecond = d.nanos.toNat := by
  have hnanos : d.nanos.toNat < 1000000000 := UInt32.lt_iff_toNat_lt.1 d.nanos_lt
  rw [toNanos, nanosPerSecond]
  omega

theorem toNanos_inj {d d' : Duration} (h : d.toNanos = d'.toNanos) : d = d' := by
  have hd := d.toNanos_mod
  rw [h, d'.toNanos_mod.1, d'.toNanos_mod.2] at hd
  have hseconds : d.seconds = d'.seconds := UInt64.toNat_inj.1 hd.1.symm
  have hnanos : d.nanos = d'.nanos := UInt32.toNat_inj.1 hd.2.symm
  cases d
  cases d'
  cases hseconds
  cases hnanos
  rfl

/-- The nanoseconds carry into the seconds, and the whole time is kept. -/
theorem ofParts?_eq_some_iff {seconds : UInt64} {nanos : UInt32} {d : Duration} :
    ofParts? seconds nanos = some d ↔ d.toNanos = seconds.toNat * nanosPerSecond + nanos.toNat := by
  rw [ofParts?]
  split
  · next hfits =>
    have htotal : toNanos {
        seconds := UInt64.ofNat (seconds.toNat + nanos.toNat / nanosPerSecond)
        nanos := nanos % 1000000000
        nanos_lt := UInt32.mod_lt nanos (by decide) } =
          seconds.toNat * nanosPerSecond + nanos.toNat := by
      rw [toNanos, UInt64.toNat_ofNat_of_lt' hfits, UInt32.toNat_mod, nanosPerSecond]
      simp only [UInt32.reduceToNat]
      omega
    rw [Option.some.injEq]
    constructor
    · rintro rfl
      exact htotal
    · intro h
      exact toNanos_inj (htotal.trans h.symm)
  · next hfits =>
    refine iff_of_false nofun fun h => hfits ?_
    have hseconds := d.toNanos_mod.1
    have hbound := d.seconds.toNat_lt
    rw [h, nanosPerSecond] at hseconds
    rw [nanosPerSecond, UInt64.size]
    omega

/-- A number of seconds and a number of nanoseconds that fit their fields make up a duration. -/
structure Counts (seconds nanos : Nat) (d : Duration) : Prop where
  seconds_lt : seconds < UInt64.size
  nanos_lt : nanos < UInt32.size
  toNanos : d.toNanos = seconds * nanosPerSecond + nanos

/-- The values that stand for a duration: an object that gives the seconds and the nanoseconds and
nothing else, and the two numbers in an array. -/
inductive Denoted : Value → Duration → Prop
  | named {members : List (Text × Value)} {seconds nanos : Nat} {d : Duration} :
      GivesOnce members "secs" (.ofNat seconds) → GivesOnce members "nanos" (.ofNat nanos) →
      (∀ m ∈ members, m.1 = some "secs" ∨ m.1 = some "nanos") → Counts seconds nanos d → Denoted
        (.object members) d
  | placed {seconds nanos : Nat} {d : Duration} : Counts seconds nanos d →
      Denoted (.array [.ofNat seconds, .ofNat nanos]) d

/-- The two numbers of a duration as they are read. -/
def ofValues? (seconds nanos : Value) : Option Duration := do
  let seconds ← seconds.natBelow? UInt64.size
  let nanos ← nanos.natBelow? UInt32.size
  ofParts? (UInt64.ofNat seconds) (UInt32.ofNat nanos)

/-- Two values are read as a duration exactly where they are numbers that make it up. -/
theorem ofValues?_eq_some_iff {v w : Value} {d : Duration} :
    ofValues? v w = some d ↔ ∃ seconds nanos, v = .ofNat seconds ∧ w = .ofNat nanos ∧
      Counts seconds nanos d := by
  simp only [ofValues?, Option.bind_eq_bind, Option.bind_eq_some_iff, natBelow?_eq_some_iff,
    ofParts?_eq_some_iff]
  constructor
  · rintro ⟨seconds, ⟨rfl, hseconds⟩, nanos, ⟨rfl, hnanos⟩, htotal⟩
    rw [UInt64.toNat_ofNat_of_lt' hseconds, UInt32.toNat_ofNat_of_lt' hnanos] at htotal
    exact ⟨seconds, nanos, rfl, rfl, hseconds, hnanos, htotal⟩
  · rintro ⟨seconds, nanos, rfl, rfl, hseconds, hnanos, htotal⟩
    refine ⟨seconds, ⟨rfl, hseconds⟩, nanos, ⟨rfl, hnanos⟩, ?_⟩
    rw [UInt64.toNat_ofNat_of_lt' hseconds, UInt32.toNat_ofNat_of_lt' hnanos]
    exact htotal

/-- A duration is read from the two fields of a value, by position or by name. -/
theorem ofJson?_eq_some_iff_fields {v : Value} {d : Duration} :
    ofJson? v = some d ↔
      ∃ seconds nanos, v.strictFields? fieldNames = some [some seconds, some nanos] ∧
      ofValues? seconds nanos = some d := by
  rw [ofJson?]
  split
  · next seconds nanos hfields =>
    rw [hfields]
    simp [ofValues?]
  · next hother =>
    refine iff_of_false nofun ?_
    rintro ⟨seconds, nanos, hfields, -⟩
    exact hother seconds nanos hfields

/-- A name is one of a duration's fields exactly if it is one of these two. -/
theorem any_contains_fieldNames (s : Text) :
    s.any fieldNames.contains = true ↔ s = some "secs" ∨ s = some "nanos" := by
  cases s <;> simp [fieldNames]

/-- An object has the two fields of a duration exactly where it gives each once and nothing else. -/
theorem strictFields?_object_iff {members : List (Text × Value)} {v w : Value} :
    (Value.object members).strictFields? fieldNames = some [some v, some w] ↔
      (∀ m ∈ members, m.1 = some "secs" ∨ m.1 = some "nanos") ∧ GivesOnce members "secs" v ∧
        GivesOnce members "nanos" w := by
  have hnames : (members.all fun m => m.1.any fieldNames.contains) = true ↔
      ∀ m ∈ members, m.1 = some "secs" ∨ m.1 = some "nanos" := by
    rw [List.all_eq_true]
    exact forall₂_congr fun m _ => any_contains_fieldNames m.1
  have hfields : fieldNames.mapM (Value.member? members) = some [some v, some w] ↔
      Value.member? members "secs" = some (some v) ∧
        Value.member? members "nanos" = some (some w) := by
    simp [fieldNames, List.mapM_cons, Option.bind_eq_some_iff]
  rw [Value.strictFields?, ← member?_eq_some_some_iff, ← member?_eq_some_some_iff, ← hnames]
  split
  · next hall => exact hfields.trans (and_iff_right hall).symm
  · next hall => exact iff_of_false (by simp) fun h => hall h.1

/-- An array has the two fields of a duration exactly where it has two items. -/
theorem strictFields?_array_iff {items : List Value} {v w : Value} :
    (Value.array items).strictFields? fieldNames = some [some v, some w] ↔ items = [v, w] := by
  match items with
  | [] | [_] | [_, _] | _ :: _ :: _ :: _ =>
    simp [Value.strictFields?, Value.positional?, fieldNames, List.replicate]

/-- What stands for a duration is read as that duration. -/
theorem ofJson?_eq_some_iff {v : Value} {d : Duration} : ofJson? v = some d ↔ Denoted v d := by
  rw [ofJson?_eq_some_iff_fields]
  constructor
  · rintro ⟨v₁, v₂, hfields, hvalues⟩
    obtain ⟨seconds, nanos, rfl, rfl, hcounts⟩ := ofValues?_eq_some_iff.1 hvalues
    cases v with
    | object members =>
      obtain ⟨hnames, hseconds, hnanos⟩ := strictFields?_object_iff.1 hfields
      exact .named hseconds hnanos hnames hcounts
    | array items =>
      obtain rfl := strictFields?_array_iff.1 hfields
      exact .placed hcounts
    | null | bool | number | string => cases hfields
  · intro h
    cases h with
    | named hseconds hnanos hnames hcounts =>
      exact ⟨_, _, strictFields?_object_iff.2 ⟨hnames, hseconds, hnanos⟩,
        ofValues?_eq_some_iff.2 ⟨_, _, rfl, rfl, hcounts⟩⟩
    | placed hcounts =>
      exact ⟨_, _, strictFields?_array_iff.2 rfl, ofValues?_eq_some_iff.2 ⟨_, _, rfl, rfl, hcounts⟩⟩

end Duration

end RadioLink
