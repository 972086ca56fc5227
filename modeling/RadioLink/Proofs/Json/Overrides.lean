import RadioLink.Proofs.Json.Decoding
import RadioLink.Proofs.Json.Reading

/-!
# Settings that override the standard ones

A document that is an object overrides what it names: each field of a configuration is taken from
the object if that gives its name once, and from the standard configuration if that leaves it out
(`Json.Takes`). Members may come in any order, with others between them, whose names are no fields
and whose values may be anything.

`configs_overridden` says that an object is accepted exactly if its names denote characters and what
it gives its fields stands for their values, and with which configuration; and that an object which
repeats the name of a field is refused, whatever values it gives. A name with half of a surrogate
pair is the only one that denotes no characters; in the values of other members there may be strings
of that kind, as there may be anything.
-/

namespace RadioLink

open Json

variable {members : List (Text × Value)} {name : String}

namespace Json

/-- The value of a field: the one that an object gives it, or the standard one if the object leaves
it out. -/
inductive Takes {α : Type} (members : List (Text × Value)) (name : String)
    (denoted : Value → α → Prop) (standard : α) :
    α → Prop
  | standard : Omits members name → Takes members name denoted standard standard
  | given {v : Value} {a : α} : GivesOnce members name v → denoted v a →
      Takes members name denoted standard a

/-- A field is read as the value that it takes. -/
theorem orDefault?_member?_iff {α : Type} {denoted : Value → α → Prop} {read : Value → Option α}
    {standard a : α} (hread : ∀ v a, read v = some a ↔ denoted v a) :
    (∃ field, Value.member? members name = some field ∧
      Value.orDefault? standard read field = some a) ↔
      Takes members name denoted standard a := by
  constructor
  · rintro ⟨field, hmember, hvalue⟩
    cases field with
    | none =>
      obtain rfl := Option.some.inj hvalue
      exact .standard (member?_eq_some_none_iff.1 hmember)
    | some v => exact .given (member?_eq_some_some_iff.1 hmember) ((hread v a).1 hvalue)
  · intro h
    cases h with
    | standard homits => exact ⟨none, member?_of_omits homits, rfl⟩
    | given hgives hdenoted => exact ⟨some _, member?_of_givesOnce hgives, (hread _ a).2 hdenoted⟩

/-- The fields of an object are its members, one by one, if all of its names denote characters. -/
theorem fields?_object_iff {names : List String} {fields : List (Option Value)} :
    (Value.object members).fields? names = some fields ↔
      (∀ m ∈ members, m.1 ≠ none) ∧ names.mapM (Value.member? members) = some fields := by
  have hnames : (members.all fun m => m.1.isSome) = true ↔ ∀ m ∈ members, m.1 ≠ none := by
    simp only [List.all_eq_true, Option.isSome_iff_ne_none]
  rw [Value.fields?, ← hnames]
  split
  · next hall => exact (and_iff_right hall).symm
  · next hall => exact iff_of_false (by simp) fun h => hall h.1

/-- Fields cannot be found where two members have the name of one. -/
theorem mapM_member?_of_repeats {names : List String} (hname : name ∈ names)
    (h : Repeats members name) :
    names.mapM (Value.member? members) = none := by
  induction names with
  | nil => cases hname
  | cons first names ih =>
    rw [List.mapM_cons]
    rcases List.mem_cons.1 hname with rfl | hname
    · rw [member?_of_repeats h]
      rfl
    · rw [ih hname]
      cases Value.member? members first <;> rfl

/-- An object that repeats a field has no fields to read. -/
theorem fields?_object_of_repeats {names : List String} (hname : name ∈ names)
    (h : Repeats members name) :
    (Value.object members).fields? names = none := by
  rw [Value.fields?, mapM_member?_of_repeats hname h, ite_self]

end Json

/-! ## Enumerations -/

/-- A clock divider is read exactly where a value names it. -/
theorem ClockDivider.ofJson?_eq_some_iff (v : Value) (d : ClockDivider) :
    ofJson? v = some d ↔ Names ClockDivider.name v d :=
  oneOf?_eq_some_iff (by rintro ⟨⟩ <;> decide) (by rintro ⟨⟩ ⟨⟩ <;> decide)

/-- A mode of the interface is read exactly where a value names it. -/
theorem InterfaceMode.ofJson?_eq_some_iff (v : Value) (m : InterfaceMode) :
    ofJson? v = some m ↔ Names InterfaceMode.name v m :=
  oneOf?_eq_some_iff (by rintro ⟨⟩ <;> decide) (by rintro ⟨⟩ ⟨⟩ <;> decide)

/-- A policy is read exactly where a value names it. -/
theorem OverflowPolicy.ofJson?_eq_some_iff (v : Value) (p : OverflowPolicy) :
    ofJson? v = some p ↔ Names OverflowPolicy.name v p :=
  oneOf?_eq_some_iff (by rintro ⟨⟩ <;> decide) (by rintro ⟨⟩ ⟨⟩ <;> decide)

/-! ## Link configurations -/

namespace LinkConfig

/-- A link configuration is the standard one with what an object gives in place of the fields that
it names. -/
structure Overridden (members : List (Text × Value)) (c : LinkConfig) : Prop where
  clockDivider : Takes members "spi_clock_divider" (Names ClockDivider.name)
    (default : LinkConfig).clockDivider c.clockDivider
  interface : Takes members "interface" (Names InterfaceMode.name)
    (default : LinkConfig).interface c.interface
  resetSettle : Takes members "reset_settle" Duration.Denoted (default : LinkConfig).resetSettle
    c.resetSettle

/-- A configuration is read field by field, each from its value or from the standard one. -/
theorem ofJson?_eq_some_iff {v : Value} {c : LinkConfig} :
    ofJson? v = some c ↔ ∃ divider interface settle,
      v.fields? fieldNames = some [divider, interface, settle] ∧
      Value.orDefault? (default : LinkConfig).clockDivider ClockDivider.ofJson? divider =
        some c.clockDivider ∧
      Value.orDefault? (default : LinkConfig).interface InterfaceMode.ofJson? interface =
        some c.interface ∧
      Value.orDefault? (default : LinkConfig).resetSettle Duration.ofJson? settle =
        some c.resetSettle := by
  rw [ofJson?]
  split
  · next divider interface settle hfields =>
    simp only [Option.bind_eq_bind, Option.bind_eq_some_iff, hfields]
    constructor
    · rintro ⟨_, hdivider, _, hinterface, _, hsettle, hc⟩
      obtain rfl := Option.some.inj hc
      exact ⟨_, _, _, rfl, hdivider, hinterface, hsettle⟩
    · rintro ⟨_, _, _, heq, hdivider, hinterface, hsettle⟩
      cases heq
      exact ⟨_, hdivider, _, hinterface, _, hsettle, rfl⟩
  · next hother =>
    refine iff_of_false (by simp) ?_
    rintro ⟨divider, interface, settle, hfields, -⟩
    exact hother divider interface settle hfields

/-- The values of the fields are found by the names of the fields. -/
theorem mapM_fieldNames_iff {divider interface settle : Option Value} :
    fieldNames.mapM (Value.member? members) = some [divider, interface, settle] ↔
      Value.member? members "spi_clock_divider" = some divider ∧
      Value.member? members "interface" = some interface ∧
        Value.member? members "reset_settle" = some settle := by
  simp [fieldNames, List.mapM_cons, Option.bind_eq_some_iff]

/-- An object is accepted if its names denote characters and its fields have values, and overrides
what it names. -/
theorem ofJson?_object_iff {c : LinkConfig} :
    ofJson? (.object members) = some c ↔ (∀ m ∈ members, m.1 ≠ none) ∧ Overridden members c := by
  simp only [ofJson?_eq_some_iff, fields?_object_iff, mapM_fieldNames_iff]
  constructor
  · rintro ⟨divider, interface, settle, ⟨hnames, hdivider, hinterface, hsettle⟩, hdivider',
      hinterface', hsettle'⟩
    exact ⟨hnames,
      (orDefault?_member?_iff ClockDivider.ofJson?_eq_some_iff).1 ⟨_, hdivider, hdivider'⟩,
      (orDefault?_member?_iff InterfaceMode.ofJson?_eq_some_iff).1 ⟨_, hinterface, hinterface'⟩,
      (orDefault?_member?_iff fun _ _ => Duration.ofJson?_eq_some_iff).1 ⟨_, hsettle, hsettle'⟩⟩
  · rintro ⟨hnames, hdivider, hinterface, hsettle⟩
    obtain ⟨_, hdivider, hdivider'⟩ :=
      (orDefault?_member?_iff ClockDivider.ofJson?_eq_some_iff).2 hdivider
    obtain ⟨_, hinterface, hinterface'⟩ :=
      (orDefault?_member?_iff InterfaceMode.ofJson?_eq_some_iff).2 hinterface
    obtain ⟨_, hsettle, hsettle'⟩ :=
      (orDefault?_member?_iff fun _ _ => Duration.ofJson?_eq_some_iff).2 hsettle
    exact ⟨_, _, _, ⟨hnames, hdivider, hinterface, hsettle⟩, hdivider', hinterface', hsettle'⟩

end LinkConfig

/-! ## Transport configurations -/

namespace TransportConfig

/-- A transport configuration is the standard one with what an object gives in place of the fields
that it names. -/
structure Overridden (members : List (Text × Value)) (c : TransportConfig) : Prop where
  overflowPolicy : Takes members "overflow_policy" (Names OverflowPolicy.name)
    (default : TransportConfig).overflowPolicy c.overflowPolicy
  resetOnInit : Takes members "reset_on_init" (fun v b => v = .bool b)
    (default : TransportConfig).resetOnInit c.resetOnInit

/-- A configuration is read field by field, each from its value or from the standard one. -/
theorem ofJson?_eq_some_iff {v : Value} {c : TransportConfig} :
    ofJson? v = some c ↔ ∃ policy reset, v.fields? fieldNames = some [policy, reset] ∧
      Value.orDefault? (default : TransportConfig).overflowPolicy OverflowPolicy.ofJson? policy =
        some c.overflowPolicy ∧
      Value.orDefault? (default : TransportConfig).resetOnInit Value.bool? reset =
        some c.resetOnInit := by
  rw [ofJson?]
  split
  · next policy reset hfields =>
    simp only [Option.bind_eq_bind, Option.bind_eq_some_iff, hfields]
    constructor
    · rintro ⟨_, hpolicy, _, hreset, hc⟩
      obtain rfl := Option.some.inj hc
      exact ⟨_, _, rfl, hpolicy, hreset⟩
    · rintro ⟨_, _, heq, hpolicy, hreset⟩
      cases heq
      exact ⟨_, hpolicy, _, hreset, rfl⟩
  · next hother =>
    refine iff_of_false (by simp) ?_
    rintro ⟨policy, reset, hfields, -⟩
    exact hother policy reset hfields

/-- The values of the fields are found by the names of the fields. -/
theorem mapM_fieldNames_iff {policy reset : Option Value} :
    fieldNames.mapM (Value.member? members) = some [policy, reset] ↔
      Value.member? members "overflow_policy" = some policy ∧
      Value.member? members "reset_on_init" = some reset := by
  simp [fieldNames, List.mapM_cons, Option.bind_eq_some_iff]

/-- An object is accepted if its names denote characters and its fields have values, and overrides
what it names. -/
theorem ofJson?_object_iff {c : TransportConfig} :
    ofJson? (.object members) = some c ↔ (∀ m ∈ members, m.1 ≠ none) ∧ Overridden members c := by
  simp only [ofJson?_eq_some_iff, fields?_object_iff, mapM_fieldNames_iff]
  constructor
  · rintro ⟨policy, reset, ⟨hnames, hpolicy, hreset⟩, hpolicy', hreset'⟩
    exact ⟨hnames,
      (orDefault?_member?_iff OverflowPolicy.ofJson?_eq_some_iff).1 ⟨_, hpolicy, hpolicy'⟩,
      (orDefault?_member?_iff fun _ _ => bool?_eq_some_iff).1 ⟨_, hreset, hreset'⟩⟩
  · rintro ⟨hnames, hpolicy, hreset⟩
    obtain ⟨_, hpolicy, hpolicy'⟩ :=
      (orDefault?_member?_iff OverflowPolicy.ofJson?_eq_some_iff).2 hpolicy
    obtain ⟨_, hreset, hreset'⟩ := (orDefault?_member?_iff fun _ _ => bool?_eq_some_iff).2 hreset
    exact ⟨_, _, ⟨hnames, hpolicy, hreset⟩, hpolicy', hreset'⟩

end TransportConfig

/-! ## Documents -/

/-- **A document overrides exactly what it names.** A document that is an object, however it is
written, gives a configuration exactly if that is the standard one with what the object gives in
place of the fields that it names. A name of characters that is no field may stand anywhere, with
any value. A field that is repeated is refused, whatever its values. -/
theorem configs_overridden {document : String} (h : Document document (.object members)) :
    ((∀ c, LinkConfig.parse? document = some c ↔
        (∀ m ∈ members, m.1 ≠ none) ∧ LinkConfig.Overridden members c) ∧
      ∀ name ∈ LinkConfig.fieldNames, Repeats members name → LinkConfig.parse? document = none) ∧
    ((∀ c, TransportConfig.parse? document = some c ↔
        (∀ m ∈ members, m.1 ≠ none) ∧ TransportConfig.Overridden members c) ∧
      ∀ name ∈ TransportConfig.fieldNames, Repeats members name →
        TransportConfig.parse? document = none) := by
  simp only [LinkConfig.parse?, TransportConfig.parse?, parse?_eq_some_iff.2 h, Option.bind_some]
  refine ⟨⟨fun c => LinkConfig.ofJson?_object_iff, fun name hname hrepeats => ?_⟩,
    ⟨fun c => TransportConfig.ofJson?_object_iff, fun name hname hrepeats => ?_⟩⟩
  · rw [LinkConfig.ofJson?, fields?_object_of_repeats hname hrepeats]
  · rw [TransportConfig.ofJson?, fields?_object_of_repeats hname hrepeats]

/-- One field is overridden, behind another member whose value is an array of null and an object. -/
theorem configs_overridden_mode :
    let document := "\x7b \"board\" : [ null,\x7b\x7d ],\n\"interface\":\"polling\"\x7d"
    let members := [(some "board", .array [.null, .object []]),
      (some "interface", .ofString "polling")]
    Document document (.object members) ∧
    LinkConfig.parse? document = some { interface := .polling } ∧
      TransportConfig.parse? document = some default := by
  intro document members
  have hnone : IsBlanks [] := List.forall_mem_nil _
  have hblank : IsBlanks [' '] := List.forall_mem_singleton.2 rfl
  have hline : IsBlanks ['\n'] := List.forall_mem_singleton.2 rfl
  have hitems := SpellsItems.more hblank .null hnone (.last hnone (.emptyObject hnone) hblank)
  have hmembers := SpellsMembers.more hblank (spellsString_chars "board") hblank hblank
    (.array hitems) hnone
    (.last hline (spellsString_chars "interface") hnone hnone (spells_ofString "polling") hnone)
  have hdocument : Document document (.object members) :=
    ⟨[], _, [], hnone, .object hmembers, hnone, by decide⟩
  have hnames : ∀ m ∈ members, m.1 ≠ none := by simp [members]
  obtain ⟨⟨hlink, -⟩, htransport, -⟩ := configs_overridden hdocument
  refine ⟨hdocument, (hlink _).2 ⟨hnames, .standard ?_, ?_, .standard ?_⟩,
    (htransport _).2 ⟨hnames, .standard ?_, .standard ?_⟩⟩
  · simp [Omits, members]
  · refine .given ⟨[_], [], rfl, ?_, ?_⟩ (.word InterfaceMode.polling) <;> simp [Omits]
  · simp [Omits, members]
  · simp [Omits, members]
  · simp [Omits, members]

/-- An object with one member, whose name is half of a surrogate pair, names no field, and yet it is
refused and not read as the standard configuration. -/
theorem configs_refuse_half_pair :
    let document := "\x7b\"\\ud800\":null\x7d"
    let members := [(none, Value.null)]
    Document document (.object members) ∧
      (∀ name ∈ LinkConfig.fieldNames ++ TransportConfig.fieldNames, Omits members name) ∧
      LinkConfig.parse? document = none ∧ TransportConfig.parse? document = none := by
  intro document members
  have hnone : IsBlanks [] := List.forall_mem_nil _
  have hhalf : ∀ chars, ¬Denotes [.unit 0xD800] chars := by
    intro chars h
    cases h with
    | unit hhigh => cases hhigh
  have hname : SpellsString ['"', '\\', 'u', 'd', '8', '0', '0', '"'] none :=
    .broken (.unit rfl .nil) hhalf
  have hdocument : Document document (.object members) :=
    ⟨[], _, [], hnone, .object (.last hnone hname hnone hnone .null hnone), hnone, by decide⟩
  have hvalue : parse? document = some (.object members) := parse?_eq_some_iff.2 hdocument
  have hrefused : ¬∀ m ∈ members, m.1 ≠ none := fun h => h _ List.mem_cons_self rfl
  refine ⟨hdocument, fun name _ => by simp [Omits, members], ?_, ?_⟩
  · rw [LinkConfig.parse?, hvalue, Option.bind_some, Option.eq_none_iff_forall_ne_some]
    exact fun c hc => hrefused (LinkConfig.ofJson?_object_iff.1 hc).1
  · rw [TransportConfig.parse?, hvalue, Option.bind_some, Option.eq_none_iff_forall_ne_some]
    exact fun c hc => hrefused (TransportConfig.ofJson?_object_iff.1 hc).1

end RadioLink
