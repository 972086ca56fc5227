import RadioLink.Proofs.Json.Overrides

/-!
# Configurations that are written and read again

A configuration is written as an object that gives each field its value, once. So what is written
spells that object (`LinkConfig.spells_toJson`, `TransportConfig.spells_toJson`), and the object
overrides every field of the standard configuration by the one that was written
(`LinkConfig.ofJson?_toJson`, `TransportConfig.ofJson?_toJson`). `configs_survive` puts the two
together.
-/

namespace RadioLink

open Json

/-! ## Durations -/

namespace Duration

/-- A duration is printed as it is spelled. -/
theorem spells_toJson (d : Duration) : Spells d.toJson.chars d.toJson :=
  spells_object (by simp [spells_ofNat])

/-- The two numbers of a duration make it up again, with nothing to carry. -/
theorem denoted_toJson (d : Duration) : Denoted d.toJson d := by
  refine .named ⟨[], _, rfl, ?_, ?_⟩ ⟨[_], [], rfl, ?_, ?_⟩ ?_ ⟨d.seconds.toNat_lt,
    d.nanos.toNat_lt, rfl⟩ <;>
    simp [Omits]

end Duration

/-! ## Link configurations -/

namespace LinkConfig

/-- A link configuration is printed as it is spelled. -/
theorem spells_toJson (c : LinkConfig) : Spells c.toJson.chars c.toJson := by
  have hdivider : Spells c.clockDivider.toJson.chars c.clockDivider.toJson :=
    spells_ofString c.clockDivider.name
  have hinterface : Spells c.interface.toJson.chars c.interface.toJson :=
    spells_ofString c.interface.name
  exact spells_object (by simp [hdivider, hinterface, c.resetSettle.spells_toJson])

/-- What is written of a configuration gives every field its value. -/
theorem ofJson?_toJson (c : LinkConfig) : ofJson? c.toJson = some c := by
  refine ofJson?_object_iff.2 ⟨by simp, .given ⟨[], _, rfl, ?_, ?_⟩ (.word c.clockDivider),
    .given ⟨[_], _, rfl, ?_, ?_⟩ (.word c.interface),
    .given ⟨[_, _], _, rfl, ?_, ?_⟩ c.resetSettle.denoted_toJson⟩ <;>
    simp [Omits]

/-- Every document of a link configuration is read as it. -/
theorem parse?_of_document {document : String} {c : LinkConfig} (h : Document document c.toJson) :
    parse? document = some c := by
  rw [parse?, Json.parse?_eq_some_iff.2 h, Option.bind_some, ofJson?_toJson]

end LinkConfig

/-! ## Transport configurations -/

namespace TransportConfig

/-- So is a transport configuration. -/
theorem spells_toJson (c : TransportConfig) : Spells c.toJson.chars c.toJson := by
  have hpolicy : Spells c.overflowPolicy.toJson.chars c.overflowPolicy.toJson :=
    spells_ofString c.overflowPolicy.name
  exact spells_object (by simp [hpolicy, spells_bool c.resetOnInit])

/-- What is written of a configuration gives every field its value. -/
theorem ofJson?_toJson (c : TransportConfig) : ofJson? c.toJson = some c := by
  refine ofJson?_object_iff.2 ⟨by simp, .given ⟨[], _, rfl, ?_, ?_⟩ (.word c.overflowPolicy),
    .given ⟨[_], _, rfl, ?_, ?_⟩ rfl⟩ <;>
    simp [Omits]

/-- Every document of a transport configuration is read as it. -/
theorem parse?_of_document {document : String} {c : TransportConfig}
    (h : Document document c.toJson) :
    parse? document = some c := by
  rw [parse?, Json.parse?_eq_some_iff.2 h, Option.bind_some, ofJson?_toJson]

end TransportConfig

/-! ## Documents -/

/-- What is read is not changed by being written and read again, if everything that is written is
read back. -/
theorem Json.bind_map_of_parse?_render {α : Type} {render : α → String} {parse? : String → Option α}
    (h : ∀ c, parse? (render c) = some c) (document : String) :
    ((parse? document).map render).bind parse? = parse? document := by
  cases parse? document with
  | none => rfl
  | some c => exact h c

/-- **Configurations survive being written.** What is written of a configuration is a document of
its JSON value, and is read as that configuration. So is every other document of the value, with
whatever blanks and escapes. And a document that is accepted, however it is written, gives the same
configuration if what it gives is written and read again. -/
theorem configs_survive :
    (∀ c : LinkConfig, Document c.render c.toJson ∧ LinkConfig.parse? c.render = some c ∧
      ∀ document, Document document c.toJson → LinkConfig.parse? document = some c) ∧
    (∀ c : TransportConfig, Document c.render c.toJson ∧ TransportConfig.parse? c.render = some c ∧
      ∀ document, Document document c.toJson → TransportConfig.parse? document = some c) ∧
    (∀ document, ((LinkConfig.parse? document).map LinkConfig.render).bind LinkConfig.parse? =
      LinkConfig.parse? document) ∧
    (∀ document, ((TransportConfig.parse? document).map TransportConfig.render).bind
      TransportConfig.parse? =
      TransportConfig.parse? document) := by
  have hlink (c : LinkConfig) : Document c.render c.toJson := document_render c.spells_toJson
  have htransport (c : TransportConfig) : Document c.render c.toJson :=
    document_render c.spells_toJson
  refine ⟨fun c => ⟨hlink c, ?_, fun document => LinkConfig.parse?_of_document⟩,
    fun c => ⟨htransport c, ?_, fun document => TransportConfig.parse?_of_document⟩, ?_, ?_⟩
  · exact LinkConfig.parse?_of_document (hlink c)
  · exact TransportConfig.parse?_of_document (htransport c)
  · exact bind_map_of_parse?_render fun c => LinkConfig.parse?_of_document (hlink c)
  · exact bind_map_of_parse?_render fun c => TransportConfig.parse?_of_document (htransport c)

end RadioLink
