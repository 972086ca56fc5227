import RadioLink.Link.Basic

/-!
# Transport errors

Why an operation of a transport, or of a handle on a shared one, did not do what it was asked to.
-/

namespace RadioLink

/-- Why an operation of a transport failed. -/
inductive TransportError where
  /-- A primitive of the link failed. -/
  | link (cause : LinkError)
  /-- The frame declares `length` payload bytes and a frame carries `max`. -/
  | frameTooLong (length max : Nat)
  /-- The command queue has no room. -/
  | commandQueueFull (capacity : Nat)
  /-- A transfer brought an event that the event queue has no room for. -/
  | eventOverflow (capacity : Nat)
  /-- The transport halted after such an overflow. -/
  | faulted
  /-- Whoever held the shared transport gave up half-way. -/
  | poisoned
  deriving DecidableEq

namespace TransportError

/-- The text of a transport error. -/
def message : TransportError → String
  | link cause => "link error: " ++ cause.message
  | frameTooLong length max => s!"frame length {length} exceeds maximum {max}"
  | commandQueueFull capacity => s!"command queue full ({capacity} frames)"
  | eventOverflow capacity =>
    s!"event queue overflow ({capacity} frames); received frame could not be stored"
  | faulted => "transport halted after event queue overflow; flush to recover"
  | poisoned => "shared transport lock poisoned"

/-- Whether the operation was refused without any effect, so that it can be tried again later. -/
def isRejection : TransportError → Bool
  | frameTooLong .. | commandQueueFull .. => true
  | _ => false

end TransportError

/-- What an operation on a state answers, and the state that it leaves behind either way. -/
abbrev Reply (α σ : Type) : Type :=
  Except TransportError α × σ

/-- A reply with its value turned into another one. -/
def Reply.map {α β σ : Type} (f : α → β) : Reply α σ → Reply β σ
  | (.ok a, s) => (.ok (f a), s)
  | (.error e, s) => (.error e, s)

/-- A change of the result alone keeps the state. -/
theorem Reply.snd_map {α β σ : Type} (f : α → β) (x : Reply α σ) : (Reply.map f x).2 = x.2 := by
  obtain ⟨answer, s⟩ := x
  cases answer <;> rfl

/-- Two changes of the result are one. -/
theorem Reply.map_map {α β γ σ : Type} (g : β → γ) (f : α → β) (x : Reply α σ) :
    Reply.map g (Reply.map f x) = Reply.map (fun a => g (f a)) x := by
  obtain ⟨answer, s⟩ := x
  cases answer <;> rfl

end RadioLink
