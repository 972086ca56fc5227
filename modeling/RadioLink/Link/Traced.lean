import RadioLink.Link.Basic

/-!
# Links that record their calls

`Traced σ` is a link of state `σ` together with the record of every call made on it: the primitive,
what it was given and what it answered. Recording changes nothing else, so whatever holds of the
record for every link holds of the calls that reach the link itself.
-/

namespace RadioLink

/-- A call of a primitive, with its answer. -/
inductive Call where
  /-- A byte was sent. -/
  | exchange (sent : UInt8) (answer : Except LinkError UInt8)
  /-- REQUEST was driven. -/
  | request (level : Bool) (answer : Except LinkError Unit)
  /-- READY was sampled. -/
  | ready (answer : Except LinkError Bool)
  /-- The radio was reset. -/
  | reset (answer : Except LinkError Unit)

/-- A link and the record of the calls made on it, oldest first. -/
structure Traced (σ : Type) where
  /-- The link underneath. -/
  link : σ
  /-- The calls so far. -/
  calls : List Call := []

namespace Traced

variable {σ : Type}

instance [Link σ] : Link (Traced σ) where
  exchange byte s :=
    let (answer, link) := Link.exchange byte s.link
    (answer, { link, calls := s.calls ++ [.exchange byte answer] })
  setRequest level s :=
    let (answer, link) := Link.setRequest level s.link
    (answer, { link, calls := s.calls ++ [.request level answer] })
  readReady s :=
    let (answer, link) := Link.readReady s.link
    (answer, { link, calls := s.calls ++ [.ready answer] })
  reset s :=
    let (answer, link) := Link.reset s.link
    (answer, { link, calls := s.calls ++ [.reset answer] })

end Traced

end RadioLink
