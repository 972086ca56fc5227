import RadioLink.Frame.Basic
import RadioLink.Link.Basic

/-!
# Transfers

A transfer exchanges one frame for another over a link. Both directions share one run of bytes:

```text
byte       0        1            2 .. to radio   length   payload[0]   payload[1] .. to host
status   length       payload[0] ..
```

The two header bytes tell the host how long the radio's frame is; `window` is the number of bytes
that then still have to be exchanged so that neither frame is cut short. REQUEST is asserted before
the first byte and released after the last one, also when a byte fails on the way.
-/

namespace RadioLink

/-- The bytes to exchange after the two header bytes, for a frame of `sent` payload bytes against
one of `received`. The first payload byte of the outbound frame has gone out beside the radio's
length byte, so the outbound frame needs one byte fewer; the longer of the two directions decides.
No more than `max` bytes are exchanged. -/
def window (sent received : UInt8) (max : Nat) : Nat :=
  min (Nat.max received.toNat (sent.toNat - 1)) max

namespace Transfer

variable {σ : Type} {max : Nat}

/-- What a transfer brought. -/
structure Outcome (max : Nat) where
  /-- The frame that the radio clocked out. -/
  received : Frame max
  /-- The number of payload bytes exchanged after the header. -/
  exchanged : Nat
  deriving DecidableEq

/-- Whether any payload bytes moved. -/
def Outcome.succeeded (outcome : Outcome max) : Bool :=
  decide (0 < outcome.exchanged)

/-- Whether the radio delivered an event. -/
def Outcome.hasEvent (outcome : Outcome max) : Bool :=
  outcome.received.length != 0

/-- Exchanges bytes in order, up to the first that fails, and collects the replies. -/
def exchangeAll [Link σ] : List UInt8 → σ → Except LinkError (List UInt8) × σ
  | [], link => (.ok [], link)
  | byte :: bytes, link =>
    match Link.exchange byte link with
    | (.error e, link) => (.error e, link)
    | (.ok reply, link) =>
      match exchangeAll bytes link with
      | (.error e, link) => (.error e, link)
      | (.ok replies, link) => (.ok (reply :: replies), link)

/-- The bytes of a frame that are sent in a window, behind the two header bytes. -/
def bytesInWindow (outbound : Frame max) (n : Nat) : List UInt8 :=
  (List.range n).map fun i => outbound.byteAt (i + 1)

/-- Exchanges the bytes of a frame for those of another. -/
def clockFrame [Link σ] (outbound : Frame max) (link : σ) : Except LinkError (Outcome max) × σ :=
  match Link.exchange outbound.length link with
  | (.error e, link) => (.error e, link)
  | (.ok status, link) =>
    match Link.exchange (outbound.byteAt 0) link with
    | (.error e, link) => (.error e, link)
    | (.ok length, link) =>
      let n := window outbound.length length max
      match exchangeAll (bytesInWindow outbound n) link with
      | (.error e, link) => (.error e, link)
      | (.ok replies, link) =>
        (.ok { received := { status, length, storage := Frame.fill replies }, exchanged := n },
          link)

/-- Exchanges a frame for one from the radio, under REQUEST. A failing byte is what is reported even
if REQUEST cannot be released after it. -/
def run [Link σ] (outbound : Frame max) (link : σ) : Except LinkError (Outcome max) × σ :=
  match Link.setRequest true link with
  | (.error e, link) => (.error e, link)
  | (.ok (), link) =>
    match clockFrame outbound link with
    | (.error e, link) =>
      let (_, link) := Link.setRequest false link
      (.error e, link)
    | (.ok outcome, link) =>
      match Link.setRequest false link with
      | (.error e, link) => (.error e, link)
      | (.ok (), link) => (.ok outcome, link)

end Transfer

end RadioLink
