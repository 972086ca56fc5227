import RadioLink.Proofs.Frame.Encoding
import RadioLink.Proofs.Transfer.Wire

/-!
# The calls of a transfer

What a transfer asks of a link, call by call (`Transfer.run_calls`). It asserts REQUEST first and
releases it last. In between it clocks the frame out as one run of bytes: the length, the storage,
and zeros from there on. The link has a say in three things only: whether a call fails, what it
answers, and, with its second reply, how long the run is going to be.

The window never asks for more bytes than the storage of a frame has room for (`window_le`), so
every reply behind the header has a place of its own in the received frame
(`Frame.toList_fill_of_le`). The bytes sent may go past the storage of the outbound frame all the
same, by the byte that travels beside the length of the other one; there they are zeros
(`Frame.wire_eq_take`).
-/

namespace RadioLink

variable {σ : Type} {max : Nat}

namespace Frame

/-- The bytes that send a frame are its length, then its storage, and zeros from there on. -/
theorem wire_eq_take (frame : Frame max) (n : Nat) :
    frame.wire n = (frame.length :: (frame.storage.toList ++ .replicate n 0)).take n := by
  apply List.ext_getElem
  · simp
    omega
  intro i hi _
  rw [length_wire] at hi
  cases i with
  | zero => simp [wire, wireByte]
  | succ i =>
    rcases Nat.lt_or_ge i max with hstored | hpast
    · simp [wire, wireByte, byteAt, hstored]
    · simp [wire, wireByte, byteAt, hpast, Nat.not_lt.2 hpast]

/-- A run of bytes that is one longer ends with the next byte of the frame. -/
theorem wire_succ (frame : Frame max) (n : Nat) :
    frame.wire (n + 1) = frame.wire n ++ [frame.wireByte n] := by
  simp [wire, List.range_succ]

end Frame

/-- The window is no wider than the storage of a frame. -/
theorem window_le (sent received : UInt8) (max : Nat) : window sent received max ≤ max :=
  Nat.min_le_right _ _

namespace Transfer

/-- A byte that is still due behind the header lies in the window. -/
theorem lt_window_of_lt_due {frame : Frame max} {status length : UInt8} {body : List UInt8}
    (h : (status :: length :: body).length < due frame (status :: length :: body)) :
    body.length < window frame.length length max := by
  simp only [List.length_cons, due] at h
  omega

/-- **A transfer makes one run of calls over any link.** It asserts REQUEST, and if that fails,
nothing else happens and the failure is the result. Otherwise it exchanges the bytes of its frame in
order: the length, the storage, and zeros from there on. It does so up to the first byte that fails,
or until the header and the window are complete, and then it releases REQUEST, once and as its last
call. A failing byte is the result, whatever comes of the release; a failing release is the result
if no byte has failed; and if nothing has failed, the result is the frame that the replies make up:
the status, the length, and the replies of the window, which fit into the storage, with zeros behind
them. -/
theorem run_calls [Link σ] (frame : Frame max) (link : Traced σ) :
    let stream := fun n => (frame.length :: (frame.storage.toList ++ List.replicate n 0)).take n
    let result := (run frame link).1
    ∃ assertion said, (run frame link).2.calls = link.calls ++ .request true assertion :: said ∧
      (∀ e, assertion = .error e → said = [] ∧ result = .error e) ∧
      (assertion = .ok () → ∃ bytes release, said = bytes ++ [.request false release] ∧
        ((∃ sent byte replies e, bytes = swaps sent replies ++ [.exchange byte (.error e)] ∧
            sent.length = replies.length ∧ sent ++ [byte] = stream (replies.length + 1) ∧
            (∀ status length body, replies = status :: length :: body →
              body.length < window frame.length length max) ∧
            result = .error e) ∨
          (∃ status length body, body.length = window frame.length length max ∧ body.length ≤ max ∧
            bytes = swaps (stream (2 + body.length)) (status :: length :: body) ∧
            (∀ e, release = .error e → result = .error e) ∧
            (release = .ok () → ∃ storage : Vector UInt8 max,
              storage.toList = body ++ List.replicate (max - body.length) 0 ∧
              result = .ok
                { received := { status, length, storage }, exchanged := body.length })))) := by
  intro stream result
  have hstream (n : Nat) : stream n = frame.wire n := (frame.wire_eq_take n).symm
  obtain ⟨calls, htrace, hsays⟩ := says_run frame link
  rw [htrace.calls_eq]
  generalize hresult : (run frame link).1 = answer at hsays
  cases hsays with
  | refused e =>
    refine ⟨.error e, [], rfl, ?_, nofun⟩
    rintro _ ⟨⟩
    exact ⟨rfl, hresult⟩
  | @aborted replies e release hdue =>
    refine ⟨.ok (), _, rfl, nofun, fun _ => ⟨swaps (frame.wire replies.length) replies ++
      [.exchange (frame.wireByte replies.length) (.error e)], release, by simp, .inl ?_⟩⟩
    refine ⟨_, _, replies, e, rfl, frame.length_wire _, ?_, ?_, hresult⟩
    · rw [hstream, Frame.wire_succ]
    · rintro status length body rfl
      exact lt_window_of_lt_due hdue
  | @unreleased status length body e hbody =>
    refine ⟨.ok (), _, rfl, nofun,
      fun _ => ⟨_, .error e, rfl, .inr ⟨status, length, body, hbody, ?_, ?_, ?_, nofun⟩⟩⟩
    · exact hbody ▸ window_le ..
    · rw [hstream, Nat.add_comm]
    · rintro _ ⟨⟩
      exact hresult
  | @completed status length body hbody =>
    have hle : body.length ≤ max := hbody ▸ window_le ..
    refine ⟨.ok (), _, rfl, nofun,
      fun _ => ⟨_, .ok (), rfl, .inr ⟨status, length, body, hbody, hle, ?_, nofun, ?_⟩⟩⟩
    · rw [hstream, Nat.add_comm]
    · exact fun _ => ⟨Frame.fill body, Frame.toList_fill_of_le hle, hresult⟩

end Transfer

end RadioLink
