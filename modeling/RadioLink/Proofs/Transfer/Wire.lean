import RadioLink.Proofs.Link.Trace
import RadioLink.Transfer

/-!
# What a transfer says on the wire

`Transfer.Says frame calls result` lists everything that a transfer of `frame` can do over any link:
the calls that it makes, with the link's answers, and the result that it comes to. REQUEST is
asserted first; the bytes sent are the first ones of `Frame.wire`, up to the byte that fails or as
many as the header of the received frame asks for; REQUEST is released last. `Transfer.says_run` is
the statement that nothing else happens.
-/

namespace RadioLink

variable {σ : Type} {max : Nat}

/-! ## The bytes of a frame -/

namespace Frame

/-- The byte at a place of the run of bytes that sends a frame: its length, then its storage, then
zeros. -/
def wireByte (frame : Frame max) : Nat → UInt8
  | 0 => frame.length
  | i + 1 => frame.byteAt i

/-- The first `n` bytes of the run that sends a frame. -/
def wire (frame : Frame max) (n : Nat) : List UInt8 :=
  (List.range n).map frame.wireByte

@[simp] theorem length_wire (frame : Frame max) (n : Nat) : (frame.wire n).length = n := by
  simp [wire]

/-- The header bytes and the bytes of the window are the run of bytes of the frame. -/
theorem wire_add_two (frame : Frame max) (n : Nat) :
    frame.wire (n + 2) = frame.length :: frame.byteAt 0 :: Transfer.bytesInWindow frame n := by
  simp [wire, Transfer.bytesInWindow, List.range_succ_eq_map, wireByte, Function.comp_def]

theorem wire_ne_nil (frame : Frame max) (n : Nat) : frame.wire (n + 2) ≠ [] := by
  rw [wire_add_two]
  exact List.cons_ne_nil _ _

/-- The first byte of the run is the length of the frame. -/
theorem first_wire (frame : Frame max) (n : Nat) :
    (frame.wire (n + 2)).getD 0 0 = frame.length := by
  rw [wire_add_two]
  rfl

/-- The bytes before a byte of the run are a shorter run, and their number is the place of that
byte. -/
theorem eq_wire_of_append {frame : Frame max} {n : Nat} {sent rest : List UInt8} {byte : UInt8}
    (h : frame.wire n = sent ++ byte :: rest) :
    sent = frame.wire sent.length ∧ byte = frame.wireByte sent.length ∧ sent.length < n := by
  have hlen : sent.length < n := by
    have := congrArg List.length h
    simp at this
    omega
  refine ⟨?_, ?_, hlen⟩
  · have htake := congrArg (List.take sent.length) h
    rw [List.take_left, wire, ← List.map_take, List.take_range,
      Nat.min_eq_left (Nat.le_of_lt hlen)] at htake
    exact htake.symm
  · have hget := congrArg (·[sent.length]?) h
    simp [wire, hlen] at hget
    exact hget.symm

end Frame

/-! ## Exchanges in a row -/

/-- The successful exchanges of some bytes for some replies. -/
def swaps (bytes replies : List UInt8) : List Call :=
  List.zipWith (fun byte reply => .exchange byte (.ok reply)) bytes replies

@[simp] theorem swaps_nil : swaps [] [] = [] := rfl

@[simp] theorem swaps_cons (byte reply : UInt8) (bytes replies : List UInt8) :
    swaps (byte :: bytes) (reply :: replies) = .exchange byte (.ok reply) :: swaps bytes replies :=
  rfl

theorem isExchange_of_mem_swaps {bytes replies : List UInt8} {call : Call}
    (h : call ∈ swaps bytes replies) : call.isExchange = true := by
  induction bytes generalizing replies with
  | nil => cases h
  | cons byte bytes ih =>
    cases replies with
    | nil => cases h
    | cons reply replies =>
      rcases List.mem_cons.1 h with rfl | h
      · rfl
      · exact ih h

theorem failed_of_mem_swaps {bytes replies : List UInt8} {call : Call}
    (h : call ∈ swaps bytes replies) :
    call.failed = false := by
  induction bytes generalizing replies with
  | nil => cases h
  | cons byte bytes ih =>
    cases replies with
    | nil => cases h
    | cons reply replies =>
      rcases List.mem_cons.1 h with rfl | h
      · rfl
      · exact ih h

/-- Successful exchanges clock out their bytes. -/
theorem clocked_swaps {bytes replies : List UInt8} (h : bytes.length = replies.length) :
    (swaps bytes replies).filterMap Call.clocked? = bytes := by
  induction bytes generalizing replies with
  | nil => rfl
  | cons byte bytes ih =>
    obtain ⟨reply, replies, rfl⟩ := List.exists_cons_of_length_eq_add_one h.symm
    have hrest : (swaps bytes replies).filterMap Call.clocked? = bytes := ih (by simpa using h)
    rw [swaps_cons, List.filterMap_cons, hrest]
    rfl

namespace Transfer

/-- Bytes are exchanged in order, all of them or up to the first that fails. -/
theorem exchangeAll_trace [Link σ] (bytes : List UInt8) (link : σ) :
    (∃ replies, replies.length = bytes.length ∧ (exchangeAll bytes link).1 = .ok replies ∧
      Trace link (swaps bytes replies) (exchangeAll bytes link).2) ∨
    (∃ sent byte rest replies e, bytes = sent ++ byte :: rest ∧ replies.length = sent.length ∧
      (exchangeAll bytes link).1 = .error e ∧
      Trace link (swaps sent replies ++ [.exchange byte (.error e)])
        (exchangeAll bytes link).2) := by
  induction bytes generalizing link with
  | nil => exact .inl ⟨[], rfl, rfl, .nil⟩
  | cons byte bytes ih =>
    rcases h : Link.exchange byte link with ⟨e | reply, link₁⟩
    · have hrun : exchangeAll (byte :: bytes) link = (.error e, link₁) := by
        simp only [exchangeAll, h]
      rw [hrun]
      exact .inr ⟨[], byte, bytes, [], e, rfl, rfl, rfl, .single h⟩
    · have hrest := ih link₁
      rcases hall : exchangeAll bytes link₁ with ⟨result, link'⟩
      rw [hall] at hrest
      rcases hrest with ⟨replies, hlen, rfl, htrace⟩
        | ⟨sent, b, rest, replies, e, rfl, hlen, rfl, htrace⟩
      · have hrun : exchangeAll (byte :: bytes) link = (.ok (reply :: replies), link') := by
          simp only [exchangeAll, h, hall]
        rw [hrun]
        exact .inl ⟨reply :: replies, by simp [hlen], rfl, .cons h htrace⟩
      · have hrun : exchangeAll (byte :: (sent ++ b :: rest)) link = (.error e, link') := by
          simp only [exchangeAll, h, hall]
        rw [hrun]
        exact .inr ⟨byte :: sent, b, rest, reply :: replies, e, rfl, by simp [hlen], rfl,
          .cons h htrace⟩

/-! ## A whole transfer -/

/-- The number of bytes that a transfer exchanges, as far as the replies tell: the header, and the
window once the second reply has told the length of the received frame. -/
def due (frame : Frame max) : List UInt8 → Nat
  | _ :: length :: _ => window frame.length length max + 2
  | _ => 2

/-- What the replies to a whole transfer amount to. -/
def Outcome.ofReplies (status length : UInt8) (body : List UInt8) : Outcome max where
  received := { status, length, storage := Frame.fill body }
  exchanged := body.length

/-- The calls and the result of a transfer of a frame. -/
inductive Says (frame : Frame max) : List Call → Except LinkError (Outcome max) → Prop
  /-- REQUEST could not be asserted, and nothing else happened. -/
  | refused (e : LinkError) : Says frame [.request true (.error e)] (.error e)
  /-- A byte failed. Its error is the result, whatever came of releasing REQUEST. -/
  | aborted {replies : List UInt8} {e : LinkError} (release : Except LinkError Unit) :
      replies.length < due frame replies →
      Says frame
        (.request true (.ok ()) :: (swaps (frame.wire replies.length) replies ++
          [.exchange (frame.wireByte replies.length) (.error e), .request false release]))
        (.error e)
  /-- All bytes were exchanged, and REQUEST could not be released. -/
  | unreleased {status length : UInt8} {body : List UInt8} (e : LinkError) :
      body.length = window frame.length length max →
      Says frame
        (.request true (.ok ()) ::
          (swaps (frame.wire (body.length + 2)) (status :: length :: body) ++
          [.request false (.error e)]))
        (.error e)
  /-- All bytes were exchanged, and REQUEST was released. -/
  | completed {status length : UInt8} {body : List UInt8} :
      body.length = window frame.length length max →
      Says frame
        (.request true (.ok ()) ::
          (swaps (frame.wire (body.length + 2)) (status :: length :: body) ++
          [.request false (.ok ())]))
        (.ok (.ofReplies status length body))

/-- A transfer that has not failed to drive REQUEST ends with its release. -/
theorem Says.ends_released {frame : Frame max} {calls : List Call}
    {result : Except LinkError (Outcome max)}
    (h : Says frame calls result) (hcalls : RequestsSucceed calls) :
    ∃ front, calls = front ++ [.request false (.ok ())] := by
  cases h with
  | refused e => cases requestsSucceed_request.1 hcalls
  | @aborted replies e release _ =>
    obtain rfl : release = .ok () := hcalls false release (by simp)
    exact ⟨.request true (.ok ()) :: (swaps (frame.wire replies.length) replies ++
      [.exchange (frame.wireByte replies.length) (.error e)]), by simp⟩
  | unreleased e _ => cases hcalls false (.error e) (by simp)
  | completed _ => exact ⟨.request true (.ok ()) :: _, rfl⟩

/-- The header and the window are clocked as one run of bytes of the frame, whole or up to the first
byte that fails. -/
theorem clockFrame_trace [Link σ] (frame : Frame max) (link : σ) :
    (∃ status length body, body.length = window frame.length length max ∧
      (clockFrame frame link).1 = .ok (.ofReplies status length body) ∧
      Trace link (swaps (frame.wire (body.length + 2)) (status :: length :: body))
        (clockFrame frame link).2) ∨
    (∃ replies e, replies.length < due frame replies ∧ (clockFrame frame link).1 = .error e ∧
      Trace link (swaps (frame.wire replies.length) replies ++
        [.exchange (frame.wireByte replies.length) (.error e)]) (clockFrame frame link).2) := by
  rcases h₀ : Link.exchange frame.length link with ⟨e | status, link₁⟩
  · have hrun : clockFrame frame link = (.error e, link₁) := by simp only [clockFrame, h₀]
    rw [hrun]
    exact .inr ⟨[], e, by simp [due], rfl, .single h₀⟩
  rcases h₁ : Link.exchange (frame.byteAt 0) link₁ with ⟨e | length, link₂⟩
  · have hrun : clockFrame frame link = (.error e, link₂) := by simp only [clockFrame, h₀, h₁]
    rw [hrun]
    exact .inr ⟨[status], e, by simp [due], rfl, .cons h₀ (.single h₁)⟩
  have hbody := exchangeAll_trace (bytesInWindow frame (window frame.length length max)) link₂
  rcases hall : exchangeAll (bytesInWindow frame (window frame.length length max)) link₂
    with ⟨result, link'⟩
  rw [hall] at hbody
  rcases hbody with ⟨body, hlen, rfl, htrace⟩
    | ⟨sent, byte, rest, body, e, hsent, hlen, rfl, htrace⟩
  · have hbody : body.length = window frame.length length max := by
      rw [hlen, bytesInWindow, List.length_map, List.length_range]
    have hrun : clockFrame frame link = (.ok (.ofReplies status length body), link') := by
      simp only [clockFrame, h₀, h₁, hall, Outcome.ofReplies, hbody]
    rw [hrun]
    refine .inl ⟨status, length, body, hbody, rfl, ?_⟩
    rw [hbody, Frame.wire_add_two]
    exact .cons h₀ (.cons h₁ htrace)
  · -- the failing byte of the window is the one at the place that the replies so far have reached
    have hwire : frame.wire (window frame.length length max + 2) =
        (frame.length :: frame.byteAt 0 :: sent) ++ byte :: rest := by
      rw [Frame.wire_add_two, hsent, List.cons_append, List.cons_append]
    obtain ⟨hfront, hbyte, hlt⟩ := Frame.eq_wire_of_append hwire
    simp only [List.length_cons] at hfront hbyte hlt
    have hrun : clockFrame frame link = (.error e, link') := by simp only [clockFrame, h₀, h₁, hall]
    rw [hrun]
    refine .inr ⟨status :: length :: body, e, ?_, rfl, ?_⟩
    · simp only [List.length_cons, due, hlen]
      omega
    · simp only [List.length_cons, hlen, ← hfront, ← hbyte, swaps_cons]
      exact .cons h₀ (.cons h₁ htrace)

/-- A transfer makes the calls that `Says` lists, on every link, and comes to the result that goes
with them. -/
theorem says_run [Link σ] (frame : Frame max) (link : σ) :
    ∃ calls, Trace link calls (run frame link).2 ∧ Says frame calls (run frame link).1 := by
  rcases h : Link.setRequest true link with ⟨e | ⟨⟩, link₁⟩
  · have hrun : run frame link = (.error e, link₁) := by simp only [run, h]
    rw [hrun]
    exact ⟨[.request true (.error e)], .single h, .refused e⟩
  have hclock := clockFrame_trace frame link₁
  rcases hc : clockFrame frame link₁ with ⟨result, link₂⟩
  rw [hc] at hclock
  rcases hr : Link.setRequest false link₂ with ⟨release, link₃⟩
  have hassert : Call.Leads (.request true (.ok ())) link link₁ := h
  have hrelease : Call.Leads (.request false release) link₂ link₃ := hr
  rcases hclock with ⟨status, length, body, hbody, rfl, htrace⟩ | ⟨replies, e, hlt, rfl, htrace⟩
  · have hcalls := Trace.cons hassert (htrace.append (.single hrelease))
    cases release with
    | error e =>
      have hrun : run frame link = (.error e, link₃) := by simp only [run, h, hc, hr]
      rw [hrun]
      exact ⟨_, hcalls, .unreleased e hbody⟩
    | ok =>
      have hrun : run frame link = (.ok (.ofReplies status length body), link₃) := by
        simp only [run, h, hc, hr]
      rw [hrun]
      exact ⟨_, hcalls, .completed hbody⟩
  · have hcalls := Trace.cons hassert (htrace.append (.single hrelease))
    have hrun : run frame link = (.error e, link₃) := by simp only [run, h, hc, hr]
    rw [List.append_assoc] at hcalls
    rw [hrun]
    exact ⟨_, hcalls, .aborted release hlt⟩

/-! ## Calls around a transfer -/

/-- The calls are those of one transfer of a frame, with calls around them that exchange no byte, or
there is no transfer among them. -/
inductive Within (frame : Frame max) : List Call → Option (Except LinkError (Outcome max)) → Prop
  | none {calls : List Call} : Silent calls → Within frame calls none
  | one {before said after : List Call} {result : Except LinkError (Outcome max)} : Silent before →
      Says frame said result → Silent after → Within frame (before ++ (said ++ after)) (some result)

/-- Calls that exchange no byte may follow. -/
theorem Within.append {frame : Frame max} {calls after : List Call}
    {result : Option (Except LinkError (Outcome max))} (h : Within frame calls result)
    (hafter : Silent after) : Within frame (calls ++ after) result := by
  cases h with
  | none hcalls => exact .none (hcalls.append hafter)
  | one hbefore hspoken hrest =>
    rw [List.append_assoc, List.append_assoc]
    exact .one hbefore hspoken (hrest.append hafter)

end Transfer

end RadioLink
