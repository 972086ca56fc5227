import RadioLink.Link.Faulty
import RadioLink.Link.Traced

/-!
# Traces of a link

A `Trace` is a run of a link seen from outside: the calls made on it, with their answers, lead from
one state of the link to another. What a program does over every link is said once, in terms of the
calls that it makes; a trace then says what those calls do to the link at hand. On a `Traced` link
the record grows by exactly the calls of the trace (`Trace.calls_eq`), and on a `Faulty` link whose
schedule never fails REQUEST none of them is a failed drive of that line (`Trace.requestsSucceed`).

`lastDriven` reads the level of the REQUEST line off a record.
-/

namespace RadioLink

variable {σ : Type}

namespace Call

/-- The call has this answer at `s` and leaves the link at `s'`. -/
def Leads [Link σ] : Call → σ → σ → Prop
  | exchange byte answer, s, s' => Link.exchange byte s = (answer, s')
  | request level answer, s, s' => Link.setRequest level s = (answer, s')
  | ready answer, s, s' => Link.readReady s = (answer, s')
  | reset answer, s, s' => Link.reset s = (answer, s')

/-- Whether a byte was sent, successfully or not. -/
def isExchange : Call → Bool
  | exchange .. => true
  | _ => false

/-- Whether the call has failed. -/
def failed : Call → Bool
  | exchange _ (.error _) | request _ (.error _) | ready (.error _) | reset (.error _) => true
  | _ => false

/-- The byte that a successful exchange clocked out. -/
def clocked? : Call → Option UInt8
  | exchange byte (.ok _) => some byte
  | _ => none

/-- The level to which a call has brought REQUEST. A failed drive leaves the line as it was. -/
def driven? : Call → Option Bool
  | request level (.ok ()) => some level
  | _ => none

end Call

/-- The calls, in this order and with these answers, lead from one state of a link to another. -/
inductive Trace [Link σ] : σ → List Call → σ → Prop
  | nil {s : σ} : Trace s [] s
  | cons {call : Call} {calls : List Call} {s s₁ s' : σ} :
      call.Leads s s₁ → Trace s₁ calls s' → Trace s (call :: calls) s'

namespace Trace

variable [Link σ] {s s' s'' : σ} {calls calls' : List Call}

theorem single {call : Call} (h : call.Leads s s') : Trace s [call] s' :=
  .cons h .nil

theorem append (h : Trace s calls s') (h' : Trace s' calls' s'') :
    Trace s (calls ++ calls') s'' := by
  induction h with
  | nil => exact h'
  | cons hcall _ ih => exact .cons hcall (ih h')

end Trace

/-! ## Records -/

/-- A call on a recorded link is a call on the link underneath, put at the end of the record. -/
theorem Call.Leads.traced [Link σ] {call : Call} {s s' : Traced σ} (h : call.Leads s s') :
    call.Leads s.link s'.link ∧ s'.calls = s.calls ++ [call] := by
  cases call with
  | exchange byte answer | request level answer | ready answer | reset answer =>
    obtain ⟨rfl, rfl⟩ := Prod.mk.inj h
    exact ⟨rfl, rfl⟩

/-- The record grows by the calls of the trace. -/
theorem Trace.calls_eq [Link σ] {calls : List Call} {s s' : Traced σ} (h : Trace s calls s') :
    s'.calls = s.calls ++ calls := by
  induction h with
  | nil => exact (List.append_nil _).symm
  | cons hcall _ ih => rw [ih, hcall.traced.2, List.append_assoc, List.singleton_append]

/-- A trace over a recording link is one over the link underneath. -/
theorem Trace.link [Link σ] {calls : List Call} {s s' : Traced σ} (h : Trace s calls s') :
    Trace s.link calls s'.link := by
  induction h with
  | nil => exact .nil
  | cons hcall _ ih => exact .cons hcall.traced.1 ih

/-! ## Reading a record -/

/-- The level to which the calls of a record have last brought REQUEST, if they have driven it at
all. -/
def lastDriven (calls : List Call) : Option Bool :=
  (calls.filterMap Call.driven?).getLast?

/-- None of the calls is a failed drive of REQUEST. -/
def RequestsSucceed (calls : List Call) : Prop :=
  ∀ level answer, Call.request level answer ∈ calls → answer = .ok ()

/-- No byte is exchanged. -/
def Silent (calls : List Call) : Prop :=
  ∀ call ∈ calls, call.isExchange = false

theorem Silent.nil : Silent [] :=
  nofun

theorem Silent.single {call : Call} (h : call.isExchange = false) : Silent [call] := by
  intro other hother
  rw [List.mem_singleton.1 hother]
  exact h

theorem Silent.ready (answer : Except LinkError Bool) : Silent [.ready answer] :=
  .single rfl

theorem Silent.append {calls calls' : List Call} (h : Silent calls) (h' : Silent calls') :
    Silent (calls ++ calls') := by
  intro call hcall
  exact (List.mem_append.1 hcall).elim (h call) (h' call)

/-- Silent calls clock out nothing. -/
theorem Silent.clocked {calls : List Call} (h : Silent calls) :
    calls.filterMap Call.clocked? = [] := by
  refine List.filterMap_eq_nil_iff.2 fun call hcall => ?_
  have hsilent := h call hcall
  cases call with
  | exchange byte answer => cases hsilent
  | request | ready | reset => rfl

theorem Silent.any_isExchange {calls : List Call} (h : Silent calls) :
    calls.any Call.isExchange = false := by
  simpa [List.any_eq_false, Silent] using h

/-- The last level driven is that of the later calls, unless they drive none. -/
@[simp] theorem lastDriven_append (calls calls' : List Call) :
    lastDriven (calls ++ calls') = (lastDriven calls').or (lastDriven calls) := by
  simp [lastDriven, List.getLast?_append]

@[simp] theorem requestsSucceed_nil : RequestsSucceed [] := by
  simp [RequestsSucceed]

/-- Drives succeed in a row exactly if they succeed in both of its parts. -/
@[simp] theorem requestsSucceed_append {calls calls' : List Call} :
    RequestsSucceed (calls ++ calls') ↔ RequestsSucceed calls ∧ RequestsSucceed calls' := by
  constructor
  · intro h
    exact ⟨fun _ _ hc => h _ _ (List.mem_append_left _ hc),
      fun _ _ hc => h _ _ (List.mem_append_right _ hc)⟩
  · rintro ⟨h, h'⟩ level answer hc
    exact (List.mem_append.1 hc).elim (h level answer) (h' level answer)

theorem requestsSucceed_cons {call : Call} {calls : List Call} :
    RequestsSucceed (call :: calls) ↔ RequestsSucceed [call] ∧ RequestsSucceed calls := by
  show RequestsSucceed ([call] ++ calls) ↔ _
  exact requestsSucceed_append

@[simp] theorem requestsSucceed_request {level : Bool} {answer : Except LinkError Unit} :
    RequestsSucceed [.request level answer] ↔ answer = .ok () := by
  simp [RequestsSucceed]

@[simp] theorem requestsSucceed_ready_cons {answer : Except LinkError Bool} {calls : List Call} :
    RequestsSucceed (.ready answer :: calls) ↔ RequestsSucceed calls := by
  simp [RequestsSucceed]

/-! ## Scheduled faults -/

/-- A primitive that is told to fail does not touch the link. -/
theorem Faulty.eq_of_unlessStruck {α : Type} {verdicts : List Bool} {error : LinkError}
    {run : σ → Except LinkError α × σ} {link link' : σ} {answer : Except LinkError α}
    (h : Faulty.unlessStruck verdicts error run link = (answer, link')) :
    link' = link ∧ answer = .error error ∨ run link = (answer, link') := by
  unfold Faulty.unlessStruck at h
  split at h
  · obtain ⟨rfl, rfl⟩ := Prod.mk.inj h
    exact .inl ⟨rfl, rfl⟩
  · exact .inr h

/-- A call on a link with scheduled faults either has failed without touching the link underneath,
or it is a call on that link. -/
theorem Call.Leads.faulty [Link σ] {call : Call} {s s' : Faulty σ} (h : call.Leads s s') :
    s'.link = s.link ∧ call.failed = true ∨ call.Leads s.link s'.link := by
  cases call with
  | exchange byte answer =>
    have h : Link.exchange byte s = (answer, s') := h
    have hrun : Faulty.unlessStruck s.faults.exchange (.exchange Faulty.detail)
        (Link.exchange byte) s.link =
        (answer, s'.link) := Prod.ext (congrArg Prod.fst h :) (congrArg (·.2.link) h :)
    exact (Faulty.eq_of_unlessStruck hrun).imp_left fun ⟨hlink, hanswer⟩ => ⟨hlink, hanswer ▸ rfl⟩
  | request level answer =>
    have h : Link.setRequest level s = (answer, s') := h
    have hrun : Faulty.unlessStruck s.faults.request (.pin .request Faulty.detail)
        (Link.setRequest level) s.link =
        (answer, s'.link) := Prod.ext (congrArg Prod.fst h :) (congrArg (·.2.link) h :)
    exact (Faulty.eq_of_unlessStruck hrun).imp_left fun ⟨hlink, hanswer⟩ => ⟨hlink, hanswer ▸ rfl⟩
  | ready answer =>
    have h : Link.readReady s = (answer, s') := h
    have hrun : Faulty.unlessStruck s.faults.ready (.pin .ready Faulty.detail) Link.readReady
        s.link =
        (answer, s'.link) := Prod.ext (congrArg Prod.fst h :) (congrArg (·.2.link) h :)
    exact (Faulty.eq_of_unlessStruck hrun).imp_left fun ⟨hlink, hanswer⟩ => ⟨hlink, hanswer ▸ rfl⟩
  | reset answer =>
    have h : Link.reset s = (answer, s') := h
    have hrun : Faulty.unlessStruck s.faults.reset (.pin .reset Faulty.detail) Link.reset s.link =
        (answer, s'.link) := Prod.ext (congrArg Prod.fst h :) (congrArg (·.2.link) h :)
    exact (Faulty.eq_of_unlessStruck hrun).imp_left fun ⟨hlink, hanswer⟩ => ⟨hlink, hanswer ▸ rfl⟩

/-- Without scheduled faults, REQUEST is driven on the link underneath. -/
theorem Faulty.setRequest_eq [Link σ] {level : Bool} {s : Faulty σ} (hs : s.faults.request = []) :
    Link.setRequest level s =
      ((Link.setRequest level s.link).1, { s with link := (Link.setRequest level s.link).2 }) := by
  obtain ⟨link, exchange, request, ready, reset⟩ := s
  cases hs
  rfl

/-- A call on a link without scheduled REQUEST faults leaves it without such faults, and does not
fail to drive REQUEST unless the link underneath does. -/
theorem Call.Leads.requestSucceeds [Link σ]
    (hlink : ∀ level (s : σ), (Link.setRequest level s).1 = .ok ())
    {call : Call} {s s' : Faulty σ} (h : call.Leads s s') (hs : s.faults.request = []) :
    RequestsSucceed [call] ∧ s'.faults.request = [] := by
  cases call with
  | request level answer =>
    rw [Leads, Faulty.setRequest_eq hs] at h
    obtain ⟨rfl, rfl⟩ := Prod.mk.inj h
    exact ⟨requestsSucceed_request.2 (hlink level s.link), hs⟩
  | exchange byte answer | ready answer | reset answer =>
    obtain ⟨rfl, rfl⟩ := Prod.mk.inj h
    exact ⟨by simp [RequestsSucceed], hs⟩

/-- Without scheduled REQUEST faults no call of a trace fails to drive REQUEST. -/
theorem Trace.requestsSucceed [Link σ]
    (hlink : ∀ level (s : σ), (Link.setRequest level s).1 = .ok ())
    {calls : List Call} {s s' : Faulty σ} (h : Trace s calls s') (hs : s.faults.request = []) :
    RequestsSucceed calls ∧ s'.faults.request = [] := by
  induction h with
  | nil => exact ⟨requestsSucceed_nil, hs⟩
  | cons hcall _ ih =>
    obtain ⟨hfirst, hs₁⟩ := hcall.requestSucceeds hlink hs
    obtain ⟨hrest, hs'⟩ := ih hs₁
    exact ⟨requestsSucceed_cons.2 ⟨hfirst, hrest⟩, hs'⟩

end RadioLink
