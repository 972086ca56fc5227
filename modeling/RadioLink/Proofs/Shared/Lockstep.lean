import Mathlib.Algebra.GroupWithZero.Nat
import Mathlib.Data.List.GetD
import Mathlib.Order.Monotone.Basic
import RadioLink.Proofs.Link.Simulation
import RadioLink.Proofs.Link.Trace
import RadioLink.Shared.Gate

/-!
# Calls while somebody is inside

The calls on a shared transport that come inside the exchanges of its link are scheduled, a list for
each exchange. Whoever exchanges a byte is inside, so all of them are turned away, and an edge among
them is latched (`Gate.knockAll_of_held`).

A link on which this happens is compared with one that nobody calls and that records what is done to
it. The number of bytes in the record tells which calls have come by now, hence what the latch shows
and how many calls are still to come (`Wired.Lockstep`). Every primitive keeps the two links in
lockstep (`Wired.simulates`).
-/

namespace RadioLink

variable {σ : Type}

/-! ## Calls that are turned away -/

namespace Gate

/-- A call at a gate that is held is turned away, and an edge is latched. -/
theorem knock_of_held (call : Knock) {g : Gate} (h : g.lock = .held) :
    g.knock call = (.busy, { g with latched := g.latched || .readyEdge == call }) := by
  obtain ⟨latched, lock⟩ := g
  obtain rfl : lock = .held := h
  cases latched <;> cases call <;> rfl

/-- Under the lock every call is turned away, and an edge among them is latched. -/
theorem knockAll_of_held (calls : List Knock) {g : Gate} (h : g.lock = .held) :
    g.knockAll calls =
      (calls.map fun _ => .busy, { g with latched := g.latched || calls.contains .readyEdge }) := by
  induction calls generalizing g with
  | nil => simp [knockAll]
  | cons call calls ih =>
    have hrest := ih (g := { g with latched := g.latched || .readyEdge == call }) h
    simp only [knockAll, knock_of_held call h, hrest, List.contains_cons, List.map_cons,
      Bool.or_assoc]

end Gate

/-- An edge comes inside one of the exchanges from number `m` on, before number `n`. -/
def Arrived (schedule : List (List Knock)) (m n : Nat) : Prop :=
  ∃ i, m ≤ i ∧ i < n ∧ Knock.readyEdge ∈ schedule.getD i []

theorem not_arrived_self (schedule : List (List Knock)) (n : Nat) : ¬Arrived schedule n n :=
  fun ⟨_, hle, hlt, _⟩ => Nat.not_lt_of_le hle hlt

/-- An edge comes inside one of the exchanges up to the next one, or inside that one. -/
theorem arrived_succ {schedule : List (List Knock)} {m n : Nat} (h : m ≤ n) :
    Arrived schedule m (n + 1) ↔ Arrived schedule m n ∨ Knock.readyEdge ∈ schedule.getD n [] := by
  constructor
  · rintro ⟨i, hm, hn, hedge⟩
    rcases Nat.lt_succ_iff_lt_or_eq.1 hn with hn | rfl
    · exact .inl ⟨i, hm, hn, hedge⟩
    · exact .inr hedge
  · rintro (⟨i, hm, hn, hedge⟩ | hedge)
    · exact ⟨i, hm, Nat.lt_succ_of_lt hn, hedge⟩
    · exact ⟨n, h, Nat.lt_succ_self n, hedge⟩

/-- What becomes of the calls inside the first `n` exchanges if all of them are turned away. -/
def turnedAway (schedule : List (List Knock)) (n : Nat) : List (List Entry) :=
  (List.range n).map fun i => (schedule.getD i []).map fun _ => .busy

/-- The calls inside another exchange are turned away behind the others. -/
theorem turnedAway_succ (schedule : List (List Knock)) (n : Nat) :
    turnedAway schedule (n + 1) =
      turnedAway schedule n ++ [(schedule.getD n []).map fun _ => .busy] := by
  simp [turnedAway, List.range_succ]

/-- The number of calls inside the exchanges from number `n` on. -/
def callsFrom (schedule : List (List Knock)) (n : Nat) : Nat :=
  ((schedule.drop n).map List.length).sum

/-- The calls from an exchange on are those inside it and those behind it. -/
theorem callsFrom_eq_add (schedule : List (List Knock)) (n : Nat) :
    callsFrom schedule n = (schedule.getD n []).length + callsFrom schedule (n + 1) := by
  by_cases h : n < schedule.length
  · rw [callsFrom, callsFrom, List.drop_eq_getElem_cons h, List.map_cons, List.sum_cons,
      List.getD_eq_getElem _ _ h]
  · have hle := Nat.le_of_not_lt h
    rw [callsFrom, callsFrom, List.drop_eq_nil_of_le hle,
      List.drop_eq_nil_of_le (Nat.le_succ_of_le hle), List.getD_eq_default _ _ hle]
    rfl

/-- As exchanges are made less calls are to come. -/
theorem callsFrom_antitone (schedule : List (List Knock)) : Antitone (callsFrom schedule) :=
  antitone_nat_of_succ_le fun n => (callsFrom_eq_add schedule n).symm ▸ Nat.le_add_left _ _

/-- An edge that has come is not among the calls still to come. -/
theorem Arrived.callsFrom_lt {schedule : List (List Knock)} {m n : Nat} (h : Arrived schedule m n) :
    callsFrom schedule n < callsFrom schedule m := by
  obtain ⟨i, hm, hn, hedge⟩ := h
  have hfirst : callsFrom schedule i ≤ callsFrom schedule m := callsFrom_antitone schedule hm
  have hlast : callsFrom schedule n ≤ callsFrom schedule (i + 1) := callsFrom_antitone schedule hn
  have hpos := List.length_pos_of_mem hedge
  have hstep := callsFrom_eq_add schedule i
  omega

/-! ## Wired and recorded links -/

/-- The number of bytes that have been exchanged, successfully or not. -/
def Traced.exchanged (s : Traced σ) : Nat :=
  s.calls.countP Call.isExchange

namespace Wired

variable {schedule : List (List Knock)} {past : List (List Entry)} {edge : Prop} {since : Nat}
  {w : Wired σ}
  {p : Traced σ}

/-- A wired link has been used like a recorded one, and all calls that came meanwhile were turned
away. -/
structure Beside (schedule : List (List Knock)) (past : List (List Entry)) (w : Wired σ)
    (p : Traced σ) :
    Prop where
  link : w.link = p.link
  knocks : w.knocks = schedule.drop p.exchanged
  entries : w.entries = past ++ turnedAway schedule p.exchanged

/-- The same while somebody is inside. The latch tells whether an edge came inside one of the
exchanges from number `since` on, or another way. -/
structure Lockstep (schedule : List (List Knock)) (past : List (List Entry)) (edge : Prop)
    (since : Nat) (w : Wired σ) (p : Traced σ) : Prop extends Beside schedule past w p where
  lock : w.gate.lock = .held
  latched : w.gate.latched = true ↔ edge ∨ Arrived schedule since p.exchanged
  since_le : since ≤ p.exchanged

/-- The gate has no part in what has been done on the link. -/
theorem Beside.regate (h : Beside schedule past w p) (gate : Gate) :
    Beside schedule past { w with gate } p :=
  ⟨h.link, h.knocks, h.entries⟩

/-- The calls still to come inside a wired link are those scheduled from its next exchange on. -/
theorem Beside.knocksLeft (h : Beside schedule past w p) :
    w.knocksLeft = callsFrom schedule p.exchanged := by
  rw [Wired.knocksLeft, h.knocks, callsFrom]
  induction schedule.drop p.exchanged with
  | nil => rfl
  | cons calls rest ih => rw [List.foldr_cons, List.map_cons, List.sum_cons, ih]

/-- No call comes inside a primitive that exchanges no byte. -/
theorem Lockstep.quiet (h : Lockstep schedule past edge since w p) {link link' : σ}
    (hlink : link = link') {call : Call} (hcall : call.isExchange = false) :
    Lockstep schedule past edge since { w with link }
      { link := link', calls := p.calls ++ [call] } := by
  have hexchanged : ({ link := link', calls := p.calls ++ [call] } : Traced σ).exchanged =
      p.exchanged := by
    simp [Traced.exchanged, hcall]
  exact ⟨⟨hlink, hexchanged ▸ h.knocks, hexchanged ▸ h.entries⟩, h.lock, hexchanged ▸ h.latched,
    hexchanged ▸ h.since_le⟩

/-- An edge that is latched has used up one of the calls that were to come. -/
theorem Lockstep.fuel (h : Lockstep schedule past False since w p) :
    w.knocksLeft + w.gate.latched.toNat ≤ callsFrom schedule since := by
  rw [h.knocksLeft]
  cases hlatched : w.gate.latched with
  | false => exact callsFrom_antitone schedule h.since_le
  | true =>
    have harrived := (or_iff_right not_false).1 (h.latched.1 hlatched)
    exact harrived.callsFrom_lt

variable [Link σ]

/-- Wired and recorded link stay in lockstep over an exchange, whatever calls come inside it. -/
theorem Lockstep.exchange (h : Lockstep schedule past edge since w p) (byte : UInt8) :
    Alike (Lockstep schedule past edge since) (Link.exchange byte w) (Link.exchange byte p) := by
  have hcalls : w.knocks.headD [] = schedule.getD p.exchanged [] := by
    rw [h.knocks, List.headD_eq_head?_getD, List.head?_drop, List.getD_eq_getElem?_getD]
  have hgate := Gate.knockAll_of_held (w.knocks.headD []) h.lock
  have hexchanged : (Link.exchange byte p).2.exchanged = p.exchanged + 1 := by
    simp [Link.exchange, Traced.exchanged, Call.isExchange]
  have hlink := congrArg (Link.exchange byte) h.link
  refine ⟨congrArg Prod.fst hlink, ⟨congrArg Prod.snd hlink, ?_, ?_⟩, ?_, ?_, ?_⟩
  · rw [hexchanged, ← List.tail_drop, ← h.knocks]
    rfl
  · show w.entries ++ [(w.gate.knockAll (w.knocks.headD [])).1] = _
    rw [hexchanged, turnedAway_succ, hgate, h.entries, hcalls, List.append_assoc]
  · show (w.gate.knockAll (w.knocks.headD [])).2.lock = .held
    rw [hgate]
    exact h.lock
  · show (w.gate.knockAll (w.knocks.headD [])).2.latched = true ↔ _
    rw [hexchanged, arrived_succ h.since_le, hgate, hcalls, Bool.or_eq_true, h.latched,
      List.contains_iff_mem, or_assoc]
  · rw [hexchanged]
    exact Nat.le_succ_of_le h.since_le

/-- A wired link under the lock answers like the recorded one: what comes inside its exchanges
changes the latch only. -/
theorem simulates (schedule : List (List Knock)) (past : List (List Entry)) (edge : Prop)
    (since : Nat) :
    Link.Simulates (Lockstep schedule past edge since : Wired σ → Traced σ → Prop) where
  exchange byte h := h.exchange byte
  setRequest level h := by
    have hlink := congrArg (Link.setRequest level) h.link
    exact ⟨congrArg Prod.fst hlink, h.quiet (congrArg Prod.snd hlink) rfl⟩
  readReady h := by
    have hlink := congrArg Link.readReady h.link
    exact ⟨congrArg Prod.fst hlink, h.quiet (congrArg Prod.snd hlink) rfl⟩
  reset h := by
    have hlink := congrArg Link.reset h.link
    exact ⟨congrArg Prod.fst hlink, h.quiet (congrArg Prod.snd hlink) rfl⟩

end Wired

end RadioLink
