import Mathlib.Logic.Function.Iterate
import RadioLink.Link.Faulty
import RadioLink.Proofs.Host.Run
import RadioLink.Proofs.Shared.Serial
import RadioLink.Radio

/-!
# A release comes to its end

Whoever leaves a shared transport makes up for the edges that were turned away, and it does so in
two loops (`Releasing.step`): cycles are replayed under the lock until no edge is latched or a cycle
fails, then the lock is let go of, and taken again if an edge is latched still. A cycle that is
replayed may latch the next edge itself, so the latch alone does not tell how long this lasts.

What goes down is the number of edges that are `Wired.due`, the latched one and those that the link
has still to raise: under the lock nothing adds to them (`Trace.owes`), and a replay takes one away
(`Shared.replay_owes`). So the loops end, they end where `Shared.release` does, and each replay is
paid for by an edge of its own (`Shared.release_ends`).

Work that is given up half-way does not get to a release: it poisons the lock (`Shared.abandon`),
and is not among the operations of a history.
-/

namespace RadioLink

variable {σ : Type} {max depth : Nat}

/-! ## The edges that are due -/

namespace Wired

/-- The number of edges still to come inside the exchanges. -/
def edgesLeft (w : Wired σ) : Nat :=
  w.knocks.flatten.count .readyEdge

/-- The number of edges still to be made up for: those to come, and the latched one. -/
def due (w : Wired σ) : Nat :=
  w.edgesLeft + w.gate.latched.toNat

/-- The edges are among the calls still to come. -/
theorem edgesLeft_le_knocksLeft (w : Wired σ) : w.edgesLeft ≤ w.knocksLeft := by
  have hlength : w.knocksLeft = w.knocks.flatten.length := by
    rw [knocksLeft]
    induction w.knocks with
    | nil => rfl
    | cons calls rest ih => rw [List.foldr_cons, ih, List.flatten_cons, List.length_append]
  rw [hlength]
  exact List.count_le_length

/-- The edges of the next exchange are among those to come. -/
theorem edgesLeft_eq_add (w : Wired σ) :
    w.edgesLeft = (w.knocks.headD []).count .readyEdge +
      w.knocks.tail.flatten.count .readyEdge := by
  rw [edgesLeft]
  cases w.knocks with
  | nil => rfl
  | cons calls rest => rw [List.flatten_cons, List.count_append]; rfl

/-- The lock is held, and no more edges are due than that. -/
structure Owes (n : Nat) (w : Wired σ) : Prop where
  held : w.gate.lock = .held
  due_le : w.due ≤ n

theorem Owes.mono {m n : Nat} {w : Wired σ} (h : w.Owes m) (hle : m ≤ n) : w.Owes n :=
  ⟨h.held, h.due_le.trans hle⟩

/-- What is due is what is still to come and what is latched. -/
theorem Owes.sum_le {n : Nat} {w : Wired σ} (h : w.Owes n) :
    w.edgesLeft + w.gate.latched.toNat ≤ n :=
  h.due_le

variable [Link σ]

/-- An edge that comes inside an exchange is latched, and no longer to come. -/
theorem Owes.exchange {n : Nat} {w : Wired σ} (h : w.Owes n) (byte : UInt8) :
    (Link.exchange byte w).2.Owes n := by
  have hgate : (Link.exchange byte w).2.gate =
      { w.gate with latched := w.gate.latched || (w.knocks.headD []).contains .readyEdge } :=
    congrArg Prod.snd (Gate.knockAll_of_held _ h.held)
  constructor
  case held =>
    rw [hgate]
    exact h.held
  case due_le =>
    have hleft : (Link.exchange byte w).2.edgesLeft = w.knocks.tail.flatten.count .readyEdge := rfl
    have hlatched : (w.gate.latched || (w.knocks.headD []).contains .readyEdge).toNat ≤
        w.gate.latched.toNat + (w.knocks.headD []).count .readyEdge := by
      cases hcontains : (w.knocks.headD []).contains .readyEdge with
      | false => simp
      | true =>
        have hpos := List.count_pos_iff.2 (List.contains_iff_mem.1 hcontains)
        have hone : (w.gate.latched || true).toNat ≤ 1 := Bool.toNat_le _
        omega
    have hdue := h.sum_le
    rw [edgesLeft_eq_add] at hdue
    rw [due, hgate, hleft]
    dsimp only
    omega

end Wired

variable [Link σ] {n : Nat}

/-- The step: no call adds to what is due, since an edge that comes inside it is latched. -/
theorem Call.Leads.owes {call : Call} {w w' : Wired σ} (h : call.Leads w w') (howes : w.Owes n) :
    w'.Owes n := by
  cases call with
  | exchange byte answer =>
    have hlink : w' = (Link.exchange byte w).2 := (congrArg Prod.snd h).symm
    rw [hlink]
    exact howes.exchange byte
  | request level answer | ready answer | reset answer =>
    obtain ⟨-, rfl⟩ := Prod.mk.inj h
    exact ⟨howes.held, howes.due_le⟩

/-- Under the lock, no call on the link adds to the edges that are due. -/
theorem Trace.owes {calls : List Call} {w w' : Wired σ} (h : Trace w calls w') (howes : w.Owes n) :
    w'.Owes n := by
  induction h with
  | nil => exact howes
  | cons hcall _ ih => exact ih (hcall.owes howes)

/-- Nor does an operation, which is a trace of calls. -/
theorem Transport.Op.owes (op : Op max) {t : Transport (Wired σ) max depth} (h : t.link.Owes n) :
    (op.run t).2.link.Owes n := by
  obtain ⟨calls, htrace, -⟩ := op.run_performs t
  exact htrace.owes h

/-- Nor does the cycle of an edge. -/
theorem Transport.onReadyEdge_owes {t : Transport (Wired σ) max depth} (h : t.link.Owes n) :
    t.onReadyEdge.2.link.Owes n := by
  have hop := Transport.Op.readyEdge.owes h
  rwa [Transport.Op.run, Reply.snd_map] at hop

namespace Shared

/-! ## Work under the lock -/

/-- Whether the step is an edge, which is turned away since the lock is held. -/
def Step.isEdge {ι : Type} : Step ι max → Bool
  | .knock .readyEdge => true
  | _ => false

/-- A step adds to the edges that are due only if it is one. -/
theorem Step.run_owes (step : Step (σ → σ) max) {t : Transport (Wired σ) max depth}
    (h : t.link.Owes n) :
    (step.run t).2.link.Owes (n + step.isEdge.toNat) := by
  cases step with
  | operate op =>
    rw [Step.run, Reply.snd_map]
    exact op.owes h
  | touch change => exact ⟨h.held, h.due_le⟩
  | clock byte => exact h.exchange byte
  | knock call =>
    rw [Step.run, Knock.run_of_held call h.held]
    have hdue := h.sum_le
    refine ⟨h.held, ?_⟩
    cases call with
    | readyEdge =>
      show t.link.edgesLeft + (t.link.gate.latched || true).toNat ≤ n + 1
      rw [Bool.or_true, Bool.toNat_true]
      omega
    | tryReceive =>
      show t.link.edgesLeft + (t.link.gate.latched || false).toNat ≤ n
      rw [Bool.or_false]
      exact hdue

/-- The run over the steps of an operation: each edge among them adds one to what is due. -/
theorem Step.runAll_owes (steps : List (Step (σ → σ) max)) {t : Transport (Wired σ) max depth}
    (h : t.link.Owes n) :
    (Step.runAll steps t).2.link.Owes (n + steps.countP Step.isEdge) := by
  induction steps generalizing t n with
  | nil => exact h
  | cons step steps ih =>
    refine (ih (step.run_owes h)).mono (Nat.le_of_eq ?_)
    rw [List.countP_cons, Nat.add_right_comm, Nat.add_assoc]
    cases step.isEdge <;> rfl

/-! ## The two loops -/

/-- Where a release stands, with the number of cycles that it has replayed. -/
inductive Releasing (σ : Type) (max depth : Nat) where
  /-- In the inner loop, under the lock. -/
  | inside (replayed : Nat) (t : Transport (Wired σ) max depth)
  /-- In the outer loop, after the lock has been let go of. -/
  | outside (replayed : Nat) (t : Transport (Wired σ) max depth)
  /-- Returned. -/
  | done (replayed : Nat) (s : Shared σ max depth)

namespace Releasing

/-- A cycle that fails ends the inner loop like an empty latch does. Outside, a latched edge leads
back into the inner loop unless somebody else has got the lock. -/
def step : Releasing σ max depth → Releasing σ max depth
  | .inside replayed t =>
    if t.link.gate.latched then
      match (withGate t.link.gate.unlatch t).onReadyEdge with
      | (.ok _, t) => .inside (replayed + 1) t
      | (.error _, t) => .outside (replayed + 1) (withGate t.link.gate.leave t)
    else
      .outside replayed (withGate t.link.gate.leave t)
  | .outside replayed t =>
    if t.link.gate.latched then
      match t.link.gate.tryEnter with
      | (.granted, gate) => .inside replayed (withGate gate t)
      | _ => .done replayed ⟨t⟩
    else
      .done replayed ⟨t⟩
  | .done replayed s => .done replayed s

/-- The release returns at some time, after so many replays and with this handle. -/
def Ends (x : Releasing σ max depth) (replayed : Nat) (s : Shared σ max depth) : Prop :=
  ∃ steps, step^[steps] x = .done replayed s

variable {x : Releasing σ max depth} {t : Transport (Wired σ) max depth} {replayed total : Nat}
  {s : Shared σ max depth}

theorem ends_done (replayed : Nat) (s : Shared σ max depth) : (done replayed s).Ends replayed s :=
  ⟨0, rfl⟩

/-- A release that has taken a step ends as before it: what has returned stays so. -/
theorem ends_step_iff : x.step.Ends total s ↔ x.Ends total s := by
  constructor
  · rintro ⟨steps, h⟩
    exact ⟨steps + 1, h⟩
  · rintro ⟨steps, h⟩
    refine ⟨steps, ?_⟩
    rw [← Function.iterate_succ_apply, Function.iterate_succ_apply', h]
    rfl

/-- With an empty latch the lock is let go of, and that is the end. -/
theorem inside_ends_of_unlatched (h : t.link.gate.latched = false) :
    (inside replayed t).Ends replayed ⟨withGate t.link.gate.leave t⟩ := by
  have hleave : (inside replayed t).step = .outside replayed (withGate t.link.gate.leave t) := by
    rw [step, h, if_neg Bool.false_ne_true]
  have hreturn : (outside replayed (withGate t.link.gate.leave t)).step =
      .done replayed ⟨withGate t.link.gate.leave t⟩ := by
    have hlatched : (withGate t.link.gate.leave t).link.gate.latched = false := h
    rw [step, hlatched, if_neg Bool.false_ne_true]
  rw [← ends_step_iff, hleave, ← ends_step_iff, hreturn]
  exact ends_done _ _

/-- Having let go of the lock makes no difference to the end: a latched edge leads back into the
inner loop, and without one that loop has nothing to do. -/
theorem outside_ends_iff (hheld : t.link.gate.lock = .held) :
    (outside replayed (withGate t.link.gate.leave t)).Ends total s ↔
      (inside replayed t).Ends total s := by
  cases hlatched : t.link.gate.latched with
  | false =>
    have hleave : (inside replayed t).step = .outside replayed (withGate t.link.gate.leave t) := by
      rw [step, hlatched, if_neg Bool.false_ne_true]
    rw [← hleave, ends_step_iff]
  | true =>
    have hsame : withGate { t.link.gate.leave with lock := .held } (withGate t.link.gate.leave t) =
        t := by
      obtain ⟨link, commands, events⟩ := t
      obtain ⟨link, ⟨latched, lock⟩, knocks, entries⟩ := link
      obtain rfl : lock = .held := hheld
      rfl
    have hback : (outside replayed (withGate t.link.gate.leave t)).step = .inside replayed t := by
      have hlatched' : (withGate t.link.gate.leave t).link.gate.latched = true := hlatched
      rw [step, if_pos hlatched']
      exact congrArg (inside replayed) hsame
    rw [← ends_step_iff, hback]

/-- A cycle is replayed for a latched edge, and the release goes on behind it whether it fails or
not. -/
theorem inside_ends_iff_of_latched (hlatched : t.link.gate.latched = true)
    (hheld : (withGate t.link.gate.unlatch t).onReadyEdge.2.link.gate.lock = .held) :
    (inside replayed t).Ends total s ↔
      (inside (replayed + 1) (withGate t.link.gate.unlatch t).onReadyEdge.2).Ends total s := by
  rw [← ends_step_iff, step, if_pos hlatched]
  rcases hcycle : (withGate t.link.gate.unlatch t).onReadyEdge with ⟨_ | cycle, t₁⟩
  · rw [hcycle] at hheld
    exact outside_ends_iff hheld
  · rfl

end Releasing

/-! ## The end -/

/-- A replay takes one of the edges that are due away. -/
theorem replay_owes {t : Transport (Wired σ) max depth} (h : t.link.Owes (n + 1))
    (hlatched : t.link.gate.latched = true) :
    (withGate t.link.gate.unlatch t).onReadyEdge.2.link.Owes n := by
  have hunlatched : (withGate t.link.gate.unlatch t).link.Owes n := by
    have hdue := h.sum_le
    rw [hlatched] at hdue
    exact ⟨h.held, Nat.le_of_succ_le_succ hdue⟩
  exact Transport.onReadyEdge_owes hunlatched

/-- With an empty latch there is nothing to replay, and the loops end at once. -/
theorem releasing_ends_of_unlatched (fuel : Nat) {t : Transport (Wired σ) max depth}
    (h : t.link.Owes n) (hlatched : t.link.gate.latched = false) (replayed : Nat) :
    let final := replay fuel t
    ∃ r, (Releasing.inside replayed t).Ends (replayed + r) ⟨withGate final.link.gate.leave final⟩ ∧
      final.link.gate.leave = {} ∧ r + final.link.edgesLeft ≤ n := by
  intro final
  have hfinal : final = t := replay_of_unlatched fuel hlatched
  rw [hfinal]
  refine ⟨0, Releasing.inside_ends_of_unlatched hlatched, by rw [Gate.leave, hlatched], ?_⟩
  have hdue := h.sum_le
  omega

/-- The loops end where the replays do that have fuel for all edges that are due, and the edges that
are left then have had no replay. -/
theorem releasing_ends (fuel : Nat) {t : Transport (Wired σ) max depth} (h : t.link.Owes n)
    (hfuel : n ≤ fuel) (replayed : Nat) :
    let final := replay fuel t
    ∃ r, (Releasing.inside replayed t).Ends (replayed + r) ⟨withGate final.link.gate.leave final⟩ ∧
      final.link.gate.leave = {} ∧ r + final.link.edgesLeft ≤ n := by
  induction fuel generalizing t n replayed with
  | zero =>
    have hlatched : t.link.gate.latched = false := by
      have hdue := h.sum_le
      exact Bool.toNat_eq_zero.1 (by omega)
    exact releasing_ends_of_unlatched 0 h hlatched replayed
  | succ fuel ih =>
    intro final
    cases hlatched : t.link.gate.latched with
    | false => exact releasing_ends_of_unlatched (fuel + 1) h hlatched replayed
    | true =>
      obtain ⟨m, rfl⟩ : ∃ m, n = m + 1 := by
        have hdue := h.sum_le
        rw [hlatched, Bool.toNat_true] at hdue
        exact Nat.exists_eq_add_one.2 (by omega)
      have howes := replay_owes h hlatched
      obtain ⟨r, hends, hleave, hleft⟩ := ih howes (Nat.le_of_succ_le_succ hfuel) (replayed + 1)
      have hfinal : final = replay fuel (withGate t.link.gate.unlatch t).onReadyEdge.2 := by
        simp only [final, replay, if_pos hlatched]
      rw [← hfinal] at hends hleave hleft
      refine ⟨r + 1, ?_, hleave, by omega⟩
      rw [Releasing.inside_ends_iff_of_latched hlatched howes.held, Nat.add_comm r, ← Nat.add_assoc]
      exact hends

/-- The edges that are turned away while an operation has the handle: those among its steps, and
those inside the exchanges that it makes. -/
def Op.edges (op : Op (σ → σ) max) (s : Shared σ max depth) : Nat :=
  op.steps.countP Step.isEdge + (s.transport.link.edgesLeft - (op.run s).2.transport.link.edgesLeft)

/-- **A release comes to its end.** Over any link, at any point of a history in which finitely many
calls come from inside the exchanges and from inside the work done under a hold of the lock: the
loops in which an operation lets go of the handle return, with the handle that the operation leaves,
after no more replays than edges were turned away during the operation. No edge is latched then and
the lock is free. The cycles that are replayed may fail, and further edges may come while they
do. -/
theorem release_ends (schedule : List (List Knock)) (t : Transport σ max depth)
    (ops : List (Op (σ → σ) max)) (op : Op (σ → σ) max) :
    let s := (runAll ops (share schedule t)).2
    let own := (Step.runAll op.steps s.entered).2
    ∃ steps replayed, Releasing.step^[steps] (.inside 0 own) = .done replayed (op.run s).2 ∧
      replayed ≤ op.edges s ∧ (op.run s).2.gate = {} := by
  intro s own
  obtain ⟨_, hrests⟩ := (share_rests schedule t).runAll ops
  have hgate : s.gate = {} := hrests.gate
  have hentered : s.entered.link.Owes s.transport.link.edgesLeft := ⟨rfl, Nat.le_of_eq rfl⟩
  have hown : own.link.Owes (s.transport.link.edgesLeft + op.steps.countP Step.isEdge) :=
    Step.runAll_owes op.steps hentered
  have hfuel : own.link.due ≤ own.link.knocksLeft + 1 := by
    have hleft := own.link.edgesLeft_le_knocksLeft
    have hlatched := own.link.gate.latched.toNat_le
    rw [Wired.due]
    omega
  have hafter : (op.run s).2 = release own := by rw [op.run_eq hgate]
  obtain ⟨replayed, ⟨steps, hends⟩, hleave, hleft⟩ :=
    releasing_ends _ ⟨hown.held, Nat.le_refl _⟩ hfuel 0
  rw [Nat.zero_add] at hends
  refine ⟨steps, replayed, hafter ▸ hends, ?_, hafter ▸ hleave⟩
  have hdue := hown.due_le
  have hrest : (op.run s).2.transport.link.edgesLeft =
      (replay (own.link.knocksLeft + 1) own).link.edgesLeft := by
    rw [hafter]
    rfl
  rw [Op.edges, hrest]
  omega

/-- Every cycle fails at its first byte, inside which the next edge comes: three replays for three
edges. -/
example :
    ∃ t : Transport (Faulty Radio) 31 4,
      Transport.init
        { link := { events := [.ofPayload 0 [7]] }
          faults := { exchange := [true, true, true] } } {} = .ok t ∧
      let s := share [[.readyEdge], [.readyEdge]] t
      let op : Op (Faulty Radio → Faulty Radio) 31 := .within [.knock .readyEdge]
      let own := (Step.runAll op.steps s.entered).2
      Releasing.step^[6] (.inside 0 own) = .done 3 (op.run s).2 ∧ op.edges s = 3 :=
  ⟨_, rfl, rfl, rfl⟩

end Shared

end RadioLink
