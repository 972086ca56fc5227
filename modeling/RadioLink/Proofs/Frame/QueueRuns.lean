import Mathlib.Data.List.DropRight
import RadioLink.Frame.Queue

/-!
# Runs of a queue

A queue can be used in any order: elements are offered to it and taken out of it, its head is looked
at, and it is emptied. What is seen of a use is what the queue was asked and what it has answered
(`Queue.Sight`).

From what was seen of a run it can be told what the queue holds: the elements that it has accepted
since it was last emptied, less those that it has given out since then, which are the oldest
(`Queue.Holds`). This is true of a new queue and preserved by each use (`Holds.run`), hence by every
run (`Holds.runAll`), and it fixes what the queue answers next (`runAll_first_in_first_out`).

Between two emptyings what carries the invariant is a balance: what was queued and has been accepted
is what has been given out and is queued now, in this order (`Op.run_balances`). An element that is
refused is on neither side of it.
-/

namespace RadioLink.Queue

/-! ## Uses -/

/-- Something to ask of a queue. -/
inductive Op (α : Type) where
  /-- Put an element at the tail. -/
  | enqueue (a : α)
  /-- Take the head out. -/
  | dequeue
  /-- Look at the head. -/
  | peek
  /-- Empty the queue. -/
  | clear
  deriving DecidableEq

/-- What is seen of a use: what the queue was asked and what it has answered. -/
inductive Sight (α : Type) where
  /-- An element was put at the tail. -/
  | accepted (a : α)
  /-- One element was offered, and one was handed back. -/
  | refused (offered back : α)
  /-- The head was taken out, if there was one. -/
  | taken (head : Option α)
  /-- The head was looked at, if there was one. -/
  | shown (head : Option α)
  /-- The queue was emptied. -/
  | cleared
  deriving DecidableEq

variable {α : Type} {depth : Nat} {q r : Queue α depth} {seen : List (Sight α)} {sight : Sight α}

/-- What is seen of a use, and the queue after it. Whoever is handed an element back goes on with
the queue as it was. -/
def Op.run : Op α → Queue α depth → Sight α × Queue α depth
  | .enqueue a, q =>
    match q.enqueue a with
    | .ok longer => (.accepted a, longer)
    | .error back => (.refused a back, q)
  | .dequeue, q => (.taken q.dequeue.1, q.dequeue.2)
  | .peek, q => (.shown q.peek?, q)
  | .clear, _ => (.cleared, empty)

/-- What is seen of some uses, and the queue after them. -/
def runAll : List (Op α) → Queue α depth → List (Sight α) × Queue α depth
  | [], q => ([], q)
  | op :: ops, q =>
    let (sight, q) := op.run q
    let (sights, q) := runAll ops q
    (sight :: sights, q)

/-- What the queue was asked when this was seen. -/
def Sight.op : Sight α → Op α
  | .accepted a => .enqueue a
  | .refused offered _ => .enqueue offered
  | .taken _ => .dequeue
  | .shown _ => .peek
  | .cleared => .clear

/-- A full queue hands an element back and stays as it is, and any other queue takes it at its
tail. -/
theorem run_enqueue (a : α) (q : Queue α depth) :
    (q.size = depth ∧ (Op.enqueue a).run q = (.refused a a, q)) ∨
      (q.size < depth ∧ ∃ longer : Queue α depth, longer.toList = q.toList ++ [a] ∧
        (Op.enqueue a).run q = (.accepted a, longer)) := by
  cases hresult : q.enqueue a with
  | ok longer =>
    obtain ⟨hroom, hlonger⟩ := enqueue_eq_ok_iff.1 hresult
    exact .inr ⟨hroom, longer, hlonger, by simp only [Op.run, hresult]⟩
  | error back =>
    obtain ⟨hfull, rfl⟩ := enqueue_eq_error_iff.1 hresult
    exact .inl ⟨isFull_iff.1 hfull, by simp only [Op.run, hresult]⟩

/-- What is seen of a use tells what was asked. -/
theorem Op.op_run (op : Op α) (q : Queue α depth) : (op.run q).1.op = op := by
  cases op with
  | enqueue a =>
    rcases run_enqueue a q with ⟨-, hrun⟩ | ⟨-, longer, -, hrun⟩
    · rw [hrun]
      rfl
    · rw [hrun]
      rfl
  | dequeue | peek | clear => rfl

/-- What is seen of a run is what was asked, in this order. -/
theorem map_op_runAll (ops : List (Op α)) (q : Queue α depth) :
    (runAll ops q).1.map Sight.op = ops := by
  induction ops generalizing q with
  | nil => rfl
  | cons op ops ih => rw [runAll, List.map_cons, op.op_run, ih]

/-! ## What has gone in and come out -/

/-- The element that was put into the queue, if one was. -/
def Sight.accepted? : Sight α → Option α
  | .accepted a => some a
  | _ => none

/-- The element that was taken out of the queue, if one was. -/
def Sight.taken? : Sight α → Option α
  | .taken head => head
  | _ => none

/-- Whether the queue was emptied. -/
def Sight.isCleared : Sight α → Bool
  | .cleared => true
  | _ => false

/-- The elements that have gone into a queue, in this order. -/
def accepted (seen : List (Sight α)) : List α :=
  seen.filterMap Sight.accepted?

/-- The elements that have come out of a queue, in this order. -/
def taken (seen : List (Sight α)) : List α :=
  seen.filterMap Sight.taken?

/-- What was seen of a queue since it was last emptied. -/
def sinceCleared (seen : List (Sight α)) : List (Sight α) :=
  seen.rtakeWhile fun sight => !sight.isCleared

theorem accepted_concat (seen : List (Sight α)) (sight : Sight α) :
    accepted (seen ++ [sight]) = accepted seen ++ sight.accepted?.toList := by
  rw [accepted, List.filterMap_append, ← accepted]
  cases sight <;> rfl

theorem taken_concat (seen : List (Sight α)) (sight : Sight α) :
    taken (seen ++ [sight]) = taken seen ++ sight.taken?.toList := by
  rw [taken, List.filterMap_append, ← taken]
  cases sight <;> rfl

/-- A use that does not empty the queue is one of those since it was last emptied. -/
theorem sinceCleared_concat (h : sight.isCleared = false) (seen : List (Sight α)) :
    sinceCleared (seen ++ [sight]) = sinceCleared seen ++ [sight] :=
  List.rtakeWhile_concat_pos _ _ _ (by simp [h])

/-- When the queue has just been emptied nothing was seen since. -/
@[simp] theorem sinceCleared_concat_cleared (seen : List (Sight α)) :
    sinceCleared (seen ++ [.cleared]) = [] :=
  List.rtakeWhile_concat_neg _ _ _ (by simp [Sight.isCleared])

/-- A queue holds, in order, what it was seen to accept since it was last emptied and not seen to
give out. -/
def Holds (seen : List (Sight α)) (q : Queue α depth) : Prop :=
  taken (sinceCleared seen) ++ q.toList = accepted (sinceCleared seen)

theorem holds_new : Holds [] (empty : Queue α depth) :=
  rfl

/-- Nothing but an emptying is seen as one. -/
theorem Op.isCleared_run {op : Op α} (h : op ≠ .clear) (q : Queue α depth) :
    (op.run q).1.isCleared = false := by
  have hop := op.op_run q
  cases hsight : (op.run q).1 with
  | accepted | refused | taken | shown => rfl
  | cleared =>
    rw [hsight] at hop
    exact absurd hop.symm h

/-- Unless it empties the queue, a use keeps the balance of what goes in and what comes out. -/
theorem Op.run_balances {op : Op α} (h : op ≠ .clear) (q : Queue α depth) :
    q.toList ++ (op.run q).1.accepted?.toList =
      (op.run q).1.taken?.toList ++ (op.run q).2.toList := by
  cases op with
  | enqueue a =>
    rcases run_enqueue a q with ⟨-, hrun⟩ | ⟨-, longer, hlonger, hrun⟩
    · rw [hrun]
      exact List.append_nil q.toList
    · rw [hrun]
      exact hlonger.symm
  | dequeue => exact (List.append_nil q.toList).trans q.toList_dequeue.symm
  | peek => exact List.append_nil q.toList
  | clear => exact absurd rfl h

/-- What keeps the balance leaves a queue with what it holds by what was seen. -/
theorem Holds.concat (h : Holds seen q) (hsight : sight.isCleared = false)
    (hbalance : q.toList ++ sight.accepted?.toList = sight.taken?.toList ++ r.toList) :
    Holds (seen ++ [sight]) r := by
  unfold Holds at h ⊢
  rw [sinceCleared_concat hsight, taken_concat, accepted_concat, ← h]
  rw [List.append_assoc, List.append_assoc, hbalance]

/-- Each use preserves that the queue holds what was seen to go in and not to come out. -/
theorem Holds.run (h : Holds seen q) (op : Op α) : Holds (seen ++ [(op.run q).1]) (op.run q).2 := by
  by_cases hop : op = .clear
  · subst hop
    show taken (sinceCleared (seen ++ [.cleared])) ++ [] =
      accepted (sinceCleared (seen ++ [.cleared]))
    rw [sinceCleared_concat_cleared]
    rfl
  · exact h.concat (Op.isCleared_run hop q) (Op.run_balances hop q)

/-- So does every run. -/
theorem Holds.runAll (h : Holds seen q) (ops : List (Op α)) :
    Holds (seen ++ (runAll ops q).1) (runAll ops q).2 := by
  induction ops generalizing seen q with
  | nil => simpa [Queue.runAll] using h
  | cons op ops ih =>
    have hrest := ih (h.run op)
    rwa [List.append_assoc, List.singleton_append] at hrest

/-- The head of a queue is the oldest element that has gone in and not come out. -/
theorem Holds.peek? (h : Holds seen q) :
    q.peek? = (accepted (sinceCleared seen))[(taken (sinceCleared seen)).length]? := by
  rw [← h, List.getElem?_append_right (Nat.le_refl _), Nat.sub_self, ← List.head?_eq_getElem?]
  rfl

/-- **A queue is first in, first out over whole runs, and bounded.** Whatever a new queue has been
asked, and however often it was full or emptied on the way: all of it has been seen; the elements
given out since the queue was last emptied, followed by those that are queued, are the elements
accepted since then, in their order; an element is refused exactly while `depth` elements are
queued, and then it is handed back as it was and nothing changes; a look at the head shows what
would be taken next, which is the oldest element that was accepted and not given out, if there is
one; and never more than `depth` elements are queued. -/
theorem runAll_first_in_first_out (depth : Nat) (ops : List (Op α)) :
    let seen := (runAll ops (empty : Queue α depth)).1
    let q := (runAll ops (empty : Queue α depth)).2
    let past := sinceCleared seen
    let oldest := (accepted past)[(taken past).length]?
    seen.map Sight.op = ops ∧
    taken past ++ q.toList = accepted past ∧
    (∀ a, ((Op.enqueue a).run q = (.refused a a, q) ↔ q.size = depth) ∧
      (((Op.enqueue a).run q).1 = .accepted a ↔ q.size < depth)) ∧
    Op.peek.run q = (.shown oldest, q) ∧ (Op.dequeue.run q).1 = .taken oldest ∧
    q.size ≤ depth ∧ (q.isFull = true ↔ q.size = depth) ∧ (q.isEmpty = true ↔ q.size = 0) := by
  intro seen q past oldest
  have hholds : Holds seen q := holds_new.runAll ops
  have holdest : q.peek? = oldest := hholds.peek?
  refine ⟨map_op_runAll ops empty, hholds, fun a => ?_, ?_, ?_, q.size_le, isFull_iff, ?_⟩
  · rcases run_enqueue a q with ⟨hfull, hrun⟩ | ⟨hroom, longer, -, hrun⟩
    · rw [hrun]
      simp [hfull]
    · rw [hrun]
      simp [hroom, Nat.ne_of_lt hroom]
  · exact congrArg (fun head => (Sight.shown head, q)) holdest
  · exact congrArg Sight.taken holdest
  · rw [isEmpty_iff, size, List.length_eq_zero_iff]

/-- One place is enough, and is used again. -/
example : runAll [.enqueue 1, .enqueue 2, .dequeue, .enqueue 3, .clear, .enqueue 4, .peek]
    (empty : Queue Nat 1) =
    ([.accepted 1, .refused 2 2, .taken (some 1), .accepted 3, .cleared, .accepted 4,
      .shown (some 4)], ⟨[4], by decide⟩) :=
  rfl

end RadioLink.Queue
