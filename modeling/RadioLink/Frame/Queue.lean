/-!
# Bounded queues

`Queue α depth` is a first-in, first-out queue that never holds more than `depth` elements. Its
content is a list, head first, together with the proof that the list is short enough, so a queue
that is too long cannot be written down. `enqueue` at a full queue hands the element back, and the
caller goes on with the queue it had before.

The lemmas say what each operation does to `Queue.toList`; nothing else about a queue can be
observed.
-/

namespace RadioLink

/-- A first-in, first-out queue of at most `depth` elements. -/
structure Queue (α : Type) (depth : Nat) where
  /-- The elements, head first. -/
  toList : List α
  /-- A queue never holds more than it has room for. -/
  length_le : toList.length ≤ depth

namespace Queue

variable {α : Type} {depth : Nat}

/-- The number of frames that a queue holds where nothing else is asked for. -/
def defaultDepth : Nat := 4

/-- The queue without elements. -/
def empty : Queue α depth :=
  ⟨[], Nat.zero_le depth⟩

instance : Inhabited (Queue α depth) := ⟨empty⟩

instance [DecidableEq α] : DecidableEq (Queue α depth) := fun a b =>
  if h : a.toList = b.toList then
    isTrue (by cases a; cases b; cases h; rfl)
  else
    isFalse fun e => h (e ▸ rfl)

/-- The number of elements. -/
def size (q : Queue α depth) : Nat :=
  q.toList.length

/-- Whether no element is queued. -/
def isEmpty (q : Queue α depth) : Bool :=
  q.toList.isEmpty

/-- Whether there is no room for another element. -/
def isFull (q : Queue α depth) : Bool :=
  decide (q.toList.length = depth)

/-- The head, which stays in the queue. -/
def peek? (q : Queue α depth) : Option α :=
  q.toList.head?

/-- The queue with an element at its tail, or the element itself if there is no room for it. -/
def enqueue (q : Queue α depth) (a : α) : Except α (Queue α depth) :=
  if h : q.toList.length < depth then
    .ok ⟨q.toList ++ [a], by simpa using Nat.succ_le_of_lt h⟩
  else
    .error a

/-- The queue without its head. An empty queue stays empty. -/
def tail (q : Queue α depth) : Queue α depth :=
  ⟨q.toList.tail, Nat.le_trans (by simp) q.length_le⟩

/-- The head, if there is one, and the queue after it. -/
def dequeue (q : Queue α depth) : Option α × Queue α depth :=
  (q.peek?, q.tail)

/-- Queues with the same elements in the same order are the same. -/
@[ext] theorem ext {a b : Queue α depth} (h : a.toList = b.toList) : a = b := by
  cases a; cases b; cases h; rfl

@[simp] theorem toList_empty : (empty : Queue α depth).toList = [] := rfl

@[simp] theorem toList_tail (q : Queue α depth) : q.tail.toList = q.toList.tail := rfl

@[simp] theorem isEmpty_iff {q : Queue α depth} : q.isEmpty = true ↔ q.toList = [] := by
  simp [isEmpty]

@[simp] theorem isFull_iff {q : Queue α depth} : q.isFull = true ↔ q.toList.length = depth := by
  simp [isFull]

/-- A queue that is not full has room for another element. -/
theorem isFull_eq_false_iff {q : Queue α depth} : q.isFull = false ↔ q.size < depth := by
  have hle := q.length_le
  rw [isFull, decide_eq_false_iff_not, size]
  omega

theorem size_le (q : Queue α depth) : q.size ≤ depth :=
  q.length_le

/-- What a dequeue takes and what it leaves are what was there. -/
theorem toList_dequeue (q : Queue α depth) :
    q.dequeue.1.toList ++ q.dequeue.2.toList = q.toList := by
  cases h : q.toList <;> simp [dequeue, peek?, h]

/-- A queue with a head is that head and what is queued behind it. -/
theorem toList_of_peek {q : Queue α depth} {a : α} (h : q.peek? = some a) :
    q.toList = a :: q.tail.toList := by
  rw [← q.toList_dequeue, dequeue, h]
  rfl

/-- Without its head a queue is one shorter, if it has one. -/
theorem size_eq_peek_add_tail (q : Queue α depth) :
    q.size = q.peek?.toList.length + q.tail.size := by
  have hlength := congrArg List.length q.toList_dequeue
  rw [List.length_append] at hlength
  exact hlength.symm

/-- An element is accepted exactly while fewer than `depth` are queued, and goes to the tail. -/
theorem enqueue_eq_ok_iff {q r : Queue α depth} {a : α} :
    q.enqueue a = .ok r ↔ q.toList.length < depth ∧ r.toList = q.toList ++ [a] := by
  unfold enqueue
  split
  · rename_i h
    constructor
    · rintro ⟨rfl⟩
      exact ⟨h, rfl⟩
    · rintro ⟨-, hr⟩
      exact congrArg Except.ok (ext hr.symm)
  · rename_i h
    simp [h]

/-- With another element a queue is one longer. -/
theorem size_of_enqueue {q r : Queue α depth} {a : α} (h : q.enqueue a = .ok r) :
    r.size = q.size + 1 := by
  rw [size, (enqueue_eq_ok_iff.1 h).2, List.length_append, List.length_singleton, size]

/-- An element is refused exactly at a full queue, and then handed back. -/
theorem enqueue_eq_error_iff {q : Queue α depth} {a b : α} :
    q.enqueue a = .error b ↔ q.isFull = true ∧ b = a := by
  have := q.length_le
  unfold enqueue
  split
  · simp
    omega
  · rename_i h
    have hfull : q.isFull = true := isFull_iff.2 (by omega)
    constructor
    · rintro ⟨⟩
      exact ⟨hfull, rfl⟩
    · rintro ⟨-, rfl⟩
      rfl

end Queue

end RadioLink
