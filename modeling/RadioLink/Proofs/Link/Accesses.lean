import RadioLink.Link.ScriptedBoard

/-!
# Accesses to a board

A board is seen from outside by the accesses to its peripherals, with their answers: they lead from
one state of the board to another (`Accessed`). On a `TracedBoard` the record grows by exactly these
accesses, whatever board it is (`Accessed.accesses_eq`).

`Pins` is what is asked of the two pins that have a voltage of their own, and nothing else is
assumed of a board: any access may fail, and what the bus answers and the radio does to READY is
left open. REQUEST stays where it has last been driven successfully, and a read of READY that does
not fail tells the voltage of that pin.
-/

namespace RadioLink

variable {β : Type}

/-- The level at which a voltage puts an active-low line. -/
def Voltage.asserts : Voltage → Bool
  | low => true
  | high => false

/-- The voltage for a level puts the line at that level. -/
@[simp] theorem Voltage.asserts_voltage (level : Bool) :
    (BoardLink.voltage level).asserts = level := by
  cases level <;> rfl

namespace Access

/-- The access has this answer at `b` and leaves the board at `b'`. -/
def Leads [Board β] : Access → β → β → Prop
  | swap byte answer, b, b' => Board.swap byte b = (answer, b')
  | flush answer, b, b' => Board.flush b = (answer, b')
  | request voltage answer, b, b' => Board.driveRequest voltage b = (answer, b')
  | ready answer, b, b' => Board.readyIsLow b = (answer, b')
  | reset voltage answer, b, b' => Board.driveReset voltage b = (answer, b')
  | delay millis, b, b' => Board.delay millis b = b'

/-- Whether the access has failed. -/
def failed : Access → Bool
  | swap _ (.error _) | flush (.error _) | request _ (.error _) | ready (.error _)
  | reset _ (.error _) => true
  | _ => false

/-- The voltage of the REQUEST pin after an access. A drive that fails leaves it as it was. -/
def requestPin (before : Voltage) : Access → Voltage
  | request voltage (.ok ()) => voltage
  | _ => before

end Access

/-- The accesses, in this order and with these answers, lead from one state of a board to
another. -/
inductive Accessed [Board β] : β → List Access → β → Prop
  | nil {b : β} : Accessed b [] b
  | cons {access : Access} {accesses : List Access} {b b₁ b' : β} :
      access.Leads b b₁ → Accessed b₁ accesses b' → Accessed b (access :: accesses) b'

namespace Accessed

variable [Board β] {b b' b'' : β} {accesses accesses' : List Access}

theorem single {access : Access} (h : access.Leads b b') : Accessed b [access] b' :=
  .cons h .nil

theorem append (h : Accessed b accesses b') (h' : Accessed b' accesses' b'') :
    Accessed b (accesses ++ accesses') b'' := by
  induction h with
  | nil => exact h'
  | cons haccess _ ih => exact .cons haccess (ih h')

end Accessed

/-! ## Records -/

/-- A board and the record of the accesses to it, oldest first. -/
structure TracedBoard (β : Type) where
  /-- The board underneath. -/
  board : β
  /-- The accesses so far. -/
  accesses : List Access := []

namespace TracedBoard

instance [Board β] : Board (TracedBoard β) where
  swap byte b :=
    let (answer, board) := Board.swap byte b.board
    (answer, { board, accesses := b.accesses ++ [.swap byte answer] })
  flush b :=
    let (answer, board) := Board.flush b.board
    (answer, { board, accesses := b.accesses ++ [.flush answer] })
  driveRequest voltage b :=
    let (answer, board) := Board.driveRequest voltage b.board
    (answer, { board, accesses := b.accesses ++ [.request voltage answer] })
  readyIsLow b :=
    let (answer, board) := Board.readyIsLow b.board
    (answer, { board, accesses := b.accesses ++ [.ready answer] })
  driveReset voltage b :=
    let (answer, board) := Board.driveReset voltage b.board
    (answer, { board, accesses := b.accesses ++ [.reset voltage answer] })
  delay millis b :=
    { board := Board.delay millis b.board, accesses := b.accesses ++ [.delay millis] }

end TracedBoard

/-- An access to a recorded board is an access to the board underneath, put at the end of the
record. -/
theorem Access.Leads.traced [Board β] {access : Access} {b b' : TracedBoard β}
    (h : access.Leads b b') :
    access.Leads b.board b'.board ∧ b'.accesses = b.accesses ++ [access] := by
  cases access with
  | delay millis =>
    obtain rfl : Board.delay millis b = b' := h
    exact ⟨rfl, rfl⟩
  | swap byte answer | flush answer | request voltage answer | ready answer
  | reset voltage answer =>
    obtain ⟨rfl, rfl⟩ := Prod.mk.inj h
    exact ⟨rfl, rfl⟩

/-- A traced board records the accesses of a run. -/
theorem Accessed.accesses_eq [Board β] {accesses : List Access} {b b' : TracedBoard β}
    (h : Accessed b accesses b') : b'.accesses = b.accesses ++ accesses := by
  induction h with
  | nil => exact (List.append_nil _).symm
  | cons haccess _ ih => rw [ih, haccess.traced.2, List.append_assoc, List.singleton_append]

/-! ## Pins -/

/-- A board whose REQUEST and READY pins have voltages. -/
class Pins (β : Type) [Board β] where
  /-- The voltage of the REQUEST pin. -/
  requestPin : β → Voltage
  /-- The voltage of the READY pin. -/
  readyPin : β → Voltage
  /-- The REQUEST pin stays where it has last been driven. -/
  requestPin_of_leads {access : Access} {b b' : β} :
    access.Leads b b' → requestPin b' = access.requestPin (requestPin b)
  /-- A read of the READY pin tells whether it is low. -/
  readyPin_of_leads {low : Bool} {b b' : β} : Access.Leads (.ready (.ok low)) b b' →
    low = (readyPin b).asserts

instance [Board β] [Pins β] : Pins (TracedBoard β) where
  requestPin b := Pins.requestPin b.board
  readyPin b := Pins.readyPin b.board
  requestPin_of_leads h := Pins.requestPin_of_leads h.traced.1
  readyPin_of_leads h := Pins.readyPin_of_leads h.traced.1

/-- The REQUEST pin is where the accesses have driven it. -/
theorem Accessed.requestPin [Board β] [Pins β] {accesses : List Access} {b b' : β}
    (h : Accessed b accesses b') :
    Pins.requestPin b' = accesses.foldl Access.requestPin (Pins.requestPin b) := by
  induction h with
  | nil => rfl
  | cons haccess _ ih => rw [ih, List.foldl_cons, Pins.requestPin_of_leads haccess]

/-- An access to a scripted board is put at the end of its record. -/
theorem Access.Leads.scripted {access : Access} {b b' : ScriptedBoard} (h : access.Leads b b') :
    b'.accesses = b.accesses ++ [access] := by
  cases access with
  | delay millis =>
    obtain rfl : Board.delay millis b = b' := h
    rfl
  | swap byte answer | flush answer | request voltage answer | ready answer
  | reset voltage answer =>
    obtain ⟨rfl, rfl⟩ := Prod.mk.inj h
    rfl

/-- The REQUEST pin of a scripted board is high until it is driven. -/
instance : Pins ScriptedBoard where
  requestPin b := b.accesses.foldl Access.requestPin .high
  readyPin b := if b.script.readyLow then .low else .high
  requestPin_of_leads h := by rw [h.scripted, List.foldl_append, List.foldl_cons, List.foldl_nil]
  readyPin_of_leads {low b b'} h := by
    have hverdict : ScriptedBoard.pinVerdict b.script.readyFaults b.script.readyLow = .ok low :=
      congrArg Prod.fst h
    unfold ScriptedBoard.pinVerdict at hverdict
    split at hverdict
    · cases hverdict
    · obtain rfl := Except.ok.inj hverdict
      cases b.script.readyLow <;> rfl

end RadioLink
