/-!
Turns at one point in time. Whoever can go on stands in line; who has used up a turn and could still go
on steps aside until the round ends, and then stands in line behind the others.
-/
namespace CloudKeeper.Simulation

/-- What can have a turn: the event loop, a worker, and a timer that is set. -/
inductive Turn
  | events
  | worker
  | timer
  deriving DecidableEq, Repr

/-- The number of turns in a round. -/
def roundLength : Nat := 61

/-- The number of announcements that the event loop reads in one turn. -/
def burst : Nat := 128

/-- The number of cycles that a worker runs in one turn. Workers hand the ready channel on to each other
after every key, so only a worker that is alone runs more than one. -/
def share (workers : Nat) : Nat := if workers = 1 then 43 else 1

/-- Those in line, those who have stepped aside, and the number of turns left in the round. -/
structure Line where
  turns : List Turn
  later : List Turn := []
  left : Nat := roundLength
  deriving DecidableEq, Repr

namespace Line

/-- The line after the end of a round, if it has ended. -/
def renew (l : Line) : Line :=
  if l.turns.isEmpty || l.left == 0 then { turns := l.turns ++ l.later } else l

/-- Who has the next turn, and the line behind. -/
def next? (l : Line) : Option (Turn × Line) :=
  match l.renew with
  | ⟨[], _, _⟩ => none
  | ⟨turn :: turns, later, left⟩ => some (turn, ⟨turns, later, left - 1⟩)

/-- The line with some more at its end. -/
def join (l : Line) (turns : List Turn) : Line :=
  { l with turns := l.turns ++ turns }

/-- The line with one who has stepped aside. -/
def stepAside (l : Line) (turn : Turn) : Line :=
  { l with later := l.later ++ [turn] }

/-- The line with a worker in it. -/
def wake (l : Line) : Line :=
  if .worker ∈ l.turns ++ l.later then l else l.join [.worker]

end Line

end CloudKeeper.Simulation
