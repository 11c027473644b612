import LiveSketch.Session.Step

/-!
# Running a session

Turns are taken until none is ready, and a session settles by taking turns, working and letting time
pass until nothing is left to do. How long that can last is read off the session itself.
-/

namespace LiveSketch

variable {σ ν : Type}

/-- An upper bound on the number of turns that a turn accounts for: itself, and those that taking it
lines up, callers who look again apart. -/
def Turn.effort : Turn σ ν → Nat
  | .begin _ | .adopt _ _ | .present _ _ | .recheck _ => 1
  | .wake _ | .command _ _ => 2
  | .later next => next.effort + 1

namespace Session

/-- An upper bound on the number of turns until none is ready. With each of them every caller may
look again, which takes two turns. -/
def effort (s : Session σ ν) : Nat :=
  (s.ready.map Turn.effort).sum * (2 * (s.ready.length + s.waiting.length) + 1)

/-- Takes turns until none is ready. -/
def drain (w : Workshop σ ν) (s : Session σ ν) : Session σ ν :=
  Nat.repeat (turn w) s.effort s

/-- One round of settling: turns, then the worker's next job, or else time for an edit to rest. -/
def round (w : Workshop σ ν) (s : Session σ ν) : Session σ ν :=
  let s := s.drain w
  if s.jobs.isEmpty then
    if s.timer.isSome then s.advance w.delay else s
  else s.work w none

/-- An upper bound on the rounds until nothing is left to do: a request takes a compile, a picture
and perhaps a rest before. -/
def rounds (s : Session σ ν) : Nat :=
  3 * (s.ready.length + s.jobs.length + s.waiting.length + 1)

/-- Goes on until nothing is left to do. -/
def settle (w : Workshop σ ν) (s : Session σ ν) : Session σ ν :=
  (Nat.repeat (round w) s.rounds s).drain w

end Session

end LiveSketch
