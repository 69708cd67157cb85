import PodWorkspace.Time.Duration

/-! Letting at most one message through per interval. The first one is held back for a whole
interval, so that short waits stay quiet. -/

namespace PodWorkspace

/-- A throttle: its interval, and the last instant at which nothing is allowed yet. -/
structure Throttle where
  interval : Duration
  closedUntil : Duration
  deriving DecidableEq, Repr

namespace Throttle

/-- The throttle whose first window opens after one interval from `now`. -/
def startingAt (now interval : Duration) : Throttle :=
  ⟨interval, now + interval⟩

/-- Whether a message may pass at `now`, and the throttle after that. A message that passes
closes the window for another interval. -/
def allowAt (t : Throttle) (now : Duration) : Bool × Throttle :=
  if t.closedUntil < now then (true, { t with closedUntil := now + t.interval }) else (false, t)

def answers (t : Throttle) : List Duration → List Bool
  | [] => []
  | now :: rest => (t.allowAt now).1 :: answers (t.allowAt now).2 rest

end Throttle

end PodWorkspace
