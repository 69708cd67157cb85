import PodWorkspace.Simulation.Call
import PodWorkspace.Simulation.Ending
import PodWorkspace.Simulation.Store

/-! Running a program against a simulated cluster. Time stands still while the program works and
jumps ahead when all that is left is to wait. A cancellation comes while the program waits: what it
waits for is cut off, unless it comes at the same instant, and so is every step after that. -/

namespace PodWorkspace.Simulation

open Cluster

structure World where
  store : Store := {}
  around : Surroundings := {}
  faults : List Fault := []
  now : Duration := ⟨0⟩
  /-- When the program is cancelled. -/
  cancelAt : Option Duration := none
  isCancelled : Bool := false
  /-- The calls so far, the last one first. -/
  calls : List Call := []
  /-- The events so far, the last one first. -/
  events : List Event := []

inductive Fate (α : Type) where
  | answered (a : Except Failure α)
  | cutOff
  /-- The answer never comes. -/
  | lost

namespace World

/-- The world for another program: the objects and the faults stay, time and transcript begin
anew. -/
def anew (w : World) (cancelAt : Option Duration) : World :=
  { w with
    now := ⟨0⟩, cancelAt, isCancelled := cancelAt == some ⟨0⟩, calls := [], events := [] }

def limit (w : World) (deadline : Option Duration) : Option Duration :=
  match w.cancelAt, deadline with
  | some c, some d => some (if c ≤ d then c else d)
  | some c, none => some c
  | none, d => d

/-- Whether a step is cut off before it begins. -/
def isCut (w : World) (deadline : Option Duration) : Bool :=
  w.isCancelled || deadline.any fun d => d < w.now

/-- The world at a later time, unless it is later already. -/
def later (w : World) (time : Duration) : World :=
  { w with now := if w.now ≤ time then time else w.now }

/-- The world when a wait is cut off at its limit. -/
def cutAt (w : World) (time : Duration) : World :=
  { w.later time with isCancelled := w.cancelAt.any fun c => c ≤ time }

/-- What a wait until a point in time comes to: whether it is long enough, and the world at its
end. -/
def waitUntil (w : World) (deadline : Option Duration) (till : Duration) : Bool × World :=
  match w.limit deadline with
  | some l => if l < till then (false, w.cutAt l) else (true, w.later till)
  | none => (true, w.later till)

/-- The world after a call is recorded, and the mishap that strikes the call. -/
def record (w : World) (r : Request) : Option Mishap × World :=
  let call := Call.ofRequest r
  let (mishap, faults) := strike call.text w.faults
  (mishap, { w with calls := call :: w.calls, faults })

def serve (w : World) (r : Request) : Except Failure r.Answer × World :=
  let (answer, store) := w.store.answer w.around r
  (answer, { w with store })

/-- The fate of a call, and the world after it. -/
def place (w : World) (deadline : Option Duration) (r : Request) : Fate r.Answer × World :=
  if w.isCut deadline then (.cutOff, w)
  else
    let text := (Call.ofRequest r).text
    match w.record r with
    | (none, w) => let (a, w) := w.serve r; (.answered a, w)
    | (some .hang, w) =>
      match w.limit deadline with
      | some l => (.cutOff, w.cutAt l)
      | none => (.lost, w)
    | (some (.delay time), w) =>
      match w.waitUntil deadline (w.now + time) with
      | (true, w) => let (a, w) := w.serve r; (.answered a, w)
      | (false, w) => (.cutOff, w)
    | (some (.fail message), w) => (.answered (.error (.ofCommand text message)), w)
    | (some .cancelled, w) => (.answered (.error (.cancelled text)), w)

/-- The world when patience is at its end. -/
def givenUp (w : World) : World := { w with now := patience }

def run {α : Type} (w : World) : Action α → Ending α × World
  | .done a => (.done a, w)
  | .fail f => (.failed f, w)
  | .cutOff => (.hung, w.givenUp)
  | .log e rest => run { w with events := e :: w.events } rest
  | .clock k => run w (k w.now)
  | .sleep deadline till k =>
    if w.isCut deadline then run w (k false)
    else
      let (slept, w) := w.waitUntil deadline till
      if patience < w.now then (.hung, w.givenUp) else run w (k slept)
  | .call deadline request k =>
    match w.place deadline request with
    | (.lost, w) => (.hung, w.givenUp)
    | (.cutOff, w) => if patience < w.now then (.hung, w.givenUp) else run w (k none)
    | (.answered a, w) => if patience < w.now then (.hung, w.givenUp) else run w (k (some a))

end World

end PodWorkspace.Simulation
