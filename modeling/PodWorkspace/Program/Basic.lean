import PodWorkspace.Log.Logged

/-! Programs that ask the outside world. A program is a tree of steps: it asks and goes on with the
answer, logs, looks at the clock or sleeps, and it ends with a value or a failure. Whoever runs a
program decides what the answers are. A step may also be cut off, by a cancellation or by a deadline
of its own, and the program then goes on without an answer. -/

namespace PodWorkspace

/-- What can be asked, and the type of the answers. -/
structure Interface where
  Request : Type
  Answer : Request → Type

/-- A program whose value has type `α`. -/
inductive Program (I : Interface) (α : Type) where
  | done (a : α)
  | fail (f : Failure)
  /-- The end of a program of which a step was cut off. -/
  | cutOff
  | log (e : Event) (rest : Program I α)
  /-- Asks, and goes on with the answer, unless none comes before the deadline. -/
  | call (deadline : Option Duration) (request : I.Request)
      (next : Option (Except Failure (I.Answer request)) → Program I α)
  /-- Looks at the clock. -/
  | clock (next : Duration → Program I α)
  /-- Sleeps, and says whether the sleep was long enough when the deadline came. -/
  | sleep (deadline : Option Duration) (till : Duration) (next : Bool → Program I α)

namespace Program

variable {I : Interface} {α β γ : Type}

def andThen (next : α → Program I β) : Program I α → Program I β
  | done a => next a
  | fail f => fail f
  | cutOff => cutOff
  | log e rest => log e (andThen next rest)
  | call deadline request k => call deadline request fun answer => andThen next (k answer)
  | clock k => clock fun now => andThen next (k now)
  | sleep deadline till k => sleep deadline till fun slept => andThen next (k slept)

instance : Monad (Program I) where
  pure := done
  bind x next := andThen next x

@[simp] theorem pure_eq_done (a : α) : (pure a : Program I α) = done a := rfl

@[simp] theorem bind_eq_andThen (x : Program I α) (next : α → Program I β) :
    x >>= next = andThen next x := rfl

@[simp] theorem andThen_done (x : Program I α) : andThen done x = x := by
  induction x with
  | done | fail | cutOff => rfl
  | log e rest ih => simp [andThen, ih]
  | call deadline request k ih => simp [andThen, ih]
  | clock k ih => simp [andThen, ih]
  | sleep deadline till k ih => simp [andThen, ih]

theorem andThen_assoc (x : Program I α) (f : α → Program I β) (g : β → Program I γ) :
    andThen g (andThen f x) = andThen (fun a => andThen g (f a)) x := by
  induction x with
  | done | fail | cutOff => rfl
  | log e rest ih => simp [andThen, ih]
  | call deadline request k ih => simp [andThen, ih]
  | clock k ih => simp [andThen, ih]
  | sleep deadline till k ih => simp [andThen, ih]

instance : LawfulMonad (Program I) :=
  LawfulMonad.mk' (Program I) andThen_done (fun _ _ => rfl) andThen_assoc

/-- Asks and fails when the answer is a failure. -/
def ask (request : I.Request) : Program I (I.Answer request) :=
  call none request fun
    | some (.ok a) => done a
    | some (.error f) => fail f
    | none => cutOff

def now : Program I Duration := clock done

def sleepUntil (till : Duration) : Program I Unit :=
  sleep none till fun slept => if slept then done () else cutOff

def note (e : Event) : Program I Unit := log e (done ())

/-- A value or a failure. -/
def ofExcept : Except Failure α → Program I α
  | .ok a => done a
  | .error f => fail f

def ofLogged (x : Logged α) : Program I α :=
  x.events.foldr log (ofExcept x.outcome)

/-- A program that gives a failure back as a value. -/
def attempt : Program I α → Program I (Except Failure α)
  | done a => done (.ok a)
  | fail f => done (.error f)
  | cutOff => cutOff
  | log e rest => log e (attempt rest)
  | call deadline request k => call deadline request fun answer => attempt (k answer)
  | clock k => clock fun now => attempt (k now)
  | sleep deadline till k => sleep deadline till fun slept => attempt (k slept)

/-- A program that does `other` when one of its steps is cut off. -/
def orElseCut (other : Program I α) : Program I α → Program I α
  | done a => done a
  | fail f => fail f
  | cutOff => other
  | log e rest => log e (orElseCut other rest)
  | call deadline request k => call deadline request fun answer => orElseCut other (k answer)
  | clock k => clock fun now => orElseCut other (k now)
  | sleep deadline till k => sleep deadline till fun slept => orElseCut other (k slept)

/-- A program whose steps all are cut off at a deadline. -/
def within (limit : Duration) : Program I α → Program I α
  | done a => done a
  | fail f => fail f
  | cutOff => cutOff
  | log e rest => log e (within limit rest)
  | call _ request k => call (some limit) request fun answer => within limit (k answer)
  | clock k => clock fun now => within limit (k now)
  | sleep _ till k => sleep (some limit) till fun slept => within limit (k slept)

/-- An operation that counts as cancelled when one of its steps is cut off. -/
def cancellable (operation : String) (x : Program I α) : Program I α :=
  orElseCut (fail (.cancelled operation)) x

/-- A program that gives back as a value how it ends; it has none when it was cut off. -/
def settled (x : Program I α) : Program I (Option (Except Failure α)) :=
  orElseCut (done none) (attempt x >>= fun a => done (some a))

/-- The program in which each question is answered by a program over another interface, whose steps
are under the deadline of the question. -/
def answeredBy {J : Interface} (answer : (request : I.Request) → Program J (I.Answer request)) :
    Program I α → Program J α
  | done a => done a
  | fail f => fail f
  | cutOff => cutOff
  | log e rest => log e (answeredBy answer rest)
  | call none request k => settled (answer request) >>= fun a => answeredBy answer (k a)
  | call (some limit) request k =>
    settled (within limit (answer request)) >>= fun a => answeredBy answer (k a)
  | clock k => clock fun now => answeredBy answer (k now)
  | sleep deadline till k => sleep deadline till fun slept => answeredBy answer (k slept)

end Program

end PodWorkspace
