import InterruptCore.Machine.Run

/-! The instants of a run: one before each request that is carried out, in order, those of
the traps taken on the way among them. The instants of a trap come before the request that
it arrived at, and the instant of a wait before those of the traps that come in it. -/
namespace InterruptCore.Machine

open Kernel

variable {α β : Type}

/-- A request that is about to be carried out, the machine at that moment, and how the code
that asks for it goes on. -/
structure Instant where
  request : Request
  machine : Machine
  {Result : Type}
  next : request.Answer → Program Result

def Instant.bare (i : Instant) : Request × Machine := (i.request, i.machine)

/-- What follows an answer; nothing follows a stop. -/
def Outcome.afterwards {ι : Type _} : Outcome α → (α → Machine → List ι) → List ι
  | .answered a m, f => f a m
  | .stopped _ _, _ => []

abbrev Visiting := Incoming → Machine → List Instant

def arriving (take : Taking) (visit : Visiting) : Nat → Request → Machine → List Instant
  | 0, _, _ => []
  | n + 1, r, m =>
    match m.arrivals with
    | [] => []
    | a :: rest =>
      if a.due r m.progress then
        let m := { m with arrivals := rest }
        if m.accepts a.trap then
          visit a.trap m
            ++ (take a.trap m).afterwards fun _ m => arriving take visit n r m
        else arriving take visit n r m
      else []

def settling (take : Taking) (visit : Visiting) (r : Request) (m : Machine) : List Instant :=
  arriving take visit m.arrivals.length r m

def wakingOnce (visit : Visiting) (m : Machine) : List Instant :=
  match m.wake with
  | [] => []
  | t :: rest => if m.accepts t then visit t { m with wake := rest } else []

/-- Each halt of a longer wait has an instant of its own. -/
def wakingWhile (take : Taking) (visit : Visiting) (waiting : Kernel → Bool) :
    Nat → Machine → List Instant
  | 0, m =>
    if waiting m.kernel then
      settling take visit .halt m ++ (settle take .halt m).afterwards fun _ m => [⟨.halt, m, .done⟩]
    else []
  | n + 1, m =>
    if waiting m.kernel then
      settling take visit .halt m ++ (settle take .halt m).afterwards fun _ m =>
        ⟨.halt, m, .done⟩ :: wakingOnce visit m ++ (sleepOnce take m).afterwards fun _ m =>
          settling take visit (.haltWhile waiting) m
            ++ (settle take (.haltWhile waiting) m).afterwards fun _ m =>
              wakingWhile take visit waiting n m
    else []

/-- A port that is polled has one instant, before its first read. -/
def polling (take : Taking) (visit : Visiting) (w : Poll) : Nat → Machine → List Instant
  | 0, _ => []
  | n + 1, m =>
    if m.lacks w then
      settling take visit (.poll w) (m.readPort w.port).2
        ++ (settle take (.poll w) (m.readPort w.port).2).afterwards fun _ m =>
          polling take visit w n m.tick
    else []

def answering (take : Taking) (visit : Visiting) : Request → Machine → List Instant
  | .poll w, m => polling take visit w m.busyLeft m
  | .halt, m => wakingOnce visit m
  | .haltWhile waiting, m => wakingWhile take visit waiting m.wake.length m
  | .haltForever, m => wakingWhile take visit (fun _ => true) m.wake.length m
  | _, _ => []

def instantsWith (take : Taking) (visit : Visiting) : Program α → Machine → List Instant
  | .done _, _ => []
  | .ask r next, m =>
    settling take visit r m ++ (settle take r m).afterwards fun _ m =>
      ⟨r, m, next⟩ :: answering take visit r m.tick ++ (answer take r m.tick).afterwards fun a m =>
        instantsWith take visit (next a) m

def visit (drivers : Drivers) : Nat → Visiting
  | 0, _, _ => []
  | n + 1, t, m =>
    match m.idtr with
    | none => []
    | some p =>
      match gateFor p m.kernel.gates t.vector with
      | none => []
      | some g =>
        match adapterAt? Trap.Adapter.addresses g.offset with
        | none => []
        | some v =>
          let core := Trap.Adapter.entry v (Trap.enter t.vector t.errorCode t.registers m.rsp)
          instantsWith (take drivers n) (visit drivers n)
            (Traps.entry drivers (Trap.Adapter.context core)) (m.enterGate g t)

def instants (drivers : Drivers) (p : Program α) (m : Machine) : List Instant :=
  instantsWith (take drivers m.pending) (visit drivers m.pending) p m

def interruptInstants (drivers : Drivers) (t : Incoming) (m : Machine) : List Instant :=
  visit drivers (m.pending + 1) t m

/-- Code that is put together has the instants of its parts; only how the first part goes on
is another thing then. -/
theorem instantsWith_bind (take : Taking) (visit : Visiting) (p : Program α)
    (f : α → Program β) (m : Machine) :
    (instantsWith take visit (p.bind f) m).map Instant.bare =
      (instantsWith take visit p m).map Instant.bare ++
        (runWith take p m).afterwards fun a m =>
          (instantsWith take visit (f a) m).map Instant.bare := by
  induction p generalizing m with
  | done a => rfl
  | ask r next ih =>
    simp only [Program.bind, instantsWith, runWith]
    cases settle take r m with
    | stopped why m => simp [Outcome.afterwards, Outcome.bind]
    | answered u m =>
      simp only [Outcome.afterwards, Outcome.bind, List.map_append, List.map_cons,
        List.append_assoc, List.cons_append]
      cases answer take r m.tick with
      | stopped why m => rfl
      | answered a m => simp only [ih]; rfl

end InterruptCore.Machine
