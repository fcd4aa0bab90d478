import InterruptCore.Kernel.Traps
import InterruptCore.Machine.Perform
import InterruptCore.Trap.Adapter

/-! Runs of programs with traps. Before each request the arrivals that are due are taken,
or lost if the CPU does not accept them; a waiting CPU takes the traps that wake it. A trap
runs the adapter of its gate and, in it, the kernel's trap entry. Between two reads of a port
that is polled the arrivals are taken as before a request.

No run takes more traps than are pending at its start, which bounds the depth of nesting. -/
namespace InterruptCore.Machine

open Kernel

variable {α β : Type}

abbrev Taking := Incoming → Machine → Outcome Unit

/-- Arrivals that are due before a request; at most `n` of them. -/
def arrive (take : Taking) : Nat → Request → Machine → Outcome Unit
  | 0, _, m => .answered () m
  | n + 1, r, m =>
    match m.arrivals with
    | [] => .answered () m
    | a :: rest =>
      if a.due r m.progress then
        let m := { m with arrivals := rest }
        if m.accepts a.trap then
          (take a.trap m).bind fun _ m => arrive take n r m
        else arrive take n r m
      else .answered () m

def settle (take : Taking) (r : Request) (m : Machine) : Outcome Unit :=
  arrive take m.arrivals.length r m

def sleepOnce (take : Taking) (m : Machine) : Outcome Unit :=
  match m.wake with
  | [] => .stopped m.waitingStop m
  | t :: rest =>
    if m.accepts t then take t { m with wake := rest } else .stopped m.waitingStop m

/-- Waits as long as `waiting` holds; at most `n` traps wake the CPU. Others may arrive
between the look at memory and the halt, and between the halt and the next look. -/
def sleepWhile (take : Taking) (waiting : Kernel → Bool) : Nat → Machine → Outcome Unit
  | 0, m =>
    if waiting m.kernel then
      (settle take .halt m).bind fun _ m => .stopped m.waitingStop m
    else .answered () m
  | n + 1, m =>
    if waiting m.kernel then
      (settle take .halt m).bind fun _ m =>
      (sleepOnce take m).bind fun _ m =>
      (settle take (.haltWhile waiting) m).bind fun _ m =>
      sleepWhile take waiting n m
    else .answered () m

/-- Reads the port until it has one of the bits. Others may arrive between two reads; after `n`
reads without a bit there are none to come. -/
def pollWhile (take : Taking) (w : Poll) : Nat → Machine → Outcome Unit
  | 0, m => perform (.poll w) m
  | n + 1, m =>
    if m.lacks w then
      (settle take (.poll w) (m.readPort w.port).2).bind fun _ m => pollWhile take w n m.tick
    else .answered () (m.readPort w.port).2

/-- Carries out a request, with the traps that come meanwhile. -/
def answer (take : Taking) : (r : Request) → Machine → Outcome r.Answer
  | .poll w, m => pollWhile take w m.busyLeft m
  | .halt, m => sleepOnce take m
  | .haltWhile waiting, m => sleepWhile take waiting m.wake.length m
  | .haltForever, m =>
    (sleepWhile take (fun _ => true) m.wake.length m).bind fun _ m =>
      .stopped m.waitingStop m
  | r, m => perform r m

def runWith (take : Taking) : Program α → Machine → Outcome α
  | .done a, m => .answered a m
  | .ask r next, m =>
    (settle take r m).bind fun _ m =>
      (answer take r m.tick).bind fun a m => runWith take (next a) m

theorem runWith_bind (take : Taking) (p : Program α) (f : α → Program β) (m : Machine) :
    runWith take (p.bind f) m = (runWith take p m).bind fun a m => runWith take (f a) m := by
  induction p generalizing m with
  | done a => rfl
  | ask r next ih => simp only [Program.bind, runWith, ih, Outcome.bind_bind]

/-- The gate for a vector, as far as the loaded table reaches. -/
def gateFor (p : TablePointer) (gates : GateTable) (vector : UInt8) : Option Gate64 :=
  if 16 * vector.toNat + 15 ≤ p.limit.toNat then
    match Gate64.decode (gates.gate vector) with
    | .ok g => if g.present then some g else none
    | .error _ => none
  else none

/-- Entry into a gate: an interrupt gate clears the flag. -/
def enterGate (m : Machine) (g : Gate64) (t : Incoming) : Machine :=
  { m with
    flag := match g.type with
      | .interrupt => false
      | .trap => m.flag
    cr2 := t.cr2.getD m.cr2 }

/-- General registers as a call leaves them, which need not keep any of them. -/
def scratch : General := {}

/-- Return to the interrupted code, which has its own registers and its own flag. The flag is the
one that was found at entry: the CPU reads it back from the flags in the frame, but the frame of a
trap that was made up need not agree with the CPU. -/
def leaveGate (m : Machine) (found : Bool) (t : Incoming) (loaded : Registers) : Machine :=
  { m with flag := found }.record (.returned t.vector loaded (loaded = t.registers))

/-- Takes a trap; `n` bounds the traps on top of it. -/
def take (drivers : Drivers) : Nat → Taking
  | 0, _, m => .answered () m
  | n + 1, t, m =>
    match m.idtr with
    | none => .stopped .noTable m
    | some p =>
      match gateFor p m.kernel.gates t.vector with
      | none => .stopped .noGate m
      | some g =>
        match adapterAt? Trap.Adapter.addresses g.offset with
        | none => .stopped .noAdapter m
        | some v =>
          let core := Trap.Adapter.entry v (Trap.enter t.vector t.errorCode t.registers m.rsp)
          let program := Traps.entry drivers (Trap.Adapter.context core)
          (runWith (take drivers n) program (m.enterGate g t)).bind fun _ after =>
            .answered () (after.leaveGate m.flag t (Trap.Adapter.exit core scratch))

def run (drivers : Drivers) (p : Program α) (m : Machine) : Outcome α :=
  runWith (take drivers m.pending) p m

/-- Takes a trap at once, whatever the interrupt flag is. -/
def interrupt (drivers : Drivers) (t : Incoming) (m : Machine) : Outcome Unit :=
  take drivers (m.pending + 1) t m

end InterruptCore.Machine
