/-! A log with a verbosity level and at most one sink. Lines are written to the sink piece
by piece; without a sink they are dropped. -/
namespace InterruptCore

namespace Log

inductive Level where
  | error
  | warn
  | info
  | debug
  | trace
  deriving DecidableEq, Repr, Inhabited

def Level.rank : Level → UInt8
  | error => 0
  | warn => 1
  | info => 2
  | debug => 3
  | trace => 4

/-- A number above every rank stands for the most verbose level. -/
def Level.ofRank (n : UInt8) : Level :=
  match n with
  | 0 => error
  | 1 => warn
  | 2 => info
  | 3 => debug
  | _ => trace

@[simp] theorem Level.ofRank_rank (level : Level) : ofRank level.rank = level := by
  cases level <;> rfl

def Level.name : Level → String
  | error => "Error"
  | warn => "Warn"
  | info => "Info"
  | debug => "Debug"
  | trace => "Trace"

def Level.all : List Level := [error, warn, info, debug, trace]

structure Line where
  level : Level
  pieces : List String
  deriving DecidableEq, Repr

def Line.text (l : Line) : String := String.join l.pieces

def info (pieces : List String) : Line := ⟨.info, pieces⟩
def warn (pieces : List String) : Line := ⟨.warn, pieces⟩
def debug (pieces : List String) : Line := ⟨.debug, pieces⟩
def trace (pieces : List String) : Line := ⟨.trace, pieces⟩

end Log

structure Log (Sink : Type) where
  /-- The level in force, which is kept as its rank. -/
  level : Log.Level := .info
  sink : Option Sink := none
  deriving DecidableEq, Repr

namespace Log

variable {Sink : Type}

instance : Inhabited (Log Sink) := ⟨{}⟩

def rank (l : Log Sink) : UInt8 := l.level.rank

def current (l : Log Sink) : Level := .ofRank l.rank

/-- Only the first attachment takes effect. -/
def attach (l : Log Sink) (s : Sink) : Log Sink :=
  match l.sink with
  | none => { l with sink := some s }
  | some _ => l

def setLevel (l : Log Sink) (level : Level) : Log Sink := { l with level }

def enabled (l : Log Sink) (level : Level) : Bool := level.rank ≤ l.rank

/-- What a line sends and to which sink: its pieces in order, then a line end. -/
def writes (l : Log Sink) (line : Line) : Option (Sink × List String) :=
  if l.enabled line.level then l.sink.map (·, line.pieces ++ ["\n"]) else none

end Log

end InterruptCore
