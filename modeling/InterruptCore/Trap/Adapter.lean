import InterruptCore.Context

/-! Entry adapters, one for each supported vector: the code that runs between the CPU's
entry into a gate and the dispatcher, and from there back to the interrupted code.

The CPU pushes its frame and on some vectors an error word. The adapter's stub brings the
stack to one shape with a placeholder and the vector; the common code saves the general
registers, so that the stack holds a `Context`, and restores them after the dispatcher. -/
namespace InterruptCore.Trap

inductive Register where
  | r15
  | r14
  | r13
  | r12
  | r11
  | r10
  | r9
  | r8
  | rbp
  | rdi
  | rsi
  | rdx
  | rcx
  | rbx
  | rax
  deriving DecidableEq, Repr

def Register.get (g : General) : Register → UInt64
  | r15 => g.r15
  | r14 => g.r14
  | r13 => g.r13
  | r12 => g.r12
  | r11 => g.r11
  | r10 => g.r10
  | r9 => g.r9
  | r8 => g.r8
  | rbp => g.rbp
  | rdi => g.rdi
  | rsi => g.rsi
  | rdx => g.rdx
  | rcx => g.rcx
  | rbx => g.rbx
  | rax => g.rax

def Register.set (g : General) (v : UInt64) : Register → General
  | r15 => { g with r15 := v }
  | r14 => { g with r14 := v }
  | r13 => { g with r13 := v }
  | r12 => { g with r12 := v }
  | r11 => { g with r11 := v }
  | r10 => { g with r10 := v }
  | r9 => { g with r9 := v }
  | r8 => { g with r8 := v }
  | rbp => { g with rbp := v }
  | rdi => { g with rdi := v }
  | rsi => { g with rsi := v }
  | rdx => { g with rdx := v }
  | rcx => { g with rcx := v }
  | rbx => { g with rbx := v }
  | rax => { g with rax := v }

structure Core where
  general : General
  /-- Words on the stack, the last pushed first. -/
  stack : List UInt64
  /-- Address just above the first word pushed. -/
  base : UInt64
  deriving DecidableEq, Repr

namespace Core

def push (c : Core) (w : UInt64) : Core := { c with stack := w :: c.stack }

def stackPointer (c : Core) : UInt64 := c.base - 8 * UInt64.ofNat c.stack.length

/-- The words on the stack from an address on. -/
def wordsAt (c : Core) (address : UInt64) : List UInt64 :=
  c.stack.drop ((address - c.stackPointer).toNat / 8)

end Core

inductive Instruction where
  | push (r : Register)
  | pushWord (w : UInt64)
  | pop (r : Register)
  /-- Passes the address of the top of the stack as an argument. -/
  | passStackPointer
  /-- Takes words off the stack unread. -/
  | release (words : Nat)
  deriving DecidableEq, Repr

def step (c : Core) : Instruction → Core
  | .push r => c.push (r.get c.general)
  | .pushWord w => c.push w
  | .pop r =>
    match c.stack with
    | w :: rest => { c with general := r.set c.general w, stack := rest }
    | [] => c
  | .passStackPointer => { c with general := { c.general with rdi := c.stackPointer } }
  | .release n => { c with stack := c.stack.drop n }

def run (c : Core) (code : List Instruction) : Core := code.foldl step c

def cpuPushesError (vector : UInt8) : Bool :=
  vector = 8 || (10 ≤ vector && vector ≤ 14) || vector = 17 || vector = 21
    || (29 ≤ vector && vector ≤ 30)

/-- What the CPU does on entry into a gate: the frame, then the error word if there is one. -/
def enter (vector : UInt8) (errorCode : UInt64) (r : Registers) (base : UInt64) : Core where
  general := r.general
  stack := (if cpuPushesError vector then [errorCode] else []) ++ r.frame.words
  base := base

/-- The return from a trap: the frame is taken off the stack. -/
def returnFrame (c : Core) : Frame where
  rip := c.stack.getD 0 0
  cs := c.stack.getD 1 0
  rflags := c.stack.getD 2 0
  rsp := c.stack.getD 3 0
  ss := c.stack.getD 4 0

namespace Adapter

/-- The vectors whose stub relies on the error word of the CPU. -/
def withErrorWord : List UInt8 := [8, 10, 11, 12, 13, 14, 17, 21, 29, 30]

def withPlaceholder : List UInt8 :=
  [0, 1, 2, 3, 4, 5, 6, 7, 9, 15, 16, 18, 19, 20, 22, 23, 24, 25, 26, 27, 28, 31]
    ++ [32, 33, 34, 35, 36, 37, 38, 39, 40, 41, 42, 43, 44, 45, 46, 47]

/-- A vector in neither list has no stub. -/
def stub (vector : UInt8) : List Instruction :=
  if withErrorWord.contains vector then [.pushWord vector.toUInt64]
  else if withPlaceholder.contains vector then [.pushWord 0, .pushWord vector.toUInt64]
  else []

def save : List Instruction :=
  [.push .rax, .push .rbx, .push .rcx, .push .rdx, .push .rsi, .push .rdi, .push .rbp,
    .push .r8, .push .r9, .push .r10, .push .r11, .push .r12, .push .r13, .push .r14,
    .push .r15, .passStackPointer]

/-- The vector and the error word or its placeholder go last. -/
def restore : List Instruction :=
  [.pop .r15, .pop .r14, .pop .r13, .pop .r12, .pop .r11, .pop .r10, .pop .r9, .pop .r8,
    .pop .rbp, .pop .rdi, .pop .rsi, .pop .rdx, .pop .rcx, .pop .rbx, .pop .rax, .release 2]

def entry (vector : UInt8) (c : Core) : Core := run c (stub vector ++ save)

def context (c : Core) : Context := Context.ofWords (c.wordsAt c.general.rdi)

/-- From the dispatcher's return, which leaves any values in the general registers, to the
registers of the interrupted code. -/
def exit (c : Core) (left : General) : Registers :=
  let c := run { c with general := left } restore
  ⟨c.general, returnFrame c⟩

/-- Entry address of the adapter of a vector. It stands in for the one that the linker chooses;
nothing counts but that no two are the same. -/
def address (vector : Nat) : UInt64 := 0xffffffff80100000 + 16 * UInt64.ofNat vector

def addresses : Adapters := Vector.ofFn fun i => address i.val

end Adapter

end InterruptCore.Trap
