/-! Mutexes that keep interrupts off while they are held, all on one CPU with one interrupt
flag. Each guard remembers the flag that it found and puts it back when it is dropped. -/
namespace InterruptCore.MaskingLock

/-- A mutex with the guard that the program has of it. -/
structure Mutex (α : Type) where
  locked : Bool := false
  /-- The flag that the guard found, while there is a guard. -/
  guard : Option Bool := none
  value : α
  locked_eq : locked = guard.isSome := by rfl
  deriving DecidableEq, Repr

instance {α : Type} [Inhabited α] : Inhabited (Mutex α) := ⟨{ value := default }⟩

namespace Mutex

variable {α : Type}

def acquire (m : Mutex α) (found : Bool) : Mutex α :=
  { m with locked := true, guard := some found, locked_eq := rfl }

def release (m : Mutex α) : Mutex α :=
  { m with locked := false, guard := none, locked_eq := rfl }

end Mutex

/-- The values are words, unless said otherwise. -/
structure Bank (α : Type := UInt64) where
  flag : Bool := false
  mutexes : Nat → Mutex α := by exact fun _ => { value := default }

instance {α : Type} [Inhabited α] : Inhabited (Bank α) := ⟨{}⟩

namespace Bank

variable {α β : Type}

def fresh (flag : Bool) (values : Nat → α) : Bank α :=
  { flag, mutexes := fun i => { value := values i } }

def clearFlag (b : Bank α) : Bank α := { b with flag := false }

def setFlag (b : Bank α) : Bank α := { b with flag := true }

def held (b : Bank α) (i : Nat) : Bool := (b.mutexes i).locked

def update (b : Bank α) (i : Nat) (m : Mutex α) : Bank α :=
  { b with mutexes := fun j => if j = i then m else b.mutexes j }

/-- The lock word is set for a guard that remembers the flag, and the flag is cleared. -/
def take (b : Bank α) (i : Nat) : Bank α :=
  { b.update i ((b.mutexes i).acquire b.flag) with flag := false }

/-- Takes a free mutex; on a held one the CPU would wait for ever. -/
def lock? (b : Bank α) (i : Nat) : Option (Bank α) :=
  if b.held i then none else some (b.take i)

/-- Takes the mutex if it is free. The flag is cleared before the attempt is made; one that
fails has no guard to put it back, and sets it again itself. -/
def tryLock (b : Bank α) (i : Nat) : Bank α × Bool :=
  let found := b.flag
  let masked := b.clearFlag
  if b.held i then (if found then masked.setFlag else masked, false)
  else (masked.update i ((b.mutexes i).acquire found), true)

/-- Drops the guard, if there is one: a flag that was set is set again. -/
def unlock (b : Bank α) (i : Nat) : Bank α × Bool :=
  match (b.mutexes i).guard with
  | none => (b, false)
  | some found =>
    ({ b.update i (b.mutexes i).release with flag := b.flag || found }, true)

def put (b : Bank α) (i : Nat) (v : α) : Option (Bank α) :=
  if (b.mutexes i).guard.isSome then some (b.update i { b.mutexes i with value := v })
  else none

def get (b : Bank α) (i : Nat) : Option α :=
  if (b.mutexes i).guard.isSome then some (b.mutexes i).value else none

/-- Runs with the flag clear and puts back the flag that it found. -/
def withoutInterrupts (b : Bank α) (body : Bank α → Bank α × β) : Bank α × β :=
  if b.flag then
    let (after, x) := body b.clearFlag
    (after.setFlag, x)
  else body b

theorem lock?_of_free {b : Bank α} {i : Nat} (h : b.held i = false) :
    b.lock? i = some (b.take i) := by
  rw [lock?, h]
  rfl

theorem lock?_of_held {b : Bank α} {i : Nat} (h : b.held i = true) : b.lock? i = none := by
  rw [lock?, if_pos h]

theorem tryLock_of_free {b : Bank α} {i : Nat} (h : b.held i = false) :
    b.tryLock i = (b.take i, true) := by
  rw [tryLock, h]
  rfl

/-- A failed attempt leaves everything as it was. -/
theorem tryLock_of_held {b : Bank α} {i : Nat} (h : b.held i = true) :
    b.tryLock i = (b, false) := by
  obtain ⟨flag, mutexes⟩ := b
  rw [tryLock, if_pos h]
  cases flag <;> rfl

theorem put_of_held {b : Bank α} {i : Nat} {v : α} (h : b.held i = true) :
    b.put i v = some (b.update i { b.mutexes i with value := v }) := by
  rw [put, if_pos ((b.mutexes i).locked_eq.symm.trans h)]

theorem get_of_held {b : Bank α} {i : Nat} (h : b.held i = true) :
    b.get i = some (b.mutexes i).value := by
  rw [get, if_pos ((b.mutexes i).locked_eq.symm.trans h)]

end Bank

end InterruptCore.MaskingLock
