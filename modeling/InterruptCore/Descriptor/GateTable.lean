import InterruptCore.Descriptor.Gate

/-! The interrupt descriptor table: 256 gates, of which the first 48 can point at an
adapter. The first 32 vectors are CPU exceptions and the next 16 the legacy IRQ lines. -/
namespace InterruptCore

def exceptionVectors : Nat := 32
def irqLines : Nat := 16
def supportedVectors : Nat := exceptionVectors + irqLines
def gateCount : Nat := 256

def irqBaseVector : UInt8 := 32

def irqSlaveBaseVector : UInt8 := irqBaseVector + 8

abbrev GateTable := Vector Gate64.Word gateCount

/-- Entry addresses of the adapters, one for each supported vector. -/
abbrev Adapters := Vector UInt64 supportedVectors

/-- The vector whose adapter has the given address. -/
def adapterAt? (adapters : Adapters) (target : UInt64) : Option UInt8 :=
  (adapters.toList.findIdx? (· = target)).map UInt8.ofNat

namespace GateTable

def empty : GateTable := Vector.replicate gateCount 0

/-- Where the table of the kernel stands in memory, which is for the linker to choose. -/
def address : UInt64 := 0xffffffff80201000

def size : UInt64 := 16 * UInt64.ofNat gateCount

def install (table : GateTable) (entry : UInt64 × Nat) : Except DescriptorError GateTable := do
  let raw ← (Gate64.kernelInterrupt entry.1).encode
  return table.setIfInBounds entry.2 raw

/-- Clears the table, then points the exception gates, and the IRQ gates if asked to, at
their adapters. The number of gates comes with the table. -/
def populate (old : GateTable) (adapters : Adapters) (withIrqs : Bool) :
    Except DescriptorError (Nat × GateTable) := do
  let installed := if withIrqs then supportedVectors else exceptionVectors
  let table ← (adapters.toList.take installed).zipIdx.foldlM install (old.map fun _ => 0)
  return (installed, table)

def gate (table : GateTable) (vector : UInt8) : Gate64.Word :=
  table.get ⟨vector.toNat, vector.toNat_lt⟩

/-- What neighbouring gates have in common in a summary: the selector, bytes 4 and 5, the
reserved last word, and whether each points at the adapter of its own vector. -/
structure Traits where
  selector : Nat
  byte4 : Nat
  byte5 : Nat
  reserved : Nat
  own : Bool
  deriving DecidableEq, Repr

def Traits.of (address : Nat → Option UInt64) (vector : Nat) (raw : Gate64.Word) : Traits where
  selector := raw.toNat >>> 16 % 0x10000
  byte4 := raw.toNat >>> 32 % 0x100
  byte5 := raw.toNat >>> 40 % 0x100
  reserved := raw.toNat >>> 96
  own := address vector == some (Gate64.target raw)

structure Run where
  first : Nat
  last : Nat
  traits : Traits
  deriving DecidableEq, Repr

def extend (address : Nat → Option UInt64) (runs : List Run) (entry : Gate64.Word × Nat) :
    List Run :=
  let (raw, vector) := entry
  if raw = 0 then runs
  else
    let traits := Traits.of address vector raw
    match runs with
    | run :: rest =>
      if run.last + 1 = vector ∧ run.traits = traits then { run with last := vector } :: rest
      else ⟨vector, vector, traits⟩ :: runs
    | [] => [⟨vector, vector, traits⟩]

/-- The longest runs of non-zero gates that agree, in vector order. -/
def runs (table : GateTable) (address : Nat → Option UInt64) : List Run :=
  (table.toList.zipIdx.foldl (extend address) []).reverse

end GateTable

end InterruptCore
