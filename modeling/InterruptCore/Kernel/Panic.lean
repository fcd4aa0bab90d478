import InterruptCore.Context.Dump
import InterruptCore.Kernel.Console

/-! Panics: a report on the console, once, and the end of all work. -/
namespace InterruptCore.Kernel.Panic

open Machine Program Text

/-- A panic during a panic stops at once. -/
def enter : Program Unit := do
  clearFlag
  let before ← exchange fun k => { k with panicking := k.panicking.mark }
  if before.panicking.isSet then
    let never ← haltLoop
    nomatch never

def banner (message : List String) : Program Unit :=
  Console.emergency (["\n\n=== KERNEL PANIC ===\nPANIC: "] ++ message ++ ["\n"])

def trailer : Program Unit := Console.emergency ["===================\nSystem halted.\n"]

/-- Root of the page tables and the low flag bits; higher bits are not part of it. -/
def pageRoot (cr3 : UInt64) : UInt64 := cr3 &&& 0x000fffffffffffff

def snapshot (rsp cr0 cr2 cr3 cr4 : UInt64) : List String :=
  ["Register snapshot:\nRSP: 0x", hex rsp.toNat, "\nCR0: 0x", hex cr0.toNat, "\nCR2: 0x",
    hex cr2.toNat, "\nCR3: 0x", hex (pageRoot cr3).toNat, "\nCR4: 0x", hex cr4.toNat, "\n"]

def panic (message : List String) : Program Empty := do
  enter
  banner message
  let rsp ← request .stackPointer
  let cr0 ← request (.control .cr0)
  let cr2 ← request (.control .cr2)
  let cr3 ← request (.control .cr3)
  let cr4 ← request (.control .cr4)
  Console.emergency (snapshot rsp cr0 cr2 cr3 cr4)
  trailer
  haltLoop

def panicWithContext (message : List String) (c : Context) : Program Empty := do
  enter
  banner message
  Console.report c.dump
  trailer
  haltLoop

end InterruptCore.Kernel.Panic
