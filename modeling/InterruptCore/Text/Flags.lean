import InterruptCore.Text.Digits

/-! Sets of named bits written as text: the names of the set bits in the order of the
table, then the bits without a name as one number. -/
namespace InterruptCore.Text

structure FlagNames where
  title : String
  bits : List (Nat × String)

def FlagNames.known (f : FlagNames) : Nat :=
  f.bits.foldl (fun m b => m ||| (1 <<< b.1)) 0

/-- Bits of `w` that no entry of the table names. -/
def FlagNames.unknown (f : FlagNames) (w : Nat) : Nat := w ^^^ (w &&& f.known)

def FlagNames.parts (f : FlagNames) (w : Nat) : List (List String) :=
  ((f.bits.filter fun b => w.testBit b.1).map fun b => [b.2]) ++
    if f.unknown w = 0 then [] else [["0x", hex (f.unknown w)]]

/-- An empty set is written as the number zero. -/
def FlagNames.pieces (f : FlagNames) (w : Nat) : List String :=
  [f.title, "("] ++ (if w = 0 then ["0x", "0"] else [" | "].intercalate (f.parts w)) ++ [")"]

def FlagNames.render (f : FlagNames) (w : Nat) : String := String.join (f.pieces w)

end InterruptCore.Text
