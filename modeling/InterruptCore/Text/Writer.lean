/-! Where text is written to, piece by piece. An outlet may refuse any piece; a `Writer` is
one that has room for only so many bytes. -/
namespace InterruptCore.Text

/-- A piece is taken or refused. What becomes of the outlet is its own affair in both cases. -/
structure Outlet (σ : Type) where
  write : σ → String → σ × Bool

/-- Pieces are written one after the other; the rest is dropped once one is refused. Also
says whether all were taken. -/
def Outlet.writeAll {σ : Type} (o : Outlet σ) (s : σ) : List String → σ × Bool
  | [] => (s, true)
  | p :: ps =>
    let (s, taken) := o.write s p
    if taken then o.writeAll s ps else (s, false)

/-- At the first character that does not fit a writer fails, and from then on it takes
nothing. -/
structure Writer where
  /-- Bytes left; `none` for a writer that never fails. -/
  room : Option Nat
  failed : Bool := false
  taken : List Char := []
  deriving DecidableEq, Repr

namespace Writer

def withRoom (room : Option Nat) : Writer := ⟨room, false, []⟩

def text (w : Writer) : String := String.ofList w.taken

def put (w : Writer) (c : Char) : Writer :=
  if w.failed then w
  else match w.room with
    | none => { w with taken := w.taken ++ [c] }
    | some n =>
      if c.utf8Size ≤ n then ⟨some (n - c.utf8Size), false, w.taken ++ [c]⟩
      else { w with failed := true }

def write (w : Writer) (s : String) : Writer := s.toList.foldl put w

def outlet : Outlet Writer where
  write w s :=
    let w := w.write s
    (w, !w.failed)

end Writer

end InterruptCore.Text
