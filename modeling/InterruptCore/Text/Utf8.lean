/-! Text in stored bytes. Bytes that belong to no character are read as the replacement
character, one for each longest start of a character that is not completed. -/
namespace InterruptCore.Text

def utf8 (s : String) : List UInt8 := s.toList.flatMap String.utf8EncodeChar

def replacement : Char := Char.ofNat 0xfffd

def within (low high : Nat) (b : UInt8) : Bool := low ≤ b.toNat && b.toNat ≤ high

/-- For a first byte: its share of the code point, and the range of each byte to follow. -/
def leader (b : UInt8) : Option (Nat × List (Nat × Nat)) :=
  let n := b.toNat
  let tail := (0x80, 0xbf)
  if n < 0x80 then some (n, [])
  else if n < 0xc2 then none
  else if n < 0xe0 then some (n - 0xc0, [tail])
  else if n = 0xe0 then some (0, [(0xa0, 0xbf), tail])
  else if n = 0xed then some (13, [(0x80, 0x9f), tail])
  else if n < 0xf0 then some (n - 0xe0, [tail, tail])
  else if n = 0xf0 then some (0, [(0x90, 0xbf), tail, tail])
  else if n < 0xf4 then some (n - 0xf0, [tail, tail, tail])
  else if n = 0xf4 then some (4, [(0x80, 0x8f), tail, tail])
  else none

/-- Reads the bytes that follow a first byte; stops before one out of its range. -/
def follow (code : Nat) : List (Nat × Nat) → List UInt8 → Char × List UInt8
  | [], rest => (Char.ofNat code, rest)
  | _ :: _, [] => (replacement, [])
  | r :: more, b :: rest =>
    if within r.1 r.2 b then follow (code * 64 + b.toNat % 64) more rest
    else (replacement, b :: rest)

theorem length_follow (code : Nat) (ranges : List (Nat × Nat)) (bs : List UInt8) :
    (follow code ranges bs).2.length ≤ bs.length := by
  induction ranges generalizing code bs with
  | nil => exact Nat.le_refl _
  | cons r more ih =>
    cases bs with
    | nil => exact Nat.le_refl _
    | cons b rest =>
      simp only [follow]
      split
      · exact Nat.le_succ_of_le (ih _ _)
      · exact Nat.le_refl _

def fromUtf8 : List UInt8 → List Char
  | [] => []
  | b :: rest =>
    match leader b with
    | none => replacement :: fromUtf8 rest
    | some (code, ranges) =>
      have := length_follow code ranges rest
      (follow code ranges rest).1 :: fromUtf8 (follow code ranges rest).2
  termination_by bs => bs.length
  decreasing_by
    · exact Nat.lt_succ_self _
    · exact Nat.lt_succ_of_le this

end InterruptCore.Text
