/-! Numerals: the digits of a number in a base, most significant first.
`fixed` writes a given number of digits, `numeral` as many as the number needs. -/
namespace InterruptCore.Text

def digit (d : Nat) : Char :=
  if d < 10 then Char.ofNat (48 + d) else Char.ofNat (87 + d)

/-- The lowest `w` digits of `n`. -/
def fixed (base : Nat) : Nat → Nat → List Char
  | 0, _ => []
  | w + 1, n => fixed base w (n / base) ++ [digit (n % base)]

/-- Digits of `n`, at most `fuel` of them and never none. -/
def countUpTo (base : Nat) : Nat → Nat → Nat
  | 0, _ => 1
  | fuel + 1, n => if n < base then 1 else countUpTo base fuel (n / base) + 1

/-- A base is at least two, so a number has no more digits than bits. -/
def digitCount (base n : Nat) : Nat := countUpTo base n.log2 n

def numeral (base n : Nat) : List Char := fixed base (digitCount base n) n

/-- Zeros fill a numeral up to `w` digits; a longer one is written in full. -/
def padded (base w n : Nat) : List Char := fixed base (max w (digitCount base n)) n

def decimal (n : Nat) : String := String.ofList (numeral 10 n)

def hex (n : Nat) : String := String.ofList (numeral 16 n)

def hexPadded (w n : Nat) : String := String.ofList (padded 16 w n)

/-- The same text as a formatter writes it: the zeros one by one, and then the numeral. -/
def hexPieces (w n : Nat) : List String := List.replicate (w - digitCount 16 n) "0" ++ [hex n]

@[simp] theorem length_fixed (base w n : Nat) : (fixed base w n).length = w := by
  induction w generalizing n with
  | zero => rfl
  | succ w ih => simp [fixed, ih]

end InterruptCore.Text
