import InterruptCore.Text.Digits
import InterruptCore.Text.Printable

/-! Text between double quotes, in which every character can be told from the others: those
that cannot be shown are written by number. -/
namespace InterruptCore.Text

def escape (c : Char) : List Char :=
  if c = '\x00' then ['\\', '0']
  else if c = '\t' then ['\\', 't']
  else if c = '\n' then ['\\', 'n']
  else if c = '\r' then ['\\', 'r']
  else if c = '"' ∨ c = '\\' then ['\\', c]
  else if isHidden c then ['\\', 'u', '\x7b'] ++ numeral 16 c.toNat ++ ['\x7d']
  else [c]

def quoted (s : String) : String := String.ofList (['"'] ++ s.toList.flatMap escape ++ ['"'])

end InterruptCore.Text
