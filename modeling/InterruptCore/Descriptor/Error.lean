import InterruptCore.Text.Digits

/-! Causes for which a descriptor, a gate or a table has no encoding. -/
namespace InterruptCore

open Text

inductive DescriptorError where
  | privilegeOutOfRange (level : UInt8)
  | limitOutOfRange (limit : UInt32)
  | istOutOfRange (index : UInt8)
  | unknownGateType (nibble : UInt8)
  | tableSizeOutOfRange (size : UInt64)
  deriving DecidableEq, Repr

namespace DescriptorError

def message : DescriptorError → String
  | privilegeOutOfRange l => "privilege level " ++ decimal l.toNat ++ " out of range (0-3)"
  | limitOutOfRange l => "segment limit 0x" ++ hex l.toNat ++ " exceeds 20 bits"
  | istOutOfRange i => "IST index " ++ decimal i.toNat ++ " out of range (0-7)"
  | unknownGateType t => "unknown gate type 0x" ++ hex t.toNat
  | tableSizeOutOfRange s =>
    "descriptor table size " ++ decimal s.toNat ++ " out of range (1-65536)"

def kind : DescriptorError → String
  | privilegeOutOfRange _ => "PrivilegeOutOfRange"
  | limitOutOfRange _ => "LimitOutOfRange"
  | istOutOfRange _ => "IstOutOfRange"
  | unknownGateType _ => "UnknownGateType"
  | tableSizeOutOfRange _ => "TableSizeOutOfRange"

def value : DescriptorError → Nat
  | privilegeOutOfRange v | istOutOfRange v | unknownGateType v => v.toNat
  | limitOutOfRange v => v.toNat
  | tableSizeOutOfRange v => v.toNat

def inspect (e : DescriptorError) : String := e.kind ++ "(" ++ decimal e.value ++ ")"

end DescriptorError

end InterruptCore
