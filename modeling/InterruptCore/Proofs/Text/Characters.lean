import InterruptCore.Context.Dump
import Mathlib.Data.List.Basic

/-! Which characters a text is made of. A numeral has digits only, and a name that is looked up
has the characters of a name in the table. -/
namespace InterruptCore

namespace Text

theorem exists_digit_of_mem_fixed {base w n : Nat} {c : Char} (hpos : 0 < base)
    (h : c ∈ fixed base w n) : ∃ d < base, c = digit d := by
  induction w generalizing n with
  | zero => exact absurd h List.not_mem_nil
  | succ w ih =>
    rw [fixed, List.mem_append, List.mem_singleton] at h
    rcases h with h | rfl
    · exact ih h
    · exact ⟨n % base, Nat.mod_lt n hpos, rfl⟩

def Every (P : Char → Prop) (s : String) : Prop := ∀ c ∈ s.toList, P c

instance {P : Char → Prop} [DecidablePred P] (s : String) : Decidable (Every P s) :=
  List.decidableBAll P s.toList

section Every

variable {P : Char → Prop} (hdigit : ∀ d < 16, P (digit d))
include hdigit

theorem forall_mem_fixed {base : Nat} (hpos : 0 < base) (hmax : base ≤ 16) (w n : Nat) :
    ∀ c ∈ fixed base w n, P c := by
  intro c hc
  obtain ⟨d, hd, rfl⟩ := exists_digit_of_mem_fixed hpos hc
  exact hdigit d (Nat.lt_of_lt_of_le hd hmax)

theorem every_decimal (n : Nat) : Every P (decimal n) := by
  rw [Every, decimal, String.toList_ofList]
  exact forall_mem_fixed hdigit (by decide) (by decide) _ n

theorem every_hex (n : Nat) : Every P (hex n) := by
  rw [Every, hex, String.toList_ofList]
  exact forall_mem_fixed hdigit (by decide) (by decide) _ n

theorem every_hexPadded (w n : Nat) : Every P (hexPadded w n) := by
  rw [Every, hexPadded, String.toList_ofList]
  exact forall_mem_fixed hdigit (by decide) (by decide) _ n

end Every

end Text

theorem Exception.every_name {P : Char → Prop} (h : ∀ s ∈ "Unknown" :: names, Text.Every P s)
    (v : UInt8) : Text.Every P (name v) := by
  apply h
  rw [name, List.getD_eq_getElem?_getD]
  cases hv : names[v.toNat]? with
  | none => exact List.mem_cons_self
  | some s => exact List.mem_cons_of_mem _ (List.mem_of_getElem? hv)

end InterruptCore
