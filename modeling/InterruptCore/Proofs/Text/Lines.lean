import InterruptCore.Proofs.Trap.Reports
import InterruptCore.Proofs.Text.Numerals

/-! Lines with a mark. A byte that stands once in a line, and nowhere in what is before it, shows
where the line is. A numeral stands in a line as its digits, and they say which number it is. -/
namespace InterruptCore.Text

open Kernel.Console

section Marked

variable {c : UInt8} {u v x y : List UInt8}

theorem isPrefixOf_marked (hu : c ∉ u) (hx : c ∉ x) :
    (u ++ c :: v).isPrefixOf (x ++ c :: y) = (u == x && v.isPrefixOf y) := by
  induction u generalizing x with
  | nil =>
    cases x with
    | nil => simp
    | cons b x =>
      have hb : c ≠ b := fun h => hx (h ▸ List.mem_cons_self)
      simp [List.isPrefixOf_cons_cons, hb]
  | cons a u ih =>
    have ha : a ≠ c := fun h => hu (h ▸ List.mem_cons_self)
    have hu' : c ∉ u := fun h => hu (List.mem_cons_of_mem a h)
    cases x with
    | nil => simp [List.isPrefixOf_cons_cons, ha]
    | cons b x =>
      have hx' : c ∉ x := fun h => hx (List.mem_cons_of_mem b h)
      rw [List.cons_append, List.cons_append, List.isPrefixOf_cons_cons, ih hu' hx',
        List.cons_beq_cons, Bool.and_assoc]

theorem occurrences_marked (hu : c ∉ u) (hx : c ∉ x) :
    occurrences (u ++ c :: v) (x ++ c :: y) =
      (u.isSuffixOf x && v.isPrefixOf y).toNat + occurrences (u ++ c :: v) y := by
  induction x with
  | nil =>
    have hfirst := isPrefixOf_marked (y := y) (v := v) hu List.not_mem_nil
    have hempty : u.isSuffixOf [] = (u == []) := by
      rw [Bool.eq_iff_iff, List.isSuffixOf_iff_suffix, List.suffix_nil, beq_iff_eq]
    rw [hempty, ← hfirst]
    rfl
  | cons b x ih =>
    have hx' : c ∉ x := fun h => hx (List.mem_cons_of_mem b h)
    have hfirst := isPrefixOf_marked (y := y) (v := v) hu hx
    have hsuffix : u.isSuffixOf (b :: x) = (u == b :: x || u.isSuffixOf x) := by
      rw [Bool.eq_iff_iff, List.isSuffixOf_iff_suffix, List.suffix_cons_iff, Bool.or_eq_true,
        beq_iff_eq, List.isSuffixOf_iff_suffix]
    have hone : u = b :: x → u.isSuffixOf x = false := by
      rintro rfl
      rw [Bool.eq_false_iff, ne_eq, List.isSuffixOf_iff_suffix]
      exact fun h => Nat.not_succ_le_self _ h.length_le
    rw [List.cons_append, occurrences, ← List.cons_append, hfirst, ih hx', ← Nat.add_assoc, hsuffix]
    congr 1
    cases h : u == b :: x with
    | true =>
      rw [hone (eq_of_beq h), Bool.true_and, Bool.false_and, Bool.true_or, Bool.true_and]
      rfl
    | false =>
      rw [Bool.false_and, Bool.false_or]
      exact Nat.zero_add _

/-- A line that is sent whole, with its mark nowhere else. -/
theorem occurrences_once (hu : c ∉ u) (hv : c ∉ v) (hx : c ∉ x) (hy : c ∉ y) :
    occurrences (u ++ c :: v) (x ++ (u ++ c :: v) ++ y) = 1 := by
  have hsplit : x ++ (u ++ c :: v) ++ y = (x ++ u) ++ c :: (v ++ y) := by simp
  have hbefore : c ∉ x ++ u := fun h => (List.mem_append.mp h).elim hx hu
  have hafter : c ∉ v ++ y := fun h => (List.mem_append.mp h).elim hv hy
  have hsuffix : u.isSuffixOf (x ++ u) = true :=
    List.isSuffixOf_iff_suffix.mpr (List.suffix_append x u)
  have hprefix : v.isPrefixOf (v ++ y) = true :=
    List.isPrefixOf_iff_prefix.mpr (List.prefix_append v y)
  have hmark : c ∈ u ++ c :: v := List.mem_append_right u List.mem_cons_self
  rw [hsplit, occurrences_marked hu hbefore, hsuffix, hprefix,
    Machine.occurrences_eq_zero hmark hafter]
  rfl

end Marked

section Digits

variable {c : Char} {cs ds : List Char}

theorem toNat_of_isDigit (h : c.isDigit = true) : 48 ≤ c.toNat ∧ c.toNat ≤ 57 := by
  rw [Char.isDigit, Bool.and_eq_true, decide_eq_true_eq, decide_eq_true_eq] at h
  exact h

theorem wire_digits (h : ∀ c ∈ cs, c.isDigit = true) :
    wire (String.ofList cs) = cs.map fun c => UInt8.ofNat c.toNat := by
  unfold wire utf8
  rw [String.toList_ofList]
  induction cs with
  | nil => rfl
  | cons c cs ih =>
    have hc := toNat_of_isDigit (h c List.mem_cons_self)
    have hlow : c.val.toNat ≤ 127 := hc.2.trans (by decide)
    have hbyte : String.utf8EncodeChar c = [UInt8.ofNat c.toNat] := if_pos hlow
    have hplain : UInt8.ofNat c.toNat ≠ 10 := by
      intro h10
      have hnat := congrArg UInt8.toNat h10
      rw [UInt8.toNat_ofNat_of_lt' (show c.toNat < 256 by omega)] at hnat
      exact absurd (hnat ▸ hc.1) (by decide)
    rw [List.flatMap_cons, hbyte, List.singleton_append, List.flatMap_cons, if_neg hplain,
      ih fun d hd => h d (List.mem_cons_of_mem c hd)]
    rfl

theorem isDigit_of_mem_numeral {n : Nat} (h : c ∈ numeral 10 n) : c.isDigit = true := by
  rw [numeral_eq_toDigits (by decide) (by decide)] at h
  exact Nat.isDigit_of_mem_toDigits (by decide) (by decide) h

theorem mem_wire_decimal {b : UInt8} {n : Nat} (h : b ∈ wire (decimal n)) :
    48 ≤ b.toNat ∧ b.toNat ≤ 57 := by
  rw [decimal, wire_digits fun _ => isDigit_of_mem_numeral] at h
  obtain ⟨c, hc, rfl⟩ := List.mem_map.mp h
  have hbounds := toNat_of_isDigit (isDigit_of_mem_numeral hc)
  rwa [UInt8.toNat_ofNat_of_lt' (show c.toNat < 256 by omega)]

theorem wire_decimal_inj {k n : Nat} : wire (decimal k) = wire (decimal n) ↔ k = n := by
  have hback : ∀ n, (wire (decimal n)).map (fun b => Char.ofNat b.toNat) = numeral 10 n := by
    intro n
    rw [decimal, wire_digits fun _ => isDigit_of_mem_numeral, List.map_map]
    refine (List.map_congr_left fun c hc => ?_).trans (List.map_id _)
    have hbounds := toNat_of_isDigit (isDigit_of_mem_numeral hc)
    rw [Function.comp, UInt8.toNat_ofNat_of_lt' (show c.toNat < 256 by omega), Char.ofNat_toNat, id]
  refine ⟨fun h => ?_, fun h => h ▸ rfl⟩
  have hdigits : numeral 10 k = numeral 10 n := by rw [← hback, h, hback]
  exact numeral_inj (by decide) (by decide) hdigits

end Digits

end InterruptCore.Text
