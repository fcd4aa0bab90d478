import InterruptCore.Text.Digits
import Mathlib.Data.Nat.Log
import Mathlib.Data.Nat.Digits.Defs

/-! Numerals are the ones that everybody writes. The number of digits is counted first and
the digits are produced afterwards; both recur on the number without its last digit. -/
namespace InterruptCore.Text

/-- Fuel beyond the bits of a number changes nothing. -/
theorem countUpTo_eq {base : Nat} (hb : 2 ≤ base) {fuel n : Nat} (hf : n < 2 ^ (fuel + 1)) :
    countUpTo base (fuel + 1) n = countUpTo base fuel n := by
  induction fuel generalizing n with
  | zero =>
    have hn : n < base := by omega
    simp [countUpTo, hn]
  | succ fuel ih =>
    have hrest : n / base < 2 ^ (fuel + 1) := by
      have hle : n / base ≤ n / 2 := Nat.div_le_div_left hb (by decide)
      have hhalf : n / 2 < 2 ^ (fuel + 1) := by
        rw [Nat.div_lt_iff_lt_mul (by decide)]
        rwa [pow_succ] at hf
      omega
    rw [countUpTo, ih hrest, countUpTo]

theorem countUpTo_of_lt {base : Nat} (hb : 2 ≤ base) {fuel more n : Nat}
    (hf : n < 2 ^ (fuel + 1)) : countUpTo base (fuel + more) n = countUpTo base fuel n := by
  induction more with
  | zero => rfl
  | succ more ih =>
    have hpow : 2 ^ (fuel + 1) ≤ 2 ^ (fuel + more + 1) :=
      Nat.pow_le_pow_right (by decide) (by omega)
    rw [← Nat.add_assoc, countUpTo_eq hb (by omega), ih]

theorem digitCount_of_lt {base n : Nat} (hn : n < base) : digitCount base n = 1 := by
  unfold digitCount
  cases n.log2 <;> simp [countUpTo, hn]

theorem digitCount_of_le {base n : Nat} (hb : 2 ≤ base) (hn : base ≤ n) :
    digitCount base n = digitCount base (n / base) + 1 := by
  have hlog : n.log2 = (n / 2).log2 + 1 := by
    rw [Nat.log2_def, if_pos (by omega)]
  have hle : n / base ≤ n / 2 := Nat.div_le_div_left hb (by decide)
  have hmono : (n / base).log2 ≤ (n / 2).log2 := by
    rw [Nat.log2_eq_log_two, Nat.log2_eq_log_two]
    exact Nat.log_mono_right hle
  obtain ⟨more, hmore⟩ := Nat.exists_eq_add_of_le hmono
  rw [digitCount, hlog, countUpTo, if_neg (by omega), hmore,
    countUpTo_of_lt hb Nat.lt_log2_self, digitCount]

theorem numeral_of_lt {base n : Nat} (hn : n < base) : numeral base n = [digit n] := by
  rw [numeral, digitCount_of_lt hn, fixed, fixed, Nat.mod_eq_of_lt hn, List.nil_append]

theorem numeral_of_le {base n : Nat} (hb : 2 ≤ base) (hn : base ≤ n) :
    numeral base n = numeral base (n / base) ++ [digit (n % base)] := by
  rw [numeral, digitCount_of_le hb hn, fixed, numeral]

theorem digit_eq_digitChar {d : Nat} (hd : d < 16) : digit d = d.digitChar := by
  revert d
  decide

theorem numeral_eq_toDigits {base : Nat} (hb : 2 ≤ base) (hmax : base ≤ 16) (n : Nat) :
    numeral base n = Nat.toDigits base n := by
  induction n using Nat.strongRecOn with
  | ind n ih =>
    by_cases hn : n < base
    · rw [numeral_of_lt hn, Nat.toDigits_of_lt_base hn, digit_eq_digitChar (by omega)]
    · have hle : base ≤ n := Nat.le_of_not_lt hn
      have hlt : n / base < n := Nat.div_lt_self (by omega) hb
      have hlast : n % base < 16 := (Nat.mod_lt n (by omega)).trans_le hmax
      rw [numeral_of_le hb hle, Nat.toDigits_of_base_le hb hle, ih _ hlt,
        digit_eq_digitChar hlast]

theorem decimal_eq_repr (n : Nat) : decimal n = n.repr := by
  rw [decimal, numeral_eq_toDigits (by decide) (by decide), Nat.repr_eq_ofList_toDigits]

def base16 (n : Nat) : String := String.ofList (Nat.toDigits 16 n)

theorem hex_eq_base16 (n : Nat) : hex n = base16 n := by
  rw [hex, numeral_eq_toDigits (by decide) (by decide), base16]

theorem lt_pow_digitCount {base : Nat} (hb : 2 ≤ base) (n : Nat) :
    n < base ^ digitCount base n := by
  induction n using Nat.strongRecOn with
  | ind n ih =>
    by_cases hn : n < base
    · rwa [digitCount_of_lt hn, pow_one]
    · have hle : base ≤ n := Nat.le_of_not_lt hn
      have hrest := ih (n / base) (Nat.div_lt_self (by omega) hb)
      rw [digitCount_of_le hb hle, pow_succ]
      exact (Nat.div_lt_iff_lt_mul (by omega)).mp hrest

theorem fixed_zero (base w : Nat) : fixed base w 0 = List.replicate w '0' := by
  induction w with
  | zero => rfl
  | succ w ih => rw [fixed, Nat.zero_div, Nat.zero_mod, ih, List.replicate_succ']; rfl

/-- Digits that a number does not need are zeros. -/
theorem fixed_add {base more w n : Nat} (hn : n < base ^ w) :
    fixed base (more + w) n = List.replicate more '0' ++ fixed base w n := by
  induction w generalizing n with
  | zero =>
    obtain rfl : n = 0 := by
      rw [pow_zero] at hn
      omega
    rw [Nat.add_zero, fixed_zero, fixed, List.append_nil]
  | succ w ih =>
    have hpos : 0 < base := by
      rcases Nat.eq_zero_or_pos base with rfl | hpos
      · simp at hn
      · exact hpos
    have hrest : n / base < base ^ w := (Nat.div_lt_iff_lt_mul hpos).mpr (pow_succ base w ▸ hn)
    rw [← Nat.add_assoc, fixed, ih hrest, fixed, List.append_assoc]

theorem padded_eq {base : Nat} (hb : 2 ≤ base) (w n : Nat) :
    padded base w n = List.replicate (w - digitCount base n) '0' ++ numeral base n := by
  have hwidth : max w (digitCount base n) = w - digitCount base n + digitCount base n := by
    omega
  rw [padded, hwidth, fixed_add (lt_pow_digitCount hb n), numeral]

/-- The digits of a number to the base 16, after zeros where it has less than `w`. -/
def base16Padded (w n : Nat) : String := String.ofList ((Nat.toDigits 16 n).leftpad w '0')

theorem hexPadded_eq (w n : Nat) : hexPadded w n = base16Padded w n := by
  have hlength : (Nat.toDigits 16 n).length = digitCount 16 n := by
    rw [← numeral_eq_toDigits (by decide) (by decide), numeral, length_fixed]
  rw [hexPadded, padded_eq (by decide), base16Padded, List.leftpad, hlength,
    numeral_eq_toDigits (by decide) (by decide)]

theorem join_hexPieces (w n : Nat) : String.join (hexPieces w n) = hexPadded w n := by
  have hzeros : ∀ k, (String.join (List.replicate k "0")).toList = List.replicate k '0' := by
    intro k
    induction k with
    | zero => rfl
    | succ k ih => rw [List.replicate_succ, String.join_cons, String.toList_append, ih]; rfl
  apply String.toList_inj.mp
  rw [hexPieces, String.join_append, String.toList_append, hzeros, hexPadded, String.toList_ofList,
    padded_eq (by decide)]
  simp [hex]

theorem digit_inj : ∀ d < 16, ∀ e < 16, digit d = digit e → d = e := by decide

theorem fixed_inj {base w m n : Nat} (hb : 2 ≤ base) (hmax : base ≤ 16) (hm : m < base ^ w)
    (hn : n < base ^ w) (h : fixed base w m = fixed base w n) : m = n := by
  induction w generalizing m n with
  | zero =>
    rw [pow_zero] at hm hn
    omega
  | succ w ih =>
    have hpos : 0 < base := by omega
    rw [pow_succ] at hm hn
    obtain ⟨hfront, hlast⟩ := List.append_inj' h rfl
    have hdiv : m / base = n / base :=
      ih ((Nat.div_lt_iff_lt_mul hpos).mpr hm) ((Nat.div_lt_iff_lt_mul hpos).mpr hn) hfront
    have hmod : m % base = n % base :=
      digit_inj _ ((Nat.mod_lt m hpos).trans_le hmax) _ ((Nat.mod_lt n hpos).trans_le hmax)
        (List.singleton_inj.mp hlast)
    rw [← Nat.div_add_mod m base, hdiv, hmod, Nat.div_add_mod]

/-- However far zeros fill it up, a numeral says which number it is. -/
theorem padded_inj {base w m n : Nat} (hb : 2 ≤ base) (hmax : base ≤ 16)
    (h : padded base w m = padded base w n) : m = n := by
  have hlength : max w (digitCount base m) = max w (digitCount base n) := by
    simpa [padded] using congrArg List.length h
  have hbound : ∀ k, k < base ^ max w (digitCount base k) := fun k =>
    (lt_pow_digitCount hb k).trans_le (Nat.pow_le_pow_right (by omega) (Nat.le_max_right _ _))
  refine fixed_inj hb hmax (hbound m) (hlength ▸ hbound n) ?_
  rw [padded, padded, ← hlength] at h
  exact h

theorem numeral_inj {base m n : Nat} (hb : 2 ≤ base) (hmax : base ≤ 16)
    (h : numeral base m = numeral base n) : m = n := by
  have hzero : ∀ k, numeral base k = padded base 0 k := fun k => by
    rw [padded, Nat.zero_max, numeral]
  rw [hzero, hzero] at h
  exact padded_inj hb hmax h

end InterruptCore.Text
