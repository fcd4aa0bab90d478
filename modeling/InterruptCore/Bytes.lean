/-! Little-endian bytes of a number and the number of a byte string. -/
namespace InterruptCore.Bytes

/-- The lowest `w` bytes of `n`, least significant first. -/
def ofNat : Nat → Nat → List UInt8
  | 0, _ => []
  | w + 1, n => UInt8.ofNat n :: ofNat w (n / 256)

def toNat : List UInt8 → Nat
  | [] => 0
  | b :: rest => b.toNat + 256 * toNat rest

@[simp] theorem length_ofNat (w n : Nat) : (ofNat w n).length = w := by
  induction w generalizing n with
  | zero => rfl
  | succ w ih => simp [ofNat, ih]

theorem toNat_ofNat (w n : Nat) : toNat (ofNat w n) = n % 1 <<< (8 * w) := by
  induction w generalizing n with
  | zero => simp [ofNat, toNat, Nat.mod_one]
  | succ w ih =>
    have hshift : 1 <<< (8 * (w + 1)) = 256 * 1 <<< (8 * w) := by
      rw [Nat.mul_succ, Nat.shiftLeft_add, Nat.shiftLeft_eq _ 8, Nat.mul_comm]
    simp only [ofNat, toNat, ih, UInt8.toNat_ofNat', Nat.reducePow]
    rw [hshift, Nat.mod_mul]

theorem ofNat_toNat (bs : List UInt8) : ofNat bs.length (toNat bs) = bs := by
  induction bs with
  | nil => rfl
  | cons b rest ih =>
    have hb := b.toNat_lt
    have hq : (b.toNat + 256 * toNat rest) / 256 = toNat rest := by omega
    have hr : UInt8.ofNat (b.toNat + 256 * toNat rest) = b := by
      apply UInt8.toNat_inj.1
      rw [UInt8.toNat_ofNat']
      omega
    simp only [List.length_cons, toNat, ofNat, hq, hr, ih]

theorem ofNat_toNat_vector {w : Nat} (bs : Vector UInt8 w) :
    ofNat w (toNat bs.toList) = bs.toList := by
  have h := ofNat_toNat bs.toList
  rwa [Vector.length_toList] at h

theorem ofNat_add (v w n : Nat) : ofNat (v + w) n = ofNat v n ++ ofNat w (n >>> (8 * v)) := by
  induction v generalizing n with
  | zero => simp [ofNat]
  | succ v ih =>
    have hdiv : (n / 256) >>> (8 * v) = n >>> (8 * (v + 1)) := by
      rw [Nat.mul_succ, Nat.add_comm, Nat.shiftRight_add, Nat.shiftRight_eq_div_pow n 8]
    rw [Nat.add_right_comm, ofNat, ofNat, ih, hdiv, List.cons_append]

theorem ofNat_mod (w n : Nat) : ofNat w (n % 1 <<< (8 * w)) = ofNat w n := by
  have h := ofNat_toNat (ofNat w n)
  rwa [length_ofNat, toNat_ofNat] at h

theorem ofNat_congr {w m n : Nat} (h : m % 1 <<< (8 * w) = n % 1 <<< (8 * w)) :
    ofNat w m = ofNat w n := by
  rw [← ofNat_mod, h, ofNat_mod]

theorem toNat_lt (bs : List UInt8) : toNat bs < 1 <<< (8 * bs.length) := by
  have h := toNat_ofNat bs.length (toNat bs)
  rw [ofNat_toNat] at h
  rw [h]
  exact Nat.mod_lt _ (by rw [Nat.shiftLeft_eq, Nat.one_mul]; exact Nat.two_pow_pos _)

theorem toNat_vector_lt {w : Nat} (bs : Vector UInt8 w) : toNat bs.toList < 1 <<< (8 * w) := by
  have h := toNat_lt bs.toList
  rwa [Vector.length_toList] at h

/-- As a word of their own width, bytes have the same number. -/
theorem toNat_word {w : Nat} (bs : Vector UInt8 w) :
    (BitVec.ofNat (8 * w) (toNat bs.toList)).toNat = toNat bs.toList := by
  have h := toNat_vector_lt bs
  rw [Nat.shiftLeft_eq, Nat.one_mul] at h
  rw [BitVec.toNat_ofNat, Nat.mod_eq_of_lt h]

theorem word_ofNat {w : Nat} (raw : BitVec (8 * w)) :
    BitVec.ofNat (8 * w) (toNat (ofNat w raw.toNat)) = raw := by
  rw [← BitVec.toNat_inj, BitVec.toNat_ofNat, toNat_ofNat, Nat.shiftLeft_eq, Nat.one_mul,
    Nat.mod_mod, Nat.mod_eq_of_lt raw.isLt]

theorem toNat_getElem (bs : List UInt8) (i : Nat) (h : i < bs.length) :
    bs[i].toNat = toNat bs >>> (8 * i) % 256 := by
  induction bs generalizing i with
  | nil => cases h
  | cons b rest ih =>
    have hb := b.toNat_lt
    cases i with
    | zero =>
      simp only [List.getElem_cons_zero, toNat, Nat.mul_zero, Nat.shiftRight_zero]
      omega
    | succ i =>
      have hrest : toNat (b :: rest) >>> 8 = toNat rest := by
        rw [toNat]
        omega
      rw [List.getElem_cons_succ, ih i (Nat.lt_of_succ_lt_succ h), Nat.mul_succ, Nat.add_comm,
        Nat.shiftRight_add, hrest]

theorem toNat_vector_getElem {w : Nat} (bs : Vector UInt8 w) (i : Nat) (h : i < w) :
    bs[i].toNat = toNat bs.toList >>> (8 * i) % 256 := by
  rw [← toNat_getElem bs.toList i (by rwa [Vector.length_toList]), Vector.getElem_toList]

theorem toNat_zeros (n : Nat) : toNat (List.replicate n 0) = 0 := by
  induction n with
  | zero => rfl
  | succ n ih =>
    rw [List.replicate_succ, toNat, ih]
    rfl

theorem toNat_append_zeros (bs : List UInt8) (n : Nat) :
    toNat (bs ++ List.replicate n 0) = toNat bs := by
  induction bs with
  | nil => exact toNat_zeros n
  | cons b rest ih => rw [List.cons_append, toNat, toNat, ih]

/-- Bytes are few: what holds of 256 numbers holds of every byte. -/
theorem forall_byte {p : UInt8 → Prop} (h : ∀ i : Fin 256, p (UInt8.ofNat i.val)) (b : UInt8) :
    p b := by
  have hb := h ⟨b.toNat, b.toNat_lt⟩
  rwa [UInt8.ofNat_toNat] at hb

theorem toNat_lowNibble (b : UInt8) : (b &&& 0x0f).toNat = b.toNat % 0x10 := by
  rw [UInt8.toNat_and]
  exact Nat.and_two_pow_sub_one_eq_mod b.toNat 4

end InterruptCore.Bytes
