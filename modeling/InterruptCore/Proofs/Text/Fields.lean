import InterruptCore.Proofs.Text.Characters
import InterruptCore.Proofs.Text.Numerals

/-! Texts that are read back. A text is written in pieces: words that are the same in every such
text, and numerals. Where two texts are equal, they are equal piece by piece, since the piece
after a numeral says where the numeral ends. -/
namespace InterruptCore.Text

/-- A text that begins with anything but a digit. -/
def separates (s : String) : Bool :=
  match s.toList with
  | [] => false
  | c :: _ => (List.range 16).all fun d => c ≠ digit d

/-- Writes values as digits, different ones as different digits. -/
structure Numeral {β : Type} (write : β → String) : Prop where
  digits : ∀ x, ∀ c ∈ (write x).toList, ∃ d < 16, c = digit d
  inj : ∀ x y, write x = write y → x = y

/-- Where a numeral ends: the characters before the first that is no digit. -/
theorem digits_append_inj {u v r s : List Char} {c d : Char}
    (hu : ∀ x ∈ u, ∃ k < 16, x = digit k) (hv : ∀ x ∈ v, ∃ k < 16, x = digit k)
    (hc : ∀ k < 16, c ≠ digit k) (hd : ∀ k < 16, d ≠ digit k)
    (h : u ++ c :: r = v ++ d :: s) : u = v ∧ c :: r = d :: s := by
  induction u generalizing v with
  | nil =>
    cases v with
    | nil => exact ⟨rfl, h⟩
    | cons y v =>
      obtain ⟨k, hk, hy⟩ := hv y List.mem_cons_self
      exact absurd ((List.cons.inj h).1.trans hy) (hc k hk)
  | cons x u ih =>
    cases v with
    | nil =>
      obtain ⟨k, hk, hx⟩ := hu x List.mem_cons_self
      exact absurd ((List.cons.inj h).1.symm.trans hx) (hd k hk)
    | cons y v =>
      obtain ⟨rfl, htail⟩ := List.cons.inj h
      obtain ⟨rfl, hrest⟩ := ih (fun z hz => hu z (List.mem_cons_of_mem x hz))
        (fun z hz => hv z (List.mem_cons_of_mem x hz)) htail
      exact ⟨rfl, hrest⟩

section Cancel

variable {β : Type} {ps qs : List String}

theorem join_cancel {p : String} (h : String.join (p :: ps) = String.join (p :: qs)) :
    String.join ps = String.join qs := by
  rw [String.join_cons, String.join_cons] at h
  exact String.append_right_inj p |>.mp h

theorem join_append_cancel {rs : List String}
    (h : String.join (rs ++ ps) = String.join (rs ++ qs)) : String.join ps = String.join qs := by
  rw [String.join_append, String.join_append] at h
  exact String.append_right_inj _ |>.mp h

theorem Numeral.join_cancel {write : β → String} (hw : Numeral write) {x y : β} {sep : String}
    (hsep : separates sep = true)
    (h : String.join (write x :: sep :: ps) = String.join (write y :: sep :: qs)) :
    x = y ∧ String.join ps = String.join qs := by
  rw [separates] at hsep
  split at hsep
  · nomatch hsep
  rename_i c cs hcs
  have hc : ∀ d < 16, c ≠ digit d := fun d hd =>
    of_decide_eq_true (List.all_eq_true.mp hsep d (List.mem_range.mpr hd))
  have h := congrArg String.toList h
  simp only [String.join_cons, String.toList_append, hcs, List.cons_append] at h
  obtain ⟨hnum, hrest⟩ := digits_append_inj (hw.digits x) (hw.digits y) hc hc h
  have hrest := List.append_cancel_left (List.cons.inj hrest).2
  exact ⟨hw.inj x y (String.toList_inj.mp hnum), String.toList_inj.mp hrest⟩

end Cancel

section Numerals

theorem numeral_decimal : Numeral decimal where
  digits := every_decimal (P := fun c => ∃ d < 16, c = digit d) fun d hd => ⟨d, hd, rfl⟩
  inj _ _ h := numeral_inj (by decide) (by decide) (String.ofList_injective h)

theorem numeral_hex : Numeral hex where
  digits := every_hex (P := fun c => ∃ d < 16, c = digit d) fun d hd => ⟨d, hd, rfl⟩
  inj _ _ h := numeral_inj (by decide) (by decide) (String.ofList_injective h)

theorem numeral_hexPadded (w : Nat) : Numeral (hexPadded w) where
  digits := every_hexPadded (P := fun c => ∃ d < 16, c = digit d) (fun d hd => ⟨d, hd, rfl⟩) w
  inj _ _ h := padded_inj (by decide) (by decide) (String.ofList_injective h)

theorem hexPieces_cancel {w m n : Nat} {sep : String} {ps qs : List String}
    (hsep : separates sep = true)
    (h : String.join (hexPieces w m ++ sep :: ps) = String.join (hexPieces w n ++ sep :: qs)) :
    m = n ∧ String.join ps = String.join qs := by
  rw [String.join_append, join_hexPieces, String.join_append, join_hexPieces,
    ← String.join_cons, ← String.join_cons] at h
  exact (numeral_hexPadded w).join_cancel hsep h

theorem Numeral.word {write : Nat → String} (h : Numeral write) :
    Numeral fun w : UInt64 => write w.toNat where
  digits w := h.digits w.toNat
  inj _ _ heq := UInt64.toNat_inj.mp (h.inj _ _ heq)

theorem Numeral.byte {write : Nat → String} (h : Numeral write) :
    Numeral fun w : UInt8 => write w.toNat where
  digits w := h.digits w.toNat
  inj _ _ heq := UInt8.toNat_inj.mp (h.inj _ _ heq)

end Numerals

end InterruptCore.Text
