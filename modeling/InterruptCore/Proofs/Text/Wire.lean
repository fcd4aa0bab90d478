import InterruptCore.Kernel.Console
import InterruptCore.Proofs.Fault.Phrases

/-! Which bytes a text sends. A byte below 128 comes from the character of that number alone, so
that a text without an equals sign cannot hold the beginning of a banner. -/
namespace InterruptCore.Text

theorem toNat_of_mem_utf8EncodeChar {b : UInt8} {c : Char} (hb : b.toNat < 128)
    (h : b ∈ String.utf8EncodeChar c) : c.toNat = b.toNat := by
  have hlow : ∀ n, 128 ≤ n → n < 256 → b ≠ UInt8.ofNat n := by
    rintro n hn hn' rfl
    rw [UInt8.toNat_ofNat_of_lt' hn'] at hb
    omega
  unfold String.utf8EncodeChar at h
  simp only at h
  split at h
  · rw [List.mem_singleton] at h
    rw [h, UInt8.toNat_ofNat_of_lt' (show c.val.toNat < 256 by omega)]
    rfl
  split at h
  · simp only [List.mem_cons, List.not_mem_nil, or_false] at h
    rcases h with h | h
    · exact absurd h (hlow _ (by omega) (by omega))
    · exact absurd h (hlow _ (by omega) (by omega))
  split at h
  · simp only [List.mem_cons, List.not_mem_nil, or_false] at h
    rcases h with h | h | h
    · exact absurd h (hlow _ (by omega) (by omega))
    · exact absurd h (hlow _ (by omega) (by omega))
    · exact absurd h (hlow _ (by omega) (by omega))
  · simp only [List.mem_cons, List.not_mem_nil, or_false] at h
    rcases h with h | h | h | h
    · exact absurd h (hlow _ (by omega) (by omega))
    · exact absurd h (hlow _ (by omega) (by omega))
    · exact absurd h (hlow _ (by omega) (by omega))
    · exact absurd h (hlow _ (by omega) (by omega))

/-- A byte below 128 is a character's own, or the carriage return before a line feed. -/
theorem exists_char_of_mem_wire {b : UInt8} {s : String} (hlow : b.toNat < 128) (hreturn : b ≠ 13)
    (h : b ∈ Kernel.Console.wire s) : ∃ c ∈ s.toList, c.toNat = b.toNat := by
  obtain ⟨a, ha, hb⟩ := List.mem_flatMap.mp h
  have hsame : b = a := by
    split at hb
    · simpa [hreturn] using hb
    · simpa using hb
  subst hsame
  obtain ⟨c, hc, hbyte⟩ := List.mem_flatMap.mp ha
  exact ⟨c, hc, toNat_of_mem_utf8EncodeChar hlow hbyte⟩

theorem not_mem_wire {b : UInt8} {s : String} (hlow : b.toNat < 128) (hreturn : b ≠ 13)
    (h : Every (fun c => c.toNat ≠ b.toNat) s) : b ∉ Kernel.Console.wire s := by
  intro hb
  obtain ⟨c, hc, hnum⟩ := exists_char_of_mem_wire hlow hreturn hb
  exact h c hc hnum

theorem equals_mem_of_mem_wire {s : String} (h : 61 ∈ Kernel.Console.wire s) :
    '=' ∈ s.toList := by
  obtain ⟨c, hc, hnum⟩ := exists_char_of_mem_wire (by decide) (by decide) h
  have hchar : c = '=' := Char.toNat_inj.mp hnum
  exact hchar ▸ hc

theorem digit_ne_equals : ∀ d < 16, digit d ≠ '=' := by decide

/-- The pieces with an equals sign that can follow a banner. -/
def ruled : List String :=
  ["=== INTERRUPT FRAME DUMP ===\n", "=== END INTERRUPT FRAME DUMP ===\n", "Selector: external=",
    " table=", ") index="]

theorem not_mem_of_every {s : String} (h : Every (· ≠ '=') s) : '=' ∉ s.toList :=
  fun hc => h '=' hc rfl

theorem computed_not_mem : Computed fun p => '=' ∉ p.toList where
  decimal n := not_mem_of_every (every_decimal digit_ne_equals n)
  hex n := not_mem_of_every (every_hex digit_ne_equals n)
  zero := by decide
  name v := not_mem_of_every (Exception.every_name (by decide +kernel) v)

theorem equals_mem_report (c : Context) (cr2 : UInt64) :
    ∀ p ∈ (Fault.report c cr2).tail, '=' ∉ p.toList ∨ p ∈ ruled :=
  have hcomputed : Computed fun p => '=' ∉ p.toList ∨ p ∈ ruled :=
    { decimal := fun n => .inl (computed_not_mem.decimal n)
      hex := fun n => .inl (computed_not_mem.hex n)
      zero := .inl computed_not_mem.zero
      name := fun v => .inl (computed_not_mem.name v) }
  Fault.forall_mem_tail_report hcomputed (by decide) c cr2

theorem equals_not_mem_notice (c : Context) : ∀ p ∈ Fault.notice c, '=' ∉ p.toList :=
  Fault.forall_mem_notice computed_not_mem (by decide) c

end InterruptCore.Text
