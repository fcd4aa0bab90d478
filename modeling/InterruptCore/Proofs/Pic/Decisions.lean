import InterruptCore.Proofs.Board.Effects

/-! What the mask of a line comes from. Every command decides about a line or leaves it alone, and
the driver masks exactly the lines for which the last decision was to mask them. A line of the
second chip decides about the line that the chip is wired to as well, but only when opened. -/
namespace InterruptCore

open Irq

namespace Pic

namespace Masks

/-- The bit of a line: each chip has eight of them. -/
def covers (m : Masks) (line : UInt8) : Bool :=
  (if line.toNat < 8 then m.master else m.slave).toNat.testBit (line.toNat % 8)

end Masks

/-- What a command decides about a line: whether it is masked from then on. -/
def Command.decides (line : UInt8) : Command → Option Bool
  | .remap m | .setMasks m => some (m.covers line)
  | .disable => some true
  | .maskLine l => if l = line then some true else none
  | .unmaskLine l =>
    if l = line ∨ line = 2 ∧ 8 ≤ l.toNat ∧ l.toNat < 16 then some false else none
  | .endOfInterrupt _ | .readMasks => none

/-- The last decision about a line; before any of them it is masked. -/
def lastDecision (line : UInt8) (cmds : List Command) : Bool :=
  (cmds.filterMap (·.decides line)).getLast?.getD true

theorem lastDecision_concat (line : UInt8) (cmds : List Command) (c : Command) :
    lastDecision line (cmds ++ [c]) = (c.decides line).getD (lastDecision line cmds) := by
  unfold lastDecision
  rw [List.filterMap_append]
  cases hc : c.decides line with
  | none => simp [hc]
  | some masked => simp [hc]

section Bits

variable {l : UInt8} (h : l.toNat < 8)
include h

theorem toNat_bit : (Masks.bit l).toNat = 1 <<< l.toNat := by
  have hbits : ∀ n < 8, (Masks.bit (UInt8.ofNat n)).toNat = 1 <<< n := by decide
  have hbit := hbits l.toNat h
  rwa [UInt8.ofNat_toNat] at hbit

theorem testBit_or_bit (a : UInt8) (i : Nat) :
    (a ||| Masks.bit l).toNat.testBit i = (l.toNat = i || a.toNat.testBit i) := by
  rw [UInt8.toNat_or, Nat.testBit_or, toNat_bit h, Nat.one_shiftLeft, Nat.testBit_two_pow,
    Bool.or_comm]

theorem testBit_and_not_bit (a : UInt8) {i : Nat} (hi : i < 8) :
    (a &&& ~~~Masks.bit l).toNat.testBit i = (l.toNat ≠ i && a.toNat.testBit i) := by
  have hlt : 2 ^ l.toNat < 2 ^ 8 := Nat.pow_lt_pow_right (by decide) h
  have hnot : (~~~Masks.bit l).toNat = 2 ^ 8 - (2 ^ l.toNat + 1) := by
    rw [UInt8.toNat_not, toNat_bit h, Nat.one_shiftLeft, UInt8.size]
    omega
  rw [UInt8.toNat_and, Nat.testBit_and, hnot, Nat.testBit_two_pow_sub_succ hlt,
    Nat.testBit_two_pow, Bool.and_comm]
  simp [hi]

end Bits

namespace Masks

variable {m : Masks} {l line : UInt8}

theorem toNat_sub_linesPerChip (hhigh : 8 ≤ line.toNat) :
    (line - linesPerChip).toNat = line.toNat - 8 := UInt8.toNat_sub_of_le _ _ hhigh

theorem covers_of_lt (hlow : line.toNat < 8) :
    m.covers line = m.master.toNat.testBit line.toNat := by
  rw [covers, if_pos hlow, Nat.mod_eq_of_lt hlow]

theorem covers_of_le (hhigh : 8 ≤ line.toNat) (hline : line.toNat < 16) :
    m.covers line = m.slave.toNat.testBit (line.toNat - 8) := by
  have hmod : line.toNat % 8 = line.toNat - 8 := by omega
  rw [covers, if_neg (Nat.not_lt.mpr hhigh), hmod]

theorem isMasked_eq (hline : line.toNat < 16) : m.isMasked line = .ok (m.covers line) := by
  rw [isMasked]
  by_cases hlow : line.toNat < 8
  · have hchip : line < linesPerChip := hlow
    rw [if_pos hchip, covers_of_lt hlow]
  · have hhigh : 8 ≤ line.toNat := Nat.not_lt.mp hlow
    have hchip : ¬ line < linesPerChip := hlow
    have hsub := toNat_sub_linesPerChip hhigh
    have hwithin : line - linesPerChip < 8 := by
      rw [UInt8.lt_iff_toNat_lt, hsub]
      change line.toNat - 8 < 8
      omega
    rw [if_neg hchip, if_pos hwithin, hsub, covers_of_le hhigh hline]

theorem covers_allMasked (hline : line.toNat < 16) : allMasked.covers line = true := by
  have hbits : ∀ n < 16, allMasked.covers (UInt8.ofNat n) = true := by decide
  have hbit := hbits line.toNat hline
  rwa [UInt8.ofNat_toNat] at hbit

theorem covers_mask (hl : l.toNat < 16) (hline : line.toNat < 16) :
    (m.mask l).covers line = (l = line || m.covers line) := by
  rw [mask]
  by_cases hlow : l.toNat < 8
  · rw [if_pos (show l < linesPerChip from hlow)]
    by_cases hlow' : line.toNat < 8
    · simp only [covers_of_lt hlow', testBit_or_bit hlow, UInt8.toNat_inj]
    · have hne : l ≠ line := fun h => hlow' (h ▸ hlow)
      simp only [covers_of_le (Nat.not_lt.mp hlow') hline, hne, decide_false, Bool.false_or]
  · have hhigh : 8 ≤ l.toNat := Nat.not_lt.mp hlow
    have hsub := toNat_sub_linesPerChip hhigh
    have hplace : (l - linesPerChip).toNat < 8 := by omega
    rw [if_neg (show ¬ l < linesPerChip from hlow)]
    by_cases hlow' : line.toNat < 8
    · have hne : l ≠ line := fun h => hlow (h ▸ hlow')
      simp only [covers_of_lt hlow', hne, decide_false, Bool.false_or]
    · have hhigh' : 8 ≤ line.toNat := Nat.not_lt.mp hlow'
      have hsame : l.toNat - 8 = line.toNat - 8 ↔ l = line := by
        rw [← UInt8.toNat_inj]
        omega
      simp only [covers_of_le hhigh' hline, testBit_or_bit hplace, hsub, hsame]

/-- Opening a line of the second chip opens line 2 as well, and no other. -/
theorem covers_unmask (hl : l.toNat < 16) (hline : line.toNat < 16) :
    (m.unmask l).covers line = (¬ (l = line ∨ line = 2 ∧ 8 ≤ l.toNat) && m.covers line) := by
  -- Each of the two lines is on the first chip or on the second; line 2 is on the first.
  rw [unmask]
  by_cases hlow : l.toNat < 8
  · have hnot : ¬ 8 ≤ l.toNat := Nat.not_le.mpr hlow
    rw [if_pos (show l < linesPerChip from hlow)]
    by_cases hlow' : line.toNat < 8
    · simp only [covers_of_lt hlow', testBit_and_not_bit hlow _ hlow', ne_eq, UInt8.toNat_inj, hnot,
        and_false, or_false]
    · have hne : l ≠ line := fun h => hlow' (h ▸ hlow)
      simp only [covers_of_le (Nat.not_lt.mp hlow') hline, hne, hnot, and_false, or_false,
        not_false_eq_true, decide_true, Bool.true_and]
  · have hhigh : 8 ≤ l.toNat := Nat.not_lt.mp hlow
    have hsub := toNat_sub_linesPerChip hhigh
    have hplace : (l - linesPerChip).toNat < 8 := by omega
    rw [if_neg (show ¬ l < linesPerChip from hlow)]
    by_cases hlow' : line.toNat < 8
    · have hne : l ≠ line := fun h => hlow (h ▸ hlow')
      have hcascade : cascadeLine.toNat = line.toNat ↔ line = 2 := by
        rw [UInt8.toNat_inj, eq_comm, cascadeLine]
      have hopens := testBit_and_not_bit (l := cascadeLine) (by decide) m.master hlow'
      rw [covers_of_lt hlow', hopens, covers_of_lt hlow']
      simp only [ne_eq, hcascade, hne, hhigh, and_true, false_or]
    · have hhigh' : 8 ≤ line.toNat := Nat.not_lt.mp hlow'
      have hcascade : line ≠ 2 := by
        rintro rfl
        exact absurd hhigh' (by decide)
      have hsame : l.toNat - 8 = line.toNat - 8 ↔ l = line := by
        rw [← UInt8.toNat_inj]
        omega
      have hbit : line.toNat - 8 < 8 := by omega
      simp only [covers_of_le hhigh' hline, testBit_and_not_bit hplace _ hbit, hsub, ne_eq, hsame,
        hcascade, false_and, or_false]

end Masks

section Step

variable {line : UInt8} {cmds : List Command} {d : Driver} {c : Command}

/-- A command that passes the check masks a line as it decides, and keeps the others. -/
theorem covers_next (hc : Driver.check c = .ok ()) (hline : line.toNat < 16) :
    (d.next c).masks.covers line = (c.decides line).getD (d.masks.covers line) := by
  have hexists : ∀ {l : UInt8}, checkLine l = .ok () → l.toNat < 16 := by
    intro l hl
    rw [checkLine] at hl
    split at hl
    · assumption
    · cases hl
  cases c with
  | remap m => rfl
  | setMasks m => rfl
  | disable => exact Masks.covers_allMasked hline
  | endOfInterrupt l => rfl
  | readMasks => rfl
  | maskLine l =>
    change (d.masks.mask l).covers line = _
    rw [Masks.covers_mask (hexists hc) hline, Command.decides]
    by_cases hsame : l = line <;> simp [hsame]
  | unmaskLine l =>
    have hl := hexists hc
    change (d.masks.unmask l).covers line = _
    rw [Masks.covers_unmask hl hline, Command.decides]
    by_cases hopens : l = line ∨ line = 2 ∧ 8 ≤ l.toNat <;> simp [hopens, hl]

theorem decides_of_refused {e : LineError} (hc : Driver.check c = .error e)
    (hline : line.toNat < 16) : c.decides line = none := by
  have hexists : ∀ {l : UInt8}, checkLine l = .error e → ¬ l.toNat < 16 := by
    intro l hl hlt
    rw [checkLine, if_pos (show l.toNat < irqLines from hlt)] at hl
    cases hl
  cases c with
  | maskLine l =>
    have hne : l ≠ line := fun h => hexists hc (h ▸ hline)
    exact if_neg hne
  | unmaskLine l =>
    have hl := hexists hc
    have hne : l ≠ line := fun h => hl (h ▸ hline)
    exact if_neg (by simp [hne, hl])
  | _ => cases hc

end Step

end Pic

namespace Board

open Pic

variable {b : Board} {line : UInt8} {cmds : List Command}

def Decided (cmds : List Command) (b : Board) : Prop :=
  ∀ line : UInt8, line.toNat < 16 → b.pic.masks.covers line = lastDecision line cmds

theorem decided_fresh (hb : b.pic = {}) : Decided [] b := by
  intro line hline
  rw [hb]
  exact Masks.covers_allMasked hline

theorem decided_command (drivers : Drivers) (h : Decided cmds b) (c : Command) :
    Decided (cmds ++ [c]) (next drivers b (.command c)) := by
  intro line hline
  have hnext : next drivers b (.command c) = ((command c).run b).2 := rfl
  rw [lastDecision_concat, ← h line hline, hnext]
  cases hc : Driver.check c with
  | error e =>
    rw [run_command_refused hc, decides_of_refused hc hline]
    rfl
  | ok _ =>
    rw [run_command hc]
    exact covers_next hc hline

theorem decided_run (drivers : Drivers) {earlier : List Command} (h : Decided earlier b)
    (cmds : List Command) : Decided (earlier ++ cmds) (run drivers b (cmds.map .command)) := by
  induction cmds generalizing b earlier with
  | nil =>
    rw [List.append_nil]
    exact h
  | cons c cmds ih =>
    have hrest := ih (decided_command drivers h c)
    rw [List.append_assoc] at hrest
    exact hrest

theorem command_refused {c : Command} (hc : c = .maskLine line ∨ c = .unmaskLine line)
    (hline : 16 ≤ line.toNat) (b : Board) :
    (command c).run b = (.error (.outOfRange line), b) := by
  have hcheck : Driver.check c = .error (.outOfRange line) := by
    have hrefused : checkLine line = .error (.outOfRange line) := if_neg (Nat.not_lt.mpr hline)
    rcases hc with rfl | rfl <;> exact hrefused
  exact run_command_refused hcheck b

/-- The masks after any commands to a fresh driver: a line is masked if and only if the last
command that decided about it masked it, or none did. A line of the second chip that is opened
leaves neither itself nor its cascade masked; a line that there is not is refused, without a
transfer and without a change. -/
theorem masks_follow_last_decision (drivers : Drivers) (b : Board) (hb : b.pic = {})
    (cmds : List Command) :
    let t := run drivers b (cmds.map .command)
    (∀ line : UInt8, line.toNat < 16 →
      t.pic.masks.isMasked line = .ok (lastDecision line cmds)) ∧
    (∀ line : UInt8, 8 ≤ line.toNat → line.toNat < 16 →
      let (reply, u) := (command (.unmaskLine line)).run t
      reply = .ok [] ∧ u.pic.masks.isMasked line = .ok false ∧
        u.pic.masks.isMasked 2 = .ok false) ∧
    ∀ line : UInt8, 16 ≤ line.toNat →
      (command (.maskLine line)).run t = (.error (.outOfRange line), t) ∧
      (command (.unmaskLine line)).run t = (.error (.outOfRange line), t) := by
  intro t
  have hdecided : Decided cmds t := decided_run drivers (decided_fresh hb) cmds
  refine ⟨?_, ?_, ?_⟩
  · intro line hline
    rw [Masks.isMasked_eq hline, hdecided line hline]
  · intro line hhigh hline
    have hcheck : Driver.check (.unmaskLine line) = .ok () := if_pos hline
    have hopened := decided_command drivers hdecided (.unmaskLine line)
    have hreply : ((command (.unmaskLine line)).run t).1 = .ok [] := by
      rw [run_command hcheck]
      rfl
    have hmask : ∀ l : UInt8, l.toNat < 16 → l = line ∨ l = 2 →
        ((command (.unmaskLine line)).run t).2.pic.masks.isMasked l = .ok false := by
      intro l hl hwhich
      have hdecides : (Command.unmaskLine line).decides l = some false := by
        apply if_pos
        rcases hwhich with rfl | rfl
        · exact .inl rfl
        · exact .inr ⟨rfl, hhigh, hline⟩
      have hlast := hopened l hl
      rw [lastDecision_concat, hdecides] at hlast
      rw [Masks.isMasked_eq hl]
      exact congrArg Except.ok hlast
    exact ⟨hreply, hmask line hline (.inl rfl), hmask 2 (by decide) (.inr rfl)⟩
  · intro line hline
    exact ⟨command_refused (.inl rfl) hline t, command_refused (.inr rfl) hline t⟩

/-- Line 2 is masked, opened with line 12, and stays open when line 12 is masked again; line 16
changes nothing. -/
theorem masks_follow_last_decision_cascade :
    let cmds : List Command := [.remap Masks.standard, .maskLine 2, .unmaskLine 12, .maskLine 0,
      .maskLine 12, .endOfInterrupt 12, .maskLine 16]
    let t := run notingDrivers {} (cmds.map .command)
    ({} : Board).pic = {} ∧ t.pic.masks = ⟨0xf9, 0xff⟩ ∧
      t.pic.masks.isMasked 0 = .ok true ∧ t.pic.masks.isMasked 1 = .ok false ∧
      t.pic.masks.isMasked 2 = .ok false ∧ t.pic.masks.isMasked 12 = .ok true ∧
      (command (.unmaskLine 16)).run t = (.error (.outOfRange 16), t) := by
  intro cmds t
  obtain ⟨hmasks, -, hrefused⟩ := masks_follow_last_decision notingDrivers {} rfl cmds
  have hline : ∀ l : UInt8, l.toNat < 16 →
      t.pic.masks.isMasked l = .ok (lastDecision l cmds) := hmasks
  refine ⟨rfl, by decide, ?_, ?_, ?_, ?_, (hrefused 16 (by decide)).2⟩
  · exact (hline 0 (by decide)).trans (congrArg Except.ok (by decide))
  · exact (hline 1 (by decide)).trans (congrArg Except.ok (by decide))
  · exact (hline 2 (by decide)).trans (congrArg Except.ok (by decide))
  · exact (hline 12 (by decide)).trans (congrArg Except.ok (by decide))

end Board

end InterruptCore
