import InterruptCore.Fault
import InterruptCore.Proofs.Text.Characters

/-! The pieces of dumps and reports: phrases that stand in every one of them, numerals, and names
out of a table. What holds of each kind of piece holds of all that is written. -/
namespace InterruptCore

namespace Text

theorem mem_intercalate {α : Type} {x : α} {sep : List α} {xs : List (List α)}
    (h : x ∈ sep.intercalate xs) : x ∈ sep ∨ ∃ ys ∈ xs, x ∈ ys := by
  induction xs with
  | nil => exact absurd h List.not_mem_nil
  | cons ys xs ih =>
    cases xs with
    | nil => exact Or.inr ⟨ys, List.mem_cons_self, by rwa [List.intercalate_singleton] at h⟩
    | cons zs xs =>
      rw [List.intercalate_cons_cons, List.mem_append, List.mem_append] at h
      rcases h with (h | h) | h
      · exact Or.inr ⟨ys, List.mem_cons_self, h⟩
      · exact Or.inl h
      · rcases ih h with h | ⟨ws, hws, h⟩
        · exact Or.inl h
        · exact Or.inr ⟨ws, List.mem_cons_of_mem ys hws, h⟩

/-- Holds of the pieces that are worked out: numerals, and names that are looked up. -/
structure Computed (Q : String → Prop) : Prop where
  decimal : ∀ n, Q (decimal n)
  hex : ∀ n, Q (hex n)
  zero : Q "0"
  name : ∀ v, Q (Exception.name v)

variable {Q : String → Prop}

theorem Computed.hexPieces (hq : Computed Q) (w n : Nat) : ∀ p ∈ hexPieces w n, Q p := by
  intro p hp
  rcases List.mem_append.mp hp with hp | hp
  · exact List.eq_of_mem_replicate hp ▸ hq.zero
  · exact List.mem_singleton.mp hp ▸ hq.hex n

theorem Computed.flagNames (hq : Computed Q) {f : FlagNames}
    (hmark : ∀ p ∈ [f.title, "(", "0x", " | ", ")"] ++ f.bits.map (·.2), Q p) (w : Nat) :
    ∀ p ∈ f.pieces w, Q p := by
  have hparts : ∀ ps ∈ f.parts w, ∀ p ∈ ps, Q p := by
    intro ps hps p hp
    simp only [FlagNames.parts, List.mem_append, List.mem_map, List.mem_filter] at hps
    rcases hps with ⟨b, ⟨hb, -⟩, rfl⟩ | hps
    · rw [List.mem_singleton.mp hp]
      exact hmark b.2 (List.mem_append_right _ (List.mem_map_of_mem hb))
    · split at hps
      · exact absurd hps List.not_mem_nil
      · obtain rfl := List.mem_singleton.mp hps
        rcases List.mem_cons.mp hp with rfl | hp
        · exact hmark "0x" (by simp)
        · exact List.mem_singleton.mp hp ▸ hq.hex _
  have hset : ∀ p ∈ (if w = 0 then ["0x", "0"] else [" | "].intercalate (f.parts w)), Q p := by
    intro p hp
    split at hp
    · simp only [List.mem_cons, List.not_mem_nil, or_false] at hp
      rcases hp with rfl | rfl
      · exact hmark "0x" (by simp)
      · exact hq.zero
    · rcases mem_intercalate hp with hp | ⟨ps, hps, hp⟩
      · exact List.mem_singleton.mp hp ▸ hmark " | " (by simp)
      · exact hparts ps hps p hp
  simp only [FlagNames.pieces, List.forall_mem_append, List.forall_mem_cons, List.not_mem_nil,
    IsEmpty.forall_iff, implies_true, and_true]
  exact ⟨⟨⟨hmark f.title (by simp), hmark "(" (by simp)⟩, hset⟩, hmark ")" (by simp)⟩

end Text

open Text

variable {Q : String → Prop}

namespace Context

/-- What stands in dumps whatever the context is. -/
def phrases : List String :=
  ["=== INTERRUPT FRAME DUMP ===\n", "Vector: ", " (", ") Error Code: 0x", "\n", "RIP: 0x",
    "  CS: 0x", "  RFLAGS: 0x", "RSP: 0x", "  SS: 0x", "RAX: 0x", "  RBX: 0x", "  RCX: 0x",
    "RDX: 0x", "  RSI: 0x", "  RDI: 0x", "RBP: 0x", "  R8 : 0x", "  R9 : 0x", "R10: 0x",
    "  R11: 0x", "  R12: 0x", "R13: 0x", "  R14: 0x", "  R15: 0x", "Flags:", " ", "CF", "PF", "AF",
    "ZF", "SF", "TF", "IF", "DF", "OF", "=== END INTERRUPT FRAME DUMP ===\n"]

section

variable (hq : Computed Q) (hphrase : ∀ p ∈ phrases, Q p)
include hphrase

theorem forall_mem_flagPieces (rflags : UInt64) : ∀ p ∈ flagPieces rflags, Q p := by
  have hname : ∀ f ∈ statusFlags, f.2 ∈ phrases := by decide
  intro p hp
  obtain ⟨f, hf, hp⟩ := List.mem_flatMap.mp hp
  split at hp
  · rcases List.mem_cons.mp hp with rfl | hp
    · exact hphrase " " (by decide)
    · exact List.mem_singleton.mp hp ▸ hphrase f.2 (hname f hf)
  · exact absurd hp List.not_mem_nil

include hq

theorem forall_mem_codeRow (f : Frame) : ∀ p ∈ codeRow f, Q p := by
  simp only [codeRow, List.forall_mem_append, List.forall_mem_cons, List.not_mem_nil,
    IsEmpty.forall_iff, implies_true, and_true]
  exact ⟨⟨⟨⟨hphrase _ (by decide), hq.hexPieces 16 f.rip.toNat⟩, hphrase _ (by decide)⟩,
    hq.hexPieces 4 f.cs.toNat⟩, hphrase _ (by decide), hq.hex f.rflags.toNat,
    hphrase _ (by decide)⟩

theorem forall_mem_stackRow (f : Frame) : ∀ p ∈ stackRow f, Q p := by
  simp only [stackRow, List.forall_mem_append, List.forall_mem_singleton]
  exact ⟨⟨⟨⟨hphrase _ (by decide), hq.hexPieces 16 f.rsp.toNat⟩, hphrase _ (by decide)⟩,
    hq.hexPieces 4 f.ss.toNat⟩, hphrase _ (by decide)⟩

theorem forall_mem_row {a b c : String} (ha : a ++ ": 0x" ∈ phrases)
    (hb : "  " ++ b ++ ": 0x" ∈ phrases) (hc : "  " ++ c ++ ": 0x" ∈ phrases) (x y z : UInt64) :
    ∀ p ∈ row (a, x) (b, y) (c, z), Q p := by
  have hword (w : UInt64) : ∀ p ∈ wide w, Q p := hq.hexPieces 16 w.toNat
  simp only [row, List.forall_mem_append, List.forall_mem_singleton]
  exact ⟨⟨⟨⟨⟨⟨hphrase _ ha, hword x⟩, hphrase _ hb⟩, hword y⟩, hphrase _ hc⟩, hword z⟩,
    hphrase "\n" (by decide)⟩

theorem forall_mem_dump (c : Context) : ∀ p ∈ c.dump, Q p := by
  have hhead : ∀ p ∈ ["Vector: ", decimal c.vectorWord.toNat, " (", Exception.name c.vector,
      ") Error Code: 0x", hex c.errorCode.toNat, "\n"], Q p := by
    simp only [List.forall_mem_cons, List.not_mem_nil, IsEmpty.forall_iff, implies_true, and_true]
    exact ⟨hphrase _ (by decide), hq.decimal _, hphrase _ (by decide), hq.name _,
      hphrase _ (by decide), hq.hex _, hphrase _ (by decide)⟩
  simp only [dump, List.forall_mem_append, List.forall_mem_singleton]
  refine ⟨⟨⟨⟨⟨⟨⟨⟨⟨⟨⟨⟨hphrase _ (by decide), hhead⟩, forall_mem_codeRow hq hphrase c.frame⟩,
    forall_mem_stackRow hq hphrase c.frame⟩, ?_⟩, ?_⟩, ?_⟩, ?_⟩, ?_⟩, hphrase _ (by decide)⟩,
    forall_mem_flagPieces hphrase c.frame.rflags⟩, hphrase _ (by decide)⟩,
    hphrase _ (by decide)⟩
  all_goals exact forall_mem_row hq hphrase (by decide) (by decide) (by decide) _ _ _

end

end Context

namespace Fault

/-- What may stand in a report after its banner, whatever the context is. -/
def phrases : List String :=
  ["EXCEPTION: Vector ", " (", ")\n", "Error code: 0x", "\n", "Selector: external=", "0", "1",
    " table=", "Gdt", "Idt", "Ldt", ") index=", "Faulting address: 0x", "Access: "]
    ++ (["PageFaultErrorCode", "(", "0x", " | ", ")"] ++ Exception.pageFaultNames.bits.map (·.2))
    ++ Context.phrases ++ ["System halted.\n"]

section

variable (hq : Computed Q) (hphrase : ∀ p ∈ phrases, Q p)
include hq hphrase

theorem forall_mem_detail (c : Context) (cr2 : UInt64) : ∀ p ∈ detail c cr2, Q p := by
  have hbit (b : Bool) : Q (if b then "1" else "0") := by
    cases b with
    | false => exact hphrase "0" (by decide)
    | true => exact hphrase "1" (by decide)
  have hkind (t : Exception.SelectorTable) : Q t.name := by
    cases t with
    | gdt => exact hphrase "Gdt" (by decide)
    | idt => exact hphrase "Idt" (by decide)
    | ldt => exact hphrase "Ldt" (by decide)
  have hnames (w : Nat) : ∀ p ∈ Exception.pageFaultNames.pieces w, Q p :=
    hq.flagNames (fun p hp => hphrase p
      (List.mem_append_left _ (List.mem_append_left _ (List.mem_append_right _ hp)))) w
  unfold detail
  cases Exception.ErrorDetail.of c.vector c.errorCode with
  | none => exact List.forall_mem_nil Q
  | selector e =>
    simp only [List.forall_mem_cons, List.not_mem_nil, IsEmpty.forall_iff, implies_true, and_true]
    exact ⟨hphrase _ (by decide), hbit e.external, hphrase _ (by decide), hq.decimal _,
      hphrase _ (by decide), hkind e.tableKind, hphrase _ (by decide), hq.decimal _,
      hphrase _ (by decide)⟩
  | pageFault bits =>
    simp only [List.forall_mem_append, List.forall_mem_singleton]
    exact ⟨⟨⟨⟨⟨hphrase _ (by decide), hq.hexPieces 16 cr2.toNat⟩, hphrase _ (by decide)⟩,
      hphrase _ (by decide)⟩, hnames bits.toNat⟩, hphrase _ (by decide)⟩

theorem forall_mem_tail_report (c : Context) (cr2 : UInt64) : ∀ p ∈ (report c cr2).tail, Q p := by
  have hhead : ∀ p ∈ ["EXCEPTION: Vector ", decimal c.vector.toNat, " (", Exception.name c.vector,
      ")\n", "Error code: 0x", hex c.errorCode.toNat, "\n"], Q p := by
    simp only [List.forall_mem_cons, List.not_mem_nil, IsEmpty.forall_iff, implies_true, and_true]
    exact ⟨hphrase _ (by decide), hq.decimal _, hphrase _ (by decide), hq.name _,
      hphrase _ (by decide), hphrase _ (by decide), hq.hex _, hphrase _ (by decide)⟩
  have hdump := Context.forall_mem_dump hq (fun p hp => hphrase p
    (List.mem_append_left _ (List.mem_append_right _ hp))) c
  have htail : (report c cr2).tail =
      ["EXCEPTION: Vector ", decimal c.vector.toNat, " (", Exception.name c.vector, ")\n",
        "Error code: 0x", hex c.errorCode.toNat, "\n"] ++ detail c cr2 ++ c.dump
        ++ ["System halted.\n"] := rfl
  rw [htail, List.forall_mem_append, List.forall_mem_append, List.forall_mem_append,
    List.forall_mem_singleton]
  exact ⟨⟨⟨hhead, forall_mem_detail hq hphrase c cr2⟩, hdump⟩, hphrase _ (by decide)⟩

end

theorem forall_mem_notice (hq : Computed Q)
    (hphrase : ∀ p ∈ ["EXCEPTION: vector ", " (", ") after halt\n"], Q p) (c : Context) :
    ∀ p ∈ notice c, Q p := by
  simp only [notice, List.forall_mem_cons, List.not_mem_nil, IsEmpty.forall_iff, implies_true,
    and_true]
  exact ⟨hphrase _ (by decide), hq.decimal _, hphrase _ (by decide), hq.name _,
    hphrase _ (by decide)⟩

end Fault
end InterruptCore
