import InterruptCore.Proofs.Fault.Phrases
import InterruptCore.Proofs.Text.Room

/-! Output errors. A report, the line after a halt and a dump are written up to the first byte
that does not fit, wherever in them that is, and the fault handler does not notice. -/
namespace InterruptCore

open Text

namespace Text

theorem digit_plain : ∀ d < 16, (digit d).utf8Size = 1 := by decide

theorem plain_computed : Computed Plain where
  decimal := every_decimal digit_plain
  hex := every_hex digit_plain
  zero := by decide
  name := Exception.every_name (by decide +kernel)

end Text

theorem Context.plain_dump (c : Context) : ∀ p ∈ c.dump, Plain p :=
  forall_mem_dump plain_computed (by decide) c

namespace Fault

theorem plain_report (c : Context) (cr2 : UInt64) : ∀ p ∈ report c cr2, Plain p := by
  intro p hp
  rcases List.mem_cons.mp hp with rfl | hp
  · decide
  · exact forall_mem_tail_report plain_computed (by decide) c cr2 p hp

theorem plain_notice (c : Context) : ∀ p ∈ notice c, Plain p :=
  forall_mem_notice plain_computed (by decide) c

theorem plain_output (h : Handler) (c : Context) (cr2 : UInt64) :
    ∀ p ∈ h.output c cr2, Plain p := by
  unfold Handler.output
  cases h.state with
  | running => exact plain_report c cr2
  | halted => exact plain_notice c

/-- Whatever the state of the handler, so that its text may be a report or the line after a halt;
and the same for a dump on its own. -/
theorem output_errors_only_truncate (h : Handler) (c : Context) (cr2 : UInt64) (n : Nat) :
    let whole := h.handle c cr2 Writer.outlet (.withRoom none)
    let part := h.handle c cr2 Writer.outlet (.withRoom (some n))
    let dumped := c.dumpTo Writer.outlet (.withRoom none)
    let cut := c.dumpTo Writer.outlet (.withRoom (some n))
    (whole.2.2.text = String.join (h.output c cr2) ∧ Writer.Truncates n part.2.2 whole.2.2 ∧
      part.1 = whole.1 ∧ part.2.1 = whole.2.1) ∧
    (dumped.1.text = String.join c.dump ∧ Writer.Truncates n cut.1 dumped.1 ∧
      (cut.2 = true ↔ (utf8 dumped.1.text).length ≤ n)) := by
  have houtput := plain_output h c cr2
  refine ⟨⟨Writer.text_unlimited _, Writer.truncates_unlimited houtput n, rfl, rfl⟩,
    Writer.text_unlimited _, Writer.truncates_unlimited c.plain_dump n, ?_⟩
  have hdumped : (c.dumpTo Writer.outlet (.withRoom none)).1.text = String.join c.dump :=
    Writer.text_unlimited _
  rw [hdumped]
  exact Writer.taken_iff_fits c.plain_dump n

end Fault

end InterruptCore
