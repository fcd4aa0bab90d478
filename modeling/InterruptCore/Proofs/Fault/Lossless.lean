import InterruptCore.Machine.Run
import InterruptCore.Proofs.Fault.Terminality
import InterruptCore.Proofs.Text.Fields
import InterruptCore.Proofs.Text.Room

/-! Nothing is lost in a dump or a report. A dump says what all registers were; a report says
that too, and for a page fault the faulting address, on which other reports do not depend. The
texts are read back field by field, from the first to the last. -/
namespace InterruptCore

open Text

namespace Context

variable {c d : Context} {ps qs : List String}

theorem wide_cancel {x y : UInt64} {sep : String} (hsep : separates sep = true)
    (h : String.join (wide x ++ sep :: ps) = String.join (wide y ++ sep :: qs)) :
    x = y ∧ String.join ps = String.join qs :=
  (hexPieces_cancel hsep h).imp_left UInt64.toNat_inj.mp

theorem codeRow_cancel {f g : Frame}
    (h : String.join (codeRow f ++ ps) = String.join (codeRow g ++ qs)) :
    (f.rip = g.rip ∧ f.cs = g.cs ∧ f.rflags = g.rflags) ∧ String.join ps = String.join qs := by
  simp only [codeRow, List.append_assoc] at h
  obtain ⟨hrip, h⟩ := wide_cancel (by decide) (join_cancel h)
  obtain ⟨hcs, h⟩ := hexPieces_cancel (by decide) h
  obtain ⟨hrflags, h⟩ := numeral_hex.word.join_cancel (by decide) h
  exact ⟨⟨hrip, UInt64.toNat_inj.mp hcs, hrflags⟩, h⟩

theorem stackRow_cancel {f g : Frame}
    (h : String.join (stackRow f ++ ps) = String.join (stackRow g ++ qs)) :
    (f.rsp = g.rsp ∧ f.ss = g.ss) ∧ String.join ps = String.join qs := by
  simp only [stackRow, List.append_assoc] at h
  obtain ⟨hrsp, h⟩ := wide_cancel (by decide) (join_cancel h)
  obtain ⟨hss, h⟩ := hexPieces_cancel (by decide) h
  exact ⟨⟨hrsp, UInt64.toNat_inj.mp hss⟩, h⟩

theorem row_cancel {m n p : String} {x y z x' y' z' : UInt64}
    (h : String.join (row (m, x) (n, y) (p, z) ++ ps) =
      String.join (row (m, x') (n, y') (p, z') ++ qs)) :
    (x = x' ∧ y = y' ∧ z = z') ∧ String.join ps = String.join qs := by
  have hsep (s : String) : separates ("  " ++ s ++ ": 0x") = true := by
    simp [separates]
    decide
  simp only [row, List.append_assoc] at h
  obtain ⟨hx, h⟩ := wide_cancel (hsep n) (join_cancel h)
  obtain ⟨hy, h⟩ := wide_cancel (hsep p) h
  obtain ⟨hz, h⟩ := wide_cancel (by decide) h
  exact ⟨⟨hx, hy, hz⟩, h⟩

theorem words_inj (h : c.words = d.words) : c = d := by
  rw [← ofWords_words c [], h, ofWords_words]

theorem dump_cancel (h : String.join (c.dump ++ ps) = String.join (d.dump ++ qs)) :
    c = d ∧ String.join ps = String.join qs := by
  simp only [dump, List.append_assoc] at h
  obtain ⟨hvector, h⟩ := numeral_decimal.word.join_cancel (by decide) (join_cancel (join_cancel h))
  -- The name follows from the number before it, as the flags do from their word.
  have hname : Exception.name c.vector = Exception.name d.vector := by
    rw [vector, hvector, ← vector]
  rw [hname] at h
  obtain ⟨herror, h⟩ := numeral_hex.word.join_cancel (by decide) (join_cancel (join_cancel h))
  obtain ⟨⟨hrip, hcs, hrflags⟩, h⟩ := codeRow_cancel h
  obtain ⟨⟨hrsp, hss⟩, h⟩ := stackRow_cancel h
  obtain ⟨⟨hrax, hrbx, hrcx⟩, h⟩ := row_cancel h
  obtain ⟨⟨hrdx, hrsi, hrdi⟩, h⟩ := row_cancel h
  obtain ⟨⟨hrbp, hr8, hr9⟩, h⟩ := row_cancel h
  obtain ⟨⟨hr10, hr11, hr12⟩, h⟩ := row_cancel h
  obtain ⟨⟨hr13, hr14, hr15⟩, h⟩ := row_cancel h
  rw [hrflags] at h
  have hrest := join_cancel (join_cancel (join_append_cancel (join_cancel h)))
  have hwords : c.words = d.words := by
    simp only [words, General.words, Frame.words, *]
  exact ⟨words_inj hwords, hrest⟩

theorem vector_eq_pageFault_iff :
    c.vector = Exception.pageFault ↔ c.vectorWord.toNat % 256 = 14 := by
  rw [← c.vector_toNat, ← UInt8.toNat_inj]
  rfl

def dumpText (c : Context) : String := (c.dumpTo Writer.outlet (.withRoom none)).1.text

theorem dumpText_eq (c : Context) : c.dumpText = String.join c.dump := Writer.text_unlimited c.dump

end Context

theorem Exception.ErrorDetail.eq_pageFault {v : UInt8} {raw bits : UInt64}
    (h : ErrorDetail.of v raw = .pageFault bits) : v = Exception.pageFault := by
  unfold ErrorDetail.of at h
  split at h
  case h_5 => rfl
  -- Vectors with a selector, and those whose error word says nothing.
  all_goals nomatch h

namespace Fault

variable {c d : Context} {a b : UInt64}

theorem detail_of_pageFault (h : c.vector = Exception.pageFault) (a : UInt64) :
    detail c a = ["Faulting address: 0x"] ++ Context.wide a ++ ["\n"]
      ++ ["Access: "] ++ Exception.pageFaultNames.pieces
        (c.errorCode &&& UInt64.ofNat Exception.pageFaultNames.known).toNat ++ ["\n"] := by
  rw [detail, h]
  rfl

theorem detail_congr (hvector : c.vector = d.vector) (herror : c.errorCode = d.errorCode)
    (h : d.vector ≠ Exception.pageFault) (a b : UInt64) : detail c a = detail d b := by
  rw [detail, detail, hvector, herror]
  cases hdetail : Exception.ErrorDetail.of d.vector d.errorCode with
  | none => rfl
  | selector e => rfl
  | pageFault bits => exact absurd (Exception.ErrorDetail.eq_pageFault hdetail) h

theorem report_congr (h : c.vector ≠ Exception.pageFault) (a b : UInt64) :
    report c a = report c b := by
  rw [report, report, detail_congr rfl rfl h a b]

theorem report_cancel (h : String.join (report c a) = String.join (report d b)) :
    c = d ∧ (c.vector ≠ Exception.pageFault ∨ a = b) := by
  simp only [report, List.append_assoc] at h
  obtain ⟨hvector, h⟩ := numeral_decimal.byte.join_cancel (by decide) (join_cancel (join_cancel h))
  rw [hvector] at h
  obtain ⟨herror, h⟩ :=
    numeral_hex.word.join_cancel (by decide) (join_cancel (join_cancel (join_cancel h)))
  by_cases hpage : d.vector = Exception.pageFault
  · rw [detail_of_pageFault (hvector.trans hpage), detail_of_pageFault hpage, herror] at h
    simp only [List.append_assoc, List.cons_append, List.nil_append] at h
    obtain ⟨haddress, h⟩ := Context.wide_cancel (by decide) (join_cancel h)
    have hdump := join_cancel (join_append_cancel (join_cancel h))
    exact ⟨(Context.dump_cancel hdump).1, Or.inr haddress⟩
  · rw [detail_congr hvector herror hpage a b] at h
    exact ⟨(Context.dump_cancel (join_append_cancel h)).1, Or.inl (hvector ▸ hpage)⟩

/-- What a fresh handler leaves of an exception in a writer that never fails. -/
def reportText (c : Context) (cr2 : UInt64) : String :=
  (({} : Handler).handle c cr2 Writer.outlet (.withRoom none)).2.2.text

theorem reportText_eq (c : Context) (cr2 : UInt64) :
    reportText c cr2 = String.join (report c cr2) := Writer.text_unlimited (report c cr2)

theorem reportText_eq_iff : reportText c a = reportText d b ↔
    c = d ∧ (c.vectorWord.toNat % 256 ≠ 14 ∨ a = b) := by
  rw [reportText_eq, reportText_eq, ne_eq, ← Context.vector_eq_pageFault_iff]
  refine ⟨report_cancel, ?_⟩
  rintro ⟨rfl, hother | rfl⟩
  · rw [report_congr hother a b]
  · rfl

theorem output_congr (h : c.vector ≠ Exception.pageFault) (handler : Handler) (a b : UInt64) :
    handler.output c a = handler.output c b := by
  unfold Handler.output
  rw [report_congr h a b]

open Machine in
/-- What is written with the address that the kernel hands to the handler is what would be
written with the register of the faulting address as it stands. -/
theorem output_faultAddress (take : Taking) (handler : Handler) (c : Context) (m : Machine) :
    (runWith take (Kernel.Traps.faultAddress c) m).bind
        (fun address now => .answered (handler.output c address) now) =
      (runWith take (Kernel.Traps.faultAddress c) m).bind
        (fun _ now => .answered (handler.output c now.cr2) now) := by
  unfold Kernel.Traps.faultAddress
  split
  next hpage =>
    simp only [Program.request, runWith, Outcome.bind_bind]
    congr 1
  next hother =>
    change Outcome.answered (handler.output c 0) m = .answered (handler.output c m.cr2) m
    rw [output_congr hother handler 0 m.cr2]

open Machine in
/-- Dumps tell all contexts apart. Reports do so too, and tell the addresses of page faults apart
but no others, so that it makes no difference that the kernel reads only those. -/
theorem dumps_and_reports_lose_nothing :
    (∀ c d : Context, c.dumpText = d.dumpText ↔ c = d) ∧
    (∀ (c d : Context) (a b : UInt64), reportText c a = reportText d b ↔
      c = d ∧ (c.vectorWord.toNat % 256 ≠ 14 ∨ a = b)) ∧
    (∀ (take : Taking) (handler : Handler) (c : Context) (m : Machine),
      (runWith take (Kernel.Traps.faultAddress c) m).bind
          (fun address now => .answered (handler.output c address) now) =
        (runWith take (Kernel.Traps.faultAddress c) m).bind
          (fun _ now => .answered (handler.output c now.cr2) now)) := by
  refine ⟨fun c d => ⟨fun h => ?_, congrArg _⟩, fun _ _ _ _ => reportText_eq_iff,
    output_faultAddress⟩
  have hjoin : String.join (c.dump ++ []) = String.join (d.dump ++ []) := by
    rw [List.append_nil, List.append_nil, ← c.dumpText_eq, ← d.dumpText_eq, h]
  exact (Context.dump_cancel hjoin).1

end Fault

end InterruptCore
