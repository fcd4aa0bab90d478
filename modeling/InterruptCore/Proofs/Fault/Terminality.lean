import InterruptCore.Proofs.Fault.Wording
import InterruptCore.Proofs.Trap.Vector

/-! # Runs of the fault handler

One handler is called again and again, each time with an exception and an outlet of the
caller's choice. The outlets are adversaries: they may refuse any piece, and whether they do
may depend on all that they were given before. -/
namespace InterruptCore

namespace Text.Outlet

variable {σ : Type}

/-- The pieces that reach an outlet when it is to take some pieces in order: all of them, or
all up to the first that it refuses. -/
def offered (o : Outlet σ) (s : σ) : List String → List String
  | [] => []
  | p :: ps => p :: if (o.write s p).2 then o.offered (o.write s p).1 ps else []

variable (o : Outlet σ)

theorem offered_isPrefix (s : σ) (ps : List String) : o.offered s ps <+: ps := by
  induction ps generalizing s with
  | nil => exact List.prefix_refl []
  | cons p ps ih =>
    rw [offered, List.prefix_cons_inj]
    split
    · exact ih _
    · exact List.nil_prefix

theorem offered_eq_of_taken {s : σ} {ps : List String} (ht : (o.writeAll s ps).2 = true) :
    o.offered s ps = ps := by
  induction ps generalizing s with
  | nil => rfl
  | cons p ps ih =>
    cases hw : (o.write s p).2 with
    | false => simp [writeAll, hw] at ht
    | true =>
      simp only [writeAll, hw, if_true] at ht
      rw [offered, hw, if_pos rfl, ih ht]

theorem writeAll_offered (s : σ) (ps : List String) :
    o.writeAll s (o.offered s ps) = o.writeAll s ps := by
  induction ps generalizing s with
  | nil => rfl
  | cons p ps ih =>
    cases hw : (o.write s p).2 with
    | false => simp [offered, writeAll, hw]
    | true => simp [offered, writeAll, hw, ih]

end Text.Outlet

namespace Fault

open Text

theorem join_notice (c : Context) :
    String.join (notice c) = "EXCEPTION: vector " ++ c.vectorWord.toNat.repr ++ " ("
      ++ Exception.name c.vector ++ ") after halt\n" := by
  simp [notice, String.join, decimal_eq_repr]

/-- One call of the handler: an exception, the faulting address, and an outlet as it stands. -/
structure Call (σ : Type) where
  context : Context
  cr2 : UInt64
  outlet : Outlet σ
  start : σ

/-- What a call comes to. -/
structure Answer (σ : Type) where
  returned : State
  handler : Handler
  offered : List String
  left : σ

/-- The call tried to write these pieces, and only the outlet could keep it from doing so. -/
structure Answer.Attempts {σ : Type} (a : Answer σ) (call : Call σ) (pieces : List String) :
    Prop where
  initial : a.offered <+: pieces
  /-- No piece is held back unless one before it was refused. -/
  reached : call.outlet.writeAll call.start a.offered = call.outlet.writeAll call.start pieces
  whole : (call.outlet.writeAll call.start pieces).2 = true → a.offered = pieces
  left : a.left = (call.outlet.writeAll call.start pieces).1

variable {σ : Type}

namespace Handler

def answer (h : Handler) (call : Call σ) : Answer σ :=
  let (returned, after, left) := h.handle call.context call.cr2 call.outlet call.start
  ⟨returned, after, call.outlet.offered call.start (h.output call.context call.cr2), left⟩

def answers : Handler → List (Call σ) → List (Answer σ)
  | _, [] => []
  | h, call :: calls => h.answer call :: (h.answer call).handler.answers calls

variable {h : Handler}

theorem attempts_output (h : Handler) (call : Call σ) :
    (h.answer call).Attempts call (h.output call.context call.cr2) where
  initial := call.outlet.offered_isPrefix _ _
  reached := call.outlet.writeAll_offered _ _
  whole := call.outlet.offered_eq_of_taken
  left := rfl

theorem returned_answer (h : Handler) (call : Call σ) : (h.answer call).returned = .halted :=
  h.state_next call.context

theorem next_of_halted (hh : h.state = .halted) (c : Context) : h.next c = h := by
  rw [next, hh]

theorem output_of_halted (hh : h.state = .halted) (c : Context) (cr2 : UInt64) :
    h.output c cr2 = notice c := by
  rw [output, hh]

/-- A halted handler never changes again, and never reports again. -/
theorem answers_of_halted (hh : h.state = .halted) (calls : List (Call σ)) :
    List.Forall₂ (fun call (a : Answer σ) =>
      a.returned = .halted ∧ a.handler = h ∧ a.Attempts call (notice call.context))
      calls (h.answers calls) := by
  induction calls with
  | nil => exact .nil
  | cons call calls ih =>
    have hsame : (h.answer call).handler = h := next_of_halted hh call.context
    have htext := h.attempts_output call
    rw [output_of_halted hh] at htext
    rw [answers, hsame]
    exact .cons ⟨h.returned_answer call, hsame, htext⟩ ih

/-- The first call decides: it alone is reported, and it leaves the handler as it stays. -/
theorem fresh_halts_for_good (first : Call σ) (later : List (Call σ)) :
    ∃ halted : Handler,
      halted.state = .halted ∧
      (∃ v, halted.vector = some v ∧ v.toNat = first.context.vectorWord.toNat % 256) ∧
      (∀ c : Context, c.vector.toNat = c.vectorWord.toNat % 256 ∧
        String.join (notice c) = "EXCEPTION: vector " ++ c.vectorWord.toNat.repr ++ " ("
          ++ Exception.name c.vector ++ ") after halt\n") ∧
      (∀ (c : Context) (cr2 : UInt64), String.join (report c cr2) = reportWording c cr2) ∧
      ∀ fresh ∈ [({} : Handler), default], ∃ a as,
        fresh.answers (first :: later) = a :: as ∧
        a.returned = .halted ∧ a.handler = halted ∧
        a.Attempts first (report first.context first.cr2) ∧
        List.Forall₂ (fun call (b : Answer σ) =>
          b.returned = .halted ∧ b.handler = halted ∧ b.Attempts call (notice call.context))
          later as := by
  refine ⟨⟨.halted, some first.context.vector⟩, rfl, ⟨_, rfl, first.context.vector_toNat⟩,
    fun c => ⟨c.vector_toNat, join_notice c⟩, join_report, ?_⟩
  intro fresh hf
  obtain rfl : fresh = {} := by
    rcases List.mem_cons.mp hf with rfl | hd
    · rfl
    · exact List.mem_singleton.mp hd
  exact ⟨_, _, rfl, rfl, rfl, attempts_output {} first, answers_of_halted rfl later⟩

example :
    let silent : Outlet Unit := ⟨fun _ _ => ((), false)⟩
    let calls := [0x10e, 6].map fun word => Call.mk { vectorWord := word } 0 silent ()
    (({} : Handler).answers calls).map (fun a => (a.returned, a.handler.vector, a.offered)) =
      [(.halted, some 14, ["\n=== CPU EXCEPTION ===\n"]),
        (.halted, some 14, ["EXCEPTION: vector "])] := rfl

end Handler
end Fault
end InterruptCore
