import InterruptCore.Proofs.Text.Characters
import InterruptCore.Text.Utf8
import InterruptCore.Text.Writer

/-! What becomes of a text in a writer. One without limit takes all of it; one with room for `n`
bytes takes the first `n` bytes of a text whose characters take a byte each, and has failed if
there were more. In which pieces the text comes makes no difference. -/
namespace InterruptCore.Text

def Plain : String → Prop := Every fun c => c.utf8Size = 1

instance (s : String) : Decidable (Plain s) :=
  inferInstanceAs (Decidable (Every (fun c => c.utf8Size = 1) s))

theorem utf8_of_plain {s : String} (h : Plain s) :
    utf8 s = s.toList.map fun c => c.val.toUInt8 := by
  unfold utf8
  unfold Plain Every at h
  generalize s.toList = cs at h ⊢
  induction cs with
  | nil => rfl
  | cons c cs ih =>
    rw [List.flatMap_cons, String.utf8EncodeChar_eq_singleton (h c List.mem_cons_self),
      ih fun d hd => h d (List.mem_cons_of_mem c hd)]
    rfl

theorem length_utf8_of_plain {s : String} (h : Plain s) : (utf8 s).length = s.toList.length := by
  rw [utf8_of_plain h, List.length_map]

theorem plain_join {ps : List String} (h : ∀ p ∈ ps, Plain p) : Plain (String.join ps) := by
  intro c hc
  rw [String.toList_join, List.mem_flatMap] at hc
  obtain ⟨p, hp, hc⟩ := hc
  exact h p hp c hc

theorem utf8_take {s : String} (h : Plain s) (n : Nat) :
    utf8 (String.ofList (s.toList.take n)) = (utf8 s).take n := by
  have hhead : Plain (String.ofList (s.toList.take n)) := fun c hc =>
    h c (List.mem_of_mem_take (String.toList_ofList ▸ hc))
  rw [utf8_of_plain hhead, utf8_of_plain h, String.toList_ofList, List.map_take]

namespace Writer

variable {w : Writer}

theorem write_append (w : Writer) (s t : String) : w.write (s ++ t) = (w.write s).write t := by
  rw [write, String.toList_append, List.foldl_append, write, write]

theorem foldl_put_of_failed (h : w.failed = true) (cs : List Char) : cs.foldl put w = w := by
  induction cs with
  | nil => rfl
  | cons c cs ih => rw [List.foldl_cons, put, if_pos h, ih]

/-- In pieces or in one, a text has the same effect; once the writer fails it takes no more. -/
theorem writeAll_outlet (h : w.failed = false) (ps : List String) :
    outlet.writeAll w ps =
      (w.write (String.join ps), !(w.write (String.join ps)).failed) := by
  induction ps generalizing w with
  | nil => simp [Outlet.writeAll, write, h]
  | cons p ps ih =>
    have hstep : outlet.write w p = (w.write p, !(w.write p).failed) := rfl
    rw [Outlet.writeAll, hstep, String.join_cons, write_append]
    cases hp : (w.write p).failed with
    | false => exact ih hp
    | true =>
      have hrest : (w.write p).write (String.join ps) = w.write p := foldl_put_of_failed hp _
      simp [hrest, hp]

theorem write_unlimited (s : String) :
    (withRoom none).write s = ⟨none, false, s.toList⟩ := by
  have hfold : ∀ cs taken : List Char,
      cs.foldl put ⟨none, false, taken⟩ = ⟨none, false, taken ++ cs⟩ := by
    intro cs
    induction cs with
    | nil => simp
    | cons c cs ih =>
      intro taken
      have hput : put ⟨none, false, taken⟩ c = ⟨none, false, taken ++ [c]⟩ := rfl
      rw [List.foldl_cons, hput, ih, List.append_assoc, List.singleton_append]
  exact hfold s.toList []

theorem write_limited {s : String} (hs : Plain s) (n : Nat) :
    (withRoom (some n)).write s =
      ⟨some (n - s.toList.length), decide (n < s.toList.length), s.toList.take n⟩ := by
  have hfold : ∀ cs : List Char, (∀ c ∈ cs, c.utf8Size = 1) → ∀ n taken,
      cs.foldl put ⟨some n, false, taken⟩ =
        ⟨some (n - cs.length), decide (n < cs.length), taken ++ cs.take n⟩ := by
    intro cs
    induction cs with
    | nil => simp
    | cons c cs ih =>
      intro hcs n taken
      have hc : c.utf8Size = 1 := hcs c List.mem_cons_self
      cases n with
      | zero =>
        have hput : put ⟨some 0, false, taken⟩ c = ⟨some 0, true, taken⟩ := by
          simp [put, hc]
        rw [List.foldl_cons, hput, foldl_put_of_failed rfl]
        simp
      | succ n =>
        have hput : put ⟨some (n + 1), false, taken⟩ c = ⟨some n, false, taken ++ [c]⟩ := by
          simp [put, hc]
        rw [List.foldl_cons, hput, ih fun d hd => hcs d (List.mem_cons_of_mem c hd)]
        simp
  exact hfold s.toList hs n []

/-- One writer has the bytes that another has, as far as `n` bytes reach. -/
def Truncates (n : Nat) (part whole : Writer) : Prop :=
  utf8 part.text = (utf8 whole.text).take (min n (utf8 whole.text).length)

variable {ps : List String}

theorem writeAll_unlimited (ps : List String) :
    outlet.writeAll (withRoom none) ps = (⟨none, false, (String.join ps).toList⟩, true) := by
  rw [writeAll_outlet rfl, write_unlimited]
  rfl

theorem text_unlimited (ps : List String) :
    (outlet.writeAll (withRoom none) ps).1.text = String.join ps := by
  rw [writeAll_unlimited, text, String.ofList_toList]

theorem truncates_unlimited (h : ∀ p ∈ ps, Plain p) (n : Nat) :
    Truncates n (outlet.writeAll (withRoom (some n)) ps).1
      (outlet.writeAll (withRoom none) ps).1 := by
  have hjoin := plain_join h
  have hpart : (outlet.writeAll (withRoom (some n)) ps).1.text =
      String.ofList ((String.join ps).toList.take n) := by
    rw [writeAll_outlet rfl, write_limited hjoin, text]
  rw [Truncates, text_unlimited, hpart, utf8_take hjoin, ← List.take_eq_take_min]

theorem taken_iff_fits (h : ∀ p ∈ ps, Plain p) (n : Nat) :
    (outlet.writeAll (withRoom (some n)) ps).2 = true ↔ (utf8 (String.join ps)).length ≤ n := by
  rw [writeAll_outlet rfl, write_limited (plain_join h), length_utf8_of_plain (plain_join h)]
  simp

end Writer

end InterruptCore.Text
