import InterruptCore.Proofs.Machine.Terms

/-! Programs that leave interrupts disabled. Code that saves, clears and restores the interrupt
flag enables interrupts again only if it found them enabled; started with the flag clear, it
looks and finds it clear. What such a program asks for is said of the program alone, whatever
the machine answers otherwise. -/
namespace InterruptCore

open Machine

variable {α β σ : Type}

def Machine.Request.Masked : (r : Request) → r.Answer → Prop
  | .interruptFlag, found => found = false
  | _, _ => True

theorem Machine.Request.Quiet.masked {r : Request} (hr : r.Quiet) (a : r.Answer) : r.Masked a := by
  cases r <;> trivial

namespace Program

/-- With the interrupt flag clear, the program asks for nothing but what is allowed, and any
result of it has `Q`. -/
def Masked (allowed : Request → Prop) (Q : α → Prop) : Program α → Prop
  | .done a => Q a
  | .ask r next => allowed r ∧ ∀ a, r.Masked a → (next a).Masked allowed Q

/-- Started with the interrupt flag clear, the program does not set it. -/
def StaysMasked (p : Program α) : Prop := p.Masked (· ≠ .setFlag) fun _ => True

section Rules

variable {allowed allowed' : Request → Prop} {P Q : α → Prop} {R : β → Prop}

@[simp] theorem masked_pure (a : α) : Masked allowed Q (pure a) ↔ Q a := Iff.rfl

@[simp] theorem masked_done (a : α) : Masked allowed Q (done a) ↔ Q a := Iff.rfl

@[simp] theorem masked_ask (r : Request) (next : r.Answer → Program α) :
    Masked allowed Q (ask r next) ↔
      allowed r ∧ ∀ a, r.Masked a → Masked allowed Q (next a) := Iff.rfl

@[simp] theorem masked_bind (p : Program α) (f : α → Program β) :
    Masked allowed R (p >>= f) ↔ Masked allowed (fun a => Masked allowed R (f a)) p := by
  induction p with
  | done a => exact Iff.rfl
  | ask r next ih => exact and_congr_right' (forall₂_congr fun a _ => ih a)

theorem Masked.mono {p : Program α} (h : Masked allowed P p)
    (hallowed : ∀ r, allowed r → allowed' r) (hQ : ∀ a, P a → Q a) : Masked allowed' Q p := by
  induction p with
  | done a => exact hQ a h
  | ask r next ih => exact ⟨hallowed r h.1, fun a ha => ih a (h.2 a ha)⟩

theorem Masked.forM {ι : Type} {xs : List ι} {f : ι → Program Unit}
    (h : ∀ x ∈ xs, Masked allowed (fun _ => True) (f x)) :
    Masked allowed (fun _ => True) (xs.forM f) := by
  induction xs with
  | nil => trivial
  | cons x xs ih =>
    refine (masked_bind (f x) fun _ => xs.forM f).mpr ?_
    apply (h x List.mem_cons_self).mono (fun _ => id)
    intro _ _
    exact ih fun y hy => h y (List.mem_cons_of_mem x hy)

theorem Masked.mapM {ι : Type} {xs : List ι} {f : ι → Program β}
    (h : ∀ x ∈ xs, Masked allowed (fun _ => True) (f x)) :
    Masked allowed (fun _ => True) (xs.mapM f) := by
  induction xs with
  | nil => trivial
  | cons x xs ih =>
    rw [List.mapM_cons, masked_bind]
    apply (h x List.mem_cons_self).mono (fun _ => id)
    intro b _
    rw [masked_bind]
    apply (ih fun y hy => h y (List.mem_cons_of_mem x hy)).mono (fun _ => id)
    exact fun _ _ => trivial

/-- Terms that every allowed request keeps, a masked program keeps. -/
theorem Masked.meets {T : Terms σ} {I : σ → Prop} {p : Program α} {s : σ}
    (hstep : ∀ r s, allowed r → I s → T.ok s r ∧ T.Follows s r fun a s => r.Masked a ∧ I s)
    (h : Masked allowed Q p) (hs : I s) : T.Meets p (fun a s => Q a ∧ I s) s := by
  induction p generalizing s with
  | done a => exact ⟨h, hs⟩
  | ask r next ih =>
    obtain ⟨hok, hfollows⟩ := hstep r s h.1 hs
    exact ⟨hok, hfollows.mono fun a s ha => ih a (h.2 a ha.1) ha.2⟩

end Rules

end Program

end InterruptCore
