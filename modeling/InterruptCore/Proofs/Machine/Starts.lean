import InterruptCore.Kernel.Console
import InterruptCore.Proofs.Machine.Terms

/-! How often a text is started on the serial port. Bytes go out one at a time, and a trap may
come between any two of them, so that a text is started where the code is about to send its
bytes. When no trap returns, a trap ends what it interrupts: what is left to be started is a
credit, which every instant must leave enough of for a trap that comes there. -/
namespace InterruptCore

open Machine Kernel

variable {α β σ : Type}

def Program.sends : List UInt8 → Program α → Bool
  | [], _ => true
  | b :: rest, .ask (.poll _) next =>
    match next () with
    | .ask (.out p v) next => p = Port.com1 && v = b && sends rest (next ())
    | _ => false
  | _ :: _, _ => false

def Machine.Instant.starts (text : String) (i : Instant) : Bool :=
  (Program.ask i.request i.next).sends (Console.wire text)

/-- How often a text begins in a run of bytes. -/
def Kernel.Console.occurrences (text : List UInt8) : List UInt8 → Nat
  | [] => 0
  | b :: rest => (text.isPrefixOf (b :: rest)).toNat + occurrences text rest

namespace Program

/-- The program does not go on with another byte. -/
def Pauses (p : Program α) : Prop := ∀ b rest, p.sends (b :: rest) = false

theorem Pauses.sends_eq_false {p : Program α} (hp : p.Pauses) {text : List UInt8}
    (htext : text ≠ []) : p.sends text = false := by
  obtain ⟨b, rest, rfl⟩ := List.exists_cons_of_ne_nil htext
  exact hp b rest

theorem pauses_ask {r : Request} (hr : ∀ w, r ≠ .poll w) (next : r.Answer → Program α) :
    (ask r next).Pauses := by
  intro b rest
  cases r <;> first | rfl | exact absurd rfl (hr _)

theorem sends_bytes {k : Unit → Program α} (hk : (k ()).Pauses) (bytes text : List UInt8) :
    (bytes.forM Console.sendByte >>= k).sends text = text.isPrefixOf bytes := by
  induction bytes generalizing text with
  | nil =>
    cases text with
    | nil => rfl
    | cons b rest => exact hk b rest
  | cons c bytes ih =>
    cases text with
    | nil => rfl
    | cons b rest =>
      have hfirst : ((c :: bytes).forM Console.sendByte >>= k).sends (b :: rest) =
          (decide (Console.register 0 = Port.com1) && decide (c = b) &&
            (bytes.forM Console.sendByte >>= k).sends rest) := rfl
      have hport : decide (Console.register 0 = Port.com1) = true := rfl
      rw [hfirst, ih, hport, Bool.true_and, List.isPrefixOf_cons_cons]
      congr 1
      rw [Bool.eq_iff_iff, decide_eq_true_eq, beq_iff_eq, eq_comm]

end Program

namespace Machine

variable (T : Terms σ) (text : String) (cost : σ → Nat)

/-- How many starts a trap at an instant of this view can have is `cost`. The program never owes
more than `c`, and every start takes one off. -/
def Owes : Program α → Nat → σ → Prop
  | .done _, _, _ => True
  | .ask r next, c, s => ∃ d, d + ((Program.ask r next).sends (Console.wire text)).toNat ≤ c ∧
    cost s ≤ d ∧ T.ok s r ∧ T.Follows s r fun a s => Owes (next a) d s

/-- A run that goes on has no start; one that stops has no more than `cost` allows. -/
def Charged (is : List Instant) (s : σ) (o : Outcome α) (K : α → σ → Prop) : Prop :=
  o.Ends (fun a m => is.countP (·.starts text) = 0 ∧ K a (T.view m))
    (fun _ _ => is.countP (·.starts text) ≤ cost s)

def Charges (take : Taking) (visit : Visiting) : Prop :=
  ∀ t m, (∃ r, T.ok (T.view m) r) → m.accepts t = true →
    Charged T text cost (visit t m) (T.view m) (take t m) fun _ s => s = T.view m

variable {T : Terms σ} {text : String} {cost : σ → Nat} {take : Taking} {visit : Visiting}
  {s : σ} {K : α → σ → Prop} {L : β → σ → Prop}

theorem Owes.mono {p : Program α} {c d : Nat} (h : Owes T text cost p c s) (hcd : c ≤ d) :
    Owes T text cost p d s := by
  cases p with
  | done a => trivial
  | ask r next =>
    obtain ⟨e, he, hrest⟩ := h
    exact ⟨e, Nat.le_trans he hcd, hrest⟩

theorem Charged.append {is : List Instant} {o : Outcome α} {f : α → Machine → Outcome β}
    {g : α → Machine → List Instant} (h : Charged T text cost is s o K)
    (hf : ∀ a m, K a (T.view m) → Charged T text cost (g a m) s (f a m) L) :
    Charged T text cost (is ++ o.afterwards g) s (o.bind f) L := by
  cases o with
  | stopped why m => simpa [Outcome.afterwards, Outcome.bind, Charged, Outcome.Ends] using h
  | answered a m =>
    obtain ⟨hnone, hK⟩ := h
    have hrest := hf a m hK
    unfold Charged at hrest ⊢
    simp only [Outcome.afterwards, Outcome.bind, List.countP_append, hnone, Nat.zero_add]
    exact hrest

theorem Charged.answered {a : α} {m : Machine} (hK : K a (T.view m)) :
    Charged T text cost [] s (.answered a m) K := ⟨rfl, hK⟩

theorem Charged.stopped {why : Stop} {m : Machine} :
    Charged T text cost [] s (.stopped why m) K := Nat.zero_le _

theorem Charged.cons {is : List Instant} {o : Outcome α} {i : Instant}
    (h : Charged T text cost is s o K) (hi : i.starts text = false) :
    Charged T text cost (i :: is) s o K := by
  unfold Charged at h ⊢
  rwa [List.countP_cons_of_neg (by rw [hi]; exact Bool.false_ne_true)]

section Run

variable (hc : Charges T text cost take visit)
include hc

theorem charged_arrive {r : Request} {n : Nat} {m : Machine} (hok : ∃ r, T.ok (T.view m) r) :
    Charged T text cost (arriving take visit n r m) (T.view m) (arrive take n r m)
      fun _ s => s = T.view m := by
  induction n generalizing m with
  | zero => exact .answered rfl
  | succ n ih =>
    cases has : m.arrivals with
    | nil =>
      simp only [arriving, arrive, has]
      exact .answered rfl
    | cons a rest =>
      have hview := T.view_arrivals m rest
      have hok' : ∃ r, T.ok (T.view { m with arrivals := rest }) r := hview.symm ▸ hok
      simp only [arriving, arrive, has]
      split
      · split
        · rename_i hacc
          have htaken := hc a.trap { m with arrivals := rest } hok' hacc
          rw [hview] at htaken
          apply htaken.append
          intro _ m' hm'
          rw [← hm']
          exact ih (hm' ▸ hok)
        · rw [← hview]
          exact ih hok'
      · exact .answered rfl

theorem charged_settle {r : Request} {m : Machine} (hok : ∃ r, T.ok (T.view m) r) :
    Charged T text cost (settling take visit r m) (T.view m) (settle take r m)
      fun _ s => s = T.view m :=
  charged_arrive hc hok

theorem charged_sleepOnce {m : Machine} (hok : ∃ r, T.ok (T.view m) r) :
    Charged T text cost (wakingOnce visit m) (T.view m) (sleepOnce take m)
      fun _ s => s = T.view m := by
  cases hwake : m.wake with
  | nil =>
    simp only [wakingOnce, sleepOnce, hwake]
    exact .stopped
  | cons t rest =>
    have hview := T.view_wake m rest
    simp only [wakingOnce, sleepOnce, hwake]
    split
    · rename_i hacc
      have htaken := hc t { m with wake := rest } (hview.symm ▸ hok) hacc
      rwa [hview] at htaken
    · exact .stopped

theorem charged_pollWhile {w : Poll} {K : Unit → σ → Prop} (hok : ∃ r, T.ok s r)
    (hK : T.Follows s (.poll w) K) {n : Nat} {m : Machine} (hm : T.view m = s) :
    Charged T text cost (polling take visit w n m) s (pollWhile take w n m) K := by
  induction n generalizing m with
  | zero => exact .answered (Terms.view_readUntil hK _ hm ▸ (hK m hm).2)
  | succ n ih =>
    obtain ⟨hread, hdone⟩ := hK m hm
    simp only [polling, pollWhile]
    split
    · rw [← hread]
      apply (charged_settle hc (hread.symm ▸ hok)).append
      intro _ m' hm'
      rw [hread]
      exact ih ((T.view_tick m').trans (hm'.trans hread))
    · exact .answered (hread.symm ▸ hdone)

variable (htext : Console.wire text ≠ [])
include htext

theorem charged_sleepWhile {waiting : Kernel → Bool} {K : Unit → σ → Prop} (hok : T.ok s .halt)
    (hK : ∀ m, T.view m = s → waiting m.kernel = false → K () s) {n : Nat} {m : Machine}
    (hm : T.view m = s) :
    Charged T text cost (wakingWhile take visit waiting n m) s (sleepWhile take waiting n m) K := by
  have hpauses : (Program.ask .halt .done).Pauses := Program.pauses_ask (r := .halt) nofun _
  have hhalt : ∀ m, (⟨.halt, m, .done⟩ : Instant).starts text = false := fun _ =>
    hpauses.sends_eq_false htext
  induction n generalizing m with
  | zero =>
    simp only [wakingWhile, sleepWhile]
    split
    · rw [← hm]
      apply (charged_settle hc ⟨.halt, hm ▸ hok⟩).append
      intro _ m' _
      exact Charged.stopped.cons (hhalt m')
    · rename_i hwait
      exact .answered (hm ▸ hK m hm (Bool.eq_false_iff.mpr hwait))
  | succ n ih =>
    simp only [wakingWhile, sleepWhile]
    split
    · rw [← hm]
      apply (charged_settle hc ⟨.halt, hm ▸ hok⟩).append
      intro _ m' hm'
      apply Charged.cons _ (hhalt m')
      rw [← hm']
      apply (charged_sleepOnce hc ⟨.halt, hm' ▸ hm ▸ hok⟩).append
      intro _ m'' hm''
      rw [← hm'']
      have hs : T.view m'' = s := hm''.trans (hm'.trans hm)
      apply (charged_settle hc ⟨.halt, hs ▸ hok⟩).append
      intro _ m₃ hm₃
      rw [hs]
      exact ih (hm₃.trans hs)
    · rename_i hwait
      exact .answered (hm ▸ hK m hm (Bool.eq_false_iff.mpr hwait))

theorem charged_answer {r : Request} {m : Machine} {K : r.Answer → σ → Prop}
    (hok : T.ok (T.view m) r) (hK : T.Follows (T.view m) r K) :
    Charged T text cost (answering take visit r m) (T.view m) (answer take r m) K := by
  have hperform : (∀ m', T.view m' = T.view m →
      (perform r m').Ends (fun a m => K a (T.view m)) (fun why m => T.stop why (T.view m))) →
      Charged T text cost [] (T.view m) (perform r m) K := by
    intro h
    exact (h m rfl).mono (fun _ _ hK => ⟨rfl, hK⟩) fun _ _ _ => Nat.zero_le _
  cases r with
  | halt =>
    apply Outcome.Ends.mono (charged_sleepOnce hc ⟨.halt, hok⟩)
    · exact fun _ m' h => ⟨h.1, h.2 ▸ hK.2⟩
    · exact fun _ _ => id
  | haltWhile waiting => exact charged_sleepWhile hc htext hK.1.1 hK.2 rfl
  | poll w => exact charged_pollWhile hc ⟨_, hok⟩ hK rfl
  | haltForever =>
    have hsleep : Charged T text cost (wakingWhile take visit (fun _ => true) m.wake.length m)
        (T.view m) (sleepWhile take (fun _ => true) m.wake.length m) fun _ _ => False :=
      charged_sleepWhile hc htext hK.1 (fun _ _ h => nomatch h) rfl
    unfold Charged at hsleep ⊢
    simp only [answering, answer]
    cases hs : sleepWhile take (fun _ => true) m.wake.length m with
    | answered _ m' =>
      rw [hs] at hsleep
      exact hsleep.2.elim
    | stopped why m' =>
      rw [hs] at hsleep
      exact hsleep
  | _ => exact hperform hK

theorem Owes.countP_le {p : Program α} {c : Nat} {m : Machine}
    (h : Owes T text cost p c (T.view m)) :
    (instantsWith take visit p m).countP (·.starts text) ≤ c := by
  induction p generalizing c m with
  | done a => exact Nat.zero_le c
  | ask r next ih =>
    obtain ⟨d, hd, hcost, hok, hfollows⟩ := h
    have hsettle := charged_settle (r := r) hc ⟨r, hok⟩
    unfold Charged at hsettle
    rw [instantsWith, List.countP_append]
    cases hs : settle take r m with
    | stopped why m' =>
      rw [hs] at hsettle
      have hle : (settling take visit r m).countP (·.starts text) ≤ d :=
        Nat.le_trans hsettle hcost
      exact Nat.le_trans hle (Nat.le_trans (Nat.le_add_right d _) hd)
    | answered u m' =>
      rw [hs] at hsettle
      obtain ⟨hnone, hm'⟩ := hsettle
      have hview : T.view m'.tick = T.view m := (T.view_tick m').trans hm'
      have hanswer : Charged T text cost (answering take visit r m'.tick) (T.view m'.tick)
          (answer take r m'.tick) fun a s => Owes T text cost (next a) d s :=
        charged_answer hc htext (hview ▸ hok) (hview ▸ hfollows)
      unfold Charged at hanswer
      have hstart : (⟨r, m', next⟩ : Instant).starts text =
          (Program.ask r next).sends (Console.wire text) := rfl
      have hrest : (answering take visit r m'.tick ++
          (answer take r m'.tick).afterwards fun a m => instantsWith take visit (next a) m).countP
            (·.starts text) ≤ d := by
        rw [List.countP_append]
        cases ha : answer take r m'.tick with
        | stopped why m'' =>
          rw [ha] at hanswer
          exact Nat.le_trans hanswer (hview ▸ hcost)
        | answered a m'' =>
          rw [ha] at hanswer
          rw [hanswer.1, Nat.zero_add]
          exact ih a hanswer.2
      change _ + List.countP _ ((⟨r, m', next⟩ : Instant) :: (_ ++ _)) ≤ c
      rw [hnone, Nat.zero_add, List.countP_cons, hstart]
      apply Nat.le_trans _ hd
      apply Nat.add_le_add hrest
      cases (Program.ask r next).sends (Console.wire text) <;> simp

end Run

end Machine

end InterruptCore
