import InterruptCore.Trap.Adapter
import InterruptCore.Exception

/-! What an adapter makes of the stack. Pushes and pops are runs of the stack machine over
lists of registers; both lists are the order of the registers in memory, one backwards.
Main statement: the dispatcher is handed the registers of the interrupted code, and the
interrupted code gets them back. -/
namespace InterruptCore.Trap

def Register.inMemory : List Register :=
  [.r15, .r14, .r13, .r12, .r11, .r10, .r9, .r8, .rbp, .rdi, .rsi, .rdx, .rcx, .rbx, .rax]

def load (g : General) (rs : List Register) (ws : List UInt64) : General :=
  (rs.zip ws).foldl (fun g p => p.1.set g p.2) g

theorem words_eq_map_get (g : General) :
    g.words = Register.inMemory.map (Register.get g) := rfl

theorem Register.get_set (g : General) (w : UInt64) (r q : Register) :
    q.get (r.set g w) = if q = r then w else q.get g := by
  cases r <;> cases q <;> rfl

theorem Register.mem_inMemory (r : Register) : r ∈ Register.inMemory := by
  cases r <;> decide

theorem General.ext_get {g h : General} (hget : ∀ r : Register, r.get g = r.get h) : g = h := by
  obtain ⟨⟩ := g
  obtain ⟨⟩ := h
  simp only [General.mk.injEq]
  exact ⟨hget .r15, hget .r14, hget .r13, hget .r12, hget .r11, hget .r10, hget .r9, hget .r8,
    hget .rbp, hget .rdi, hget .rsi, hget .rdx, hget .rcx, hget .rbx, hget .rax⟩

theorem get_load (g h : General) (rs : List Register) (q : Register) :
    q.get (load g rs (rs.map (Register.get h))) = if q ∈ rs then q.get h else q.get g := by
  induction rs generalizing g with
  | nil => rfl
  | cons r rs ih =>
    have hstep : load g (r :: rs) ((r :: rs).map (Register.get h)) =
        load (r.set g (r.get h)) rs (rs.map (Register.get h)) := rfl
    rw [hstep, ih, Register.get_set]
    by_cases hr : q = r
    · subst hr; simp
    · simp [hr]

/-- No register is left out: what the registers held before does not matter. -/
theorem load_words (g h : General) : load g Register.inMemory h.words = h := by
  apply General.ext_get
  intro q
  rw [words_eq_map_get, get_load, if_pos q.mem_inMemory]

theorem run_append (c : Core) (xs ys : List Instruction) :
    run c (xs ++ ys) = run (run c xs) ys := List.foldl_append

theorem run_pushes (c : Core) (rs : List Register) :
    run c (rs.map .push) =
      { c with stack := (rs.map (Register.get c.general)).reverse ++ c.stack } := by
  induction rs generalizing c with
  | nil => rfl
  | cons r rs ih =>
    have hstep : run c ((r :: rs).map .push) =
        run (c.push (r.get c.general)) (rs.map .push) := rfl
    rw [hstep, ih]
    simp [Core.push]

theorem run_pops (c : Core) (rs : List Register) {ws rest : List UInt64}
    (hlen : ws.length = rs.length) (hstack : c.stack = ws ++ rest) :
    run c (rs.map .pop) = { c with general := load c.general rs ws, stack := rest } := by
  induction rs generalizing c ws with
  | nil =>
    have hws : ws = [] := List.length_eq_zero_iff.mp hlen
    subst ws
    have hc : c.stack = rest := hstack
    subst hc
    rfl
  | cons r rs ih =>
    obtain ⟨w, ws, rfl⟩ := List.exists_cons_of_length_eq_add_one hlen
    have hpop : step c (.pop r) =
        { c with general := r.set c.general w, stack := ws ++ rest } := by
      simp [step, hstack]
    have hrun : run c ((r :: rs).map .pop) = run (step c (.pop r)) (rs.map .pop) := rfl
    rw [hrun, hpop, ih _ (Nat.succ.inj hlen) rfl]
    rfl

theorem wordsAt_stackPointer (c : Core) : c.wordsAt c.stackPointer = c.stack := by
  simp [Core.wordsAt]

theorem cpuPushesError_eq_hasErrorCode (v : UInt8) :
    cpuPushesError v = Exception.hasErrorCode v := by
  rw [Bool.eq_iff_iff]
  simp only [cpuPushesError, Exception.hasErrorCode, Bool.or_eq_true, Bool.and_eq_true,
    decide_eq_true_eq, List.contains_eq_mem, List.mem_cons, List.not_mem_nil, or_false,
    UInt8.le_iff_toNat_le, ← UInt8.toNat_inj, UInt8.toNat_ofNat]
  omega

namespace Adapter

def errorWord (v : UInt8) (e : UInt64) : UInt64 := if Exception.hasErrorCode v then e else 0

/-- The context of a trap on `v` that interrupted code with the registers `r`. -/
def contextOf (v : UInt8) (e : UInt64) (r : Registers) : Context :=
  ⟨r.general, v.toUInt64, errorWord v e, r.frame⟩

theorem save_eq_pushes :
    save = Register.inMemory.reverse.map .push ++ [.passStackPointer] := rfl

theorem restore_eq_pops : restore = Register.inMemory.map .pop ++ [.release 2] := rfl

theorem withPlaceholder_of_not_withErrorWord :
    ∀ n < supportedVectors, withErrorWord.contains (UInt8.ofNat n) = false →
      withPlaceholder.contains (UInt8.ofNat n) = true := by
  decide

/-- Whether the CPU pushes an error word or not, the stub leaves the stack in one shape. -/
theorem run_stub {v : UInt8} (hv : v.toNat < supportedVectors) (e : UInt64) (r : Registers)
    (base : UInt64) :
    run (enter v e r base) (stub v) =
      ⟨r.general, v.toUInt64 :: errorWord v e :: r.frame.words, base⟩ := by
  have hcpu := cpuPushesError_eq_hasErrorCode v
  have hlist : Exception.hasErrorCode v = withErrorWord.contains v := rfl
  cases hw : withErrorWord.contains v with
  | true =>
    rw [hlist, hw] at hcpu
    simp only [stub, hw, enter, hcpu, errorWord, hlist, if_true]
    rfl
  | false =>
    have hp : withPlaceholder.contains v = true := by
      have h := withPlaceholder_of_not_withErrorWord v.toNat hv
      rw [UInt8.ofNat_toNat] at h
      exact h hw
    rw [hlist, hw] at hcpu
    simp only [stub, hw, hp, enter, hcpu, errorWord, hlist]
    rfl

/-- The frame of 22 words that the dispatcher is handed, and its address. -/
theorem entry_eq {v : UInt8} (hv : v.toNat < supportedVectors) (e : UInt64) (r : Registers)
    (base : UInt64) :
    entry v (enter v e r base) =
      ⟨{ r.general with rdi := base - 176 }, (contextOf v e r).words, base⟩ := by
  rw [entry, run_append, run_stub hv, save_eq_pushes, run_append, run_pushes,
    ← List.map_reverse, List.reverse_reverse, ← words_eq_map_get]
  rfl

theorem wordsAt_entry {v : UInt8} (hv : v.toNat < supportedVectors) (e : UInt64)
    (r : Registers) (base : UInt64) :
    (entry v (enter v e r base)).wordsAt (entry v (enter v e r base)).general.rdi =
      (contextOf v e r).words := by
  rw [entry_eq hv]
  exact wordsAt_stackPointer _

theorem context_entry {v : UInt8} (hv : v.toNat < supportedVectors) (e : UInt64)
    (r : Registers) (base : UInt64) :
    context (entry v (enter v e r base)) = contextOf v e r := by
  rw [context, wordsAt_entry hv, ← List.append_nil (Context.words _)]
  exact Context.ofWords_words _ []

theorem exit_eq (c : Core) (ctx : Context) (hstack : c.stack = ctx.words) (left : General) :
    exit c left = ctx.registers := by
  have hsplit : c.stack = ctx.general.words ++
      (ctx.vectorWord :: ctx.errorCode :: ctx.frame.words) := by
    rw [hstack]; simp [Context.words]
  rw [exit, restore_eq_pops, run_append,
    run_pops { c with general := left } Register.inMemory rfl hsplit, load_words]
  rfl

/-- The dispatcher is handed the top of the stack, an address of 22 words, from which it reads the
registers of the interrupted code, the vector, and the CPU's error word or zero. When its call
returns, whatever it left in the general registers, the interrupted code has its own again. -/
theorem context_exact_and_registers_restored (v : UInt8) (hv : v.toNat < supportedVectors)
    (e : UInt64) (r : Registers) (base : UInt64) :
    let c := entry v (enter v e r base)
    let error := if Exception.hasErrorCode v then e else 0
    c.general.rdi = c.stackPointer ∧
    c.wordsAt c.general.rdi = r.general.words ++ [v.toUInt64, error] ++ r.frame.words ∧
    context c = ⟨r.general, v.toUInt64, error, r.frame⟩ ∧
    ∀ left : General, exit c left = r := by
  intro c error
  have hstack : c.stack = (contextOf v e r).words := by
    change (entry v (enter v e r base)).stack = _
    rw [entry_eq hv]
  refine ⟨?_, ?_, ?_, ?_⟩
  · change (entry v (enter v e r base)).general.rdi = (entry v (enter v e r base)).stackPointer
    rw [entry_eq hv]
    rfl
  · rw [wordsAt_entry hv]
    simp [contextOf, Context.words, errorWord, error]
  · exact context_entry hv e r base
  · intro left
    exact exit_eq c (contextOf v e r) hstack left

theorem page_fault_context_exact :
    let r : Registers := ⟨{ r15 := 1, rdi := 2, rax := 3 },
      { rip := 0x1000, cs := 8, rflags := 0x202, rsp := 0x7ff8, ss := 16 }⟩
    let c := entry 14 (enter 14 6 r 0x7ff0)
    (14 : UInt8).toNat < supportedVectors ∧
    c.wordsAt c.general.rdi =
      [1, 0, 0, 0, 0, 0, 0, 0, 0, 2, 0, 0, 0, 0, 3, 14, 6, 0x1000, 8, 0x202, 0x7ff8, 16] ∧
    exit c { rdi := 5, rbx := 6 } = r := by
  intro r c
  have h := context_exact_and_registers_restored 14 (by decide) 6 r 0x7ff0
  exact ⟨by decide, h.2.1, h.2.2.2 _⟩

end Adapter

end InterruptCore.Trap
