import InterruptCore.Fault
import InterruptCore.Proofs.Text.Numerals

/-! What dumps and reports say. Their pieces, joined, are the texts that are spelled out here,
whatever the registers and the error word are. -/
namespace InterruptCore

namespace Text

theorem join_intercalate (sep : String) (ps : List (List String)) :
    String.join ([sep].intercalate ps) = sep.intercalate (ps.map String.join) := by
  apply String.toList_inj.mp
  rw [String.toList_intercalate]
  induction ps with
  | nil => rfl
  | cons p ps ih =>
    cases ps with
    | nil => simp
    | cons q qs =>
      rw [List.intercalate_cons_cons, String.join_append, String.join_append, String.toList_append,
        ih]
      simp

def FlagNames.named (f : FlagNames) (w : Nat) : List String :=
  (f.bits.filter fun b => w.testBit b.1).map (·.2)

theorem FlagNames.join_pieces {f : FlagNames} {w : Nat} (hunknown : f.unknown w = 0) :
    String.join (f.pieces w) =
      f.title ++ "(" ++ (if w = 0 then "0x0" else " | ".intercalate (f.named w)) ++ ")" := by
  have hparts : (f.parts w).map String.join = f.named w := by
    rw [FlagNames.parts, if_pos hunknown, List.append_nil, List.map_map]
    exact congrFun (congrArg List.map (funext fun b => by simp)) _
  have hset : String.join (if w = 0 then ["0x", "0"] else [" | "].intercalate (f.parts w)) =
      if w = 0 then "0x0" else " | ".intercalate (f.named w) := by
    split
    · rfl
    · rw [join_intercalate, hparts]
  rw [FlagNames.pieces, String.join_append, String.join_append, hset]
  simp [String.append_assoc]

end Text

namespace Exception.SelectorError

theorem external_decode (word : UInt64) :
    (if (decode word).external then "1" else "0") =
      (word.toNat % 2).repr := by
  rw [decode, Nat.testBit_zero]
  rcases Nat.mod_two_eq_zero_or_one word.toNat with hbit | hbit <;> rw [hbit] <;> rfl

theorem table_decode (word : UInt64) :
    (decode word).table = UInt8.ofNat (word.toNat / 2 % 4) := by
  rw [decode, Nat.shiftRight_eq_div_pow, pow_one]

theorem toNat_table_decode (word : UInt64) :
    (decode word).table.toNat = word.toNat / 2 % 4 := by
  have hlt : word.toNat / 2 % 4 < 4 := Nat.mod_lt _ (by decide)
  rw [table_decode, UInt8.toNat_ofNat_of_lt' (hlt.trans (by decide))]

theorem toNat_index_decode (word : UInt64) :
    (decode word).index.toNat = word.toNat / 8 % 8192 := by
  have hlt : word.toNat / 2 ^ 3 % 0x2000 < 0x2000 := Nat.mod_lt _ (by decide)
  rw [decode, Nat.shiftRight_eq_div_pow, Nat.shiftRight_eq_div_pow,
    UInt16.toNat_ofNat_of_lt' (hlt.trans (by decide))]
  rfl

theorem tableKind_decode (word : UInt64) :
    (decode word).tableKind.name =
      if word.toNat / 2 % 4 = 0 then "Gdt" else if word.toNat / 2 % 4 = 2 then "Ldt"
      else "Idt" := by
  have hlt : word.toNat / 2 % 4 < 4 := Nat.mod_lt _ (by decide)
  rw [tableKind, table_decode]
  generalize word.toNat / 2 % 4 = t at hlt ⊢
  obtain rfl | rfl | rfl | rfl : t = 0 ∨ t = 1 ∨ t = 2 ∨ t = 3 := by omega
  all_goals rfl

end Exception.SelectorError

open Text

namespace Context

def flagWording (rflags : UInt64) : String :=
  let flags := [(0, " CF"), (2, " PF"), (4, " AF"), (6, " ZF"), (7, " SF"), (8, " TF"), (9, " IF"),
    (10, " DF"), (11, " OF")]
  String.join ((flags.filter fun f => rflags.toNat.testBit f.1).map (·.2))

/-- The text of a dump, line by line. -/
def dumpWording (c : Context) : String :=
  let word (w : UInt64) := base16Padded 16 w.toNat
  String.join
    ["=== INTERRUPT FRAME DUMP ===\n",
      "Vector: " ++ c.vectorWord.toNat.repr ++ " (" ++ Exception.name c.vector
        ++ ") Error Code: 0x" ++ base16 c.errorCode.toNat ++ "\n",
      "RIP: 0x" ++ word c.frame.rip ++ "  CS: 0x" ++ base16Padded 4 c.frame.cs.toNat
        ++ "  RFLAGS: 0x" ++ base16 c.frame.rflags.toNat ++ "\n",
      "RSP: 0x" ++ word c.frame.rsp ++ "  SS: 0x" ++ base16Padded 4 c.frame.ss.toNat ++ "\n",
      "RAX: 0x" ++ word c.general.rax ++ "  RBX: 0x" ++ word c.general.rbx
        ++ "  RCX: 0x" ++ word c.general.rcx ++ "\n",
      "RDX: 0x" ++ word c.general.rdx ++ "  RSI: 0x" ++ word c.general.rsi
        ++ "  RDI: 0x" ++ word c.general.rdi ++ "\n",
      "RBP: 0x" ++ word c.general.rbp ++ "  R8 : 0x" ++ word c.general.r8
        ++ "  R9 : 0x" ++ word c.general.r9 ++ "\n",
      "R10: 0x" ++ word c.general.r10 ++ "  R11: 0x" ++ word c.general.r11
        ++ "  R12: 0x" ++ word c.general.r12 ++ "\n",
      "R13: 0x" ++ word c.general.r13 ++ "  R14: 0x" ++ word c.general.r14
        ++ "  R15: 0x" ++ word c.general.r15 ++ "\n",
      "Flags:" ++ flagWording c.frame.rflags ++ "\n",
      "=== END INTERRUPT FRAME DUMP ===\n"]

theorem join_wide (w : UInt64) : String.join (wide w) = base16Padded 16 w.toNat := by
  rw [wide, join_hexPieces, hexPadded_eq]

theorem join_flagPieces (rflags : UInt64) :
    String.join (flagPieces rflags) = flagWording rflags := by
  have hjoin : ∀ fs : List (Nat × String),
      String.join (fs.flatMap fun f => if rflags.toNat.testBit f.1 then [" ", f.2] else []) =
        String.join (((fs.map fun f => (f.1, " " ++ f.2)).filter fun f =>
          rflags.toNat.testBit f.1).map (·.2)) := by
    intro fs
    induction fs with
    | nil => rfl
    | cons f fs ih =>
      rw [List.flatMap_cons, String.join_append, ih, List.map_cons, List.filter_cons]
      split <;> simp [String.append_assoc]
  exact hjoin statusFlags

theorem join_dump (c : Context) : String.join c.dump = c.dumpWording := by
  have hpadded (w n : Nat) : String.join (hexPieces w n) = base16Padded w n := by
    rw [join_hexPieces, hexPadded_eq]
  simp [dump, codeRow, stackRow, row, join_wide, hpadded, join_flagPieces, decimal_eq_repr,
    hex_eq_base16, dumpWording, String.append_assoc]

end Context

namespace Fault

def accessWording (word : UInt64) : String :=
  let names := [(0, "PROTECTION_VIOLATION"), (1, "CAUSED_BY_WRITE"), (2, "USER_MODE"),
    (3, "MALFORMED_TABLE"), (4, "INSTRUCTION_FETCH"), (5, "PROTECTION_KEY"), (6, "SHADOW_STACK")]
  let set := (names.filter fun f => word.toNat.testBit f.1).map (·.2)
  "PageFaultErrorCode(" ++ (if set = [] then "0x0" else " | ".intercalate set) ++ ")"

/-- Bit 0 of a selector error word, then two bits for the table, then the index. -/
def selectorWording (word : UInt64) : String :=
  let table := word.toNat / 2 % 4
  "Selector: external=" ++ (word.toNat % 2).repr ++ " table=" ++ table.repr ++ " ("
    ++ (if table = 0 then "Gdt" else if table = 2 then "Ldt" else "Idt") ++ ") index="
    ++ (word.toNat / 8 % 8192).repr ++ "\n"

def detailWording (c : Context) (cr2 : UInt64) : String :=
  if c.vector = 14 then
    "Faulting address: 0x" ++ base16Padded 16 cr2.toNat ++ "\n"
      ++ "Access: " ++ accessWording c.errorCode ++ "\n"
  else if c.vector ∈ [10, 11, 12, 13] then selectorWording c.errorCode
  else ""

/-- The text of a report, line by line. -/
def reportWording (c : Context) (cr2 : UInt64) : String :=
  String.join
    ["\n=== CPU EXCEPTION ===\n",
      "EXCEPTION: Vector " ++ c.vector.toNat.repr ++ " (" ++ Exception.name c.vector ++ ")\n",
      "Error code: 0x" ++ base16 c.errorCode.toNat ++ "\n",
      detailWording c cr2, c.dumpWording, "System halted.\n"]

theorem named_eq_nil_iff : ∀ w < 128, Exception.pageFaultNames.named w = [] ↔ w = 0 := by
  decide

theorem named_and (w : Nat) :
    Exception.pageFaultNames.named (w &&& 127) = Exception.pageFaultNames.named w := by
  have hbit : ∀ f ∈ Exception.pageFaultNames.bits, (127).testBit f.1 = true := by decide
  rw [FlagNames.named, FlagNames.named]
  congr 1
  refine List.filter_congr fun f hf => ?_
  rw [Nat.testBit_and, hbit f hf, Bool.and_true]

theorem join_access (word : UInt64) :
    String.join (Exception.pageFaultNames.pieces
      (word &&& UInt64.ofNat Exception.pageFaultNames.known).toNat) = accessWording word := by
  have hknown : Exception.pageFaultNames.known = 127 := by decide
  have hlow : (word &&& UInt64.ofNat Exception.pageFaultNames.known).toNat =
      word.toNat &&& 127 := by
    rw [UInt64.toNat_and, hknown]
    rfl
  have hunknown : Exception.pageFaultNames.unknown (word.toNat &&& 127) = 0 := by
    rw [FlagNames.unknown, hknown, Nat.and_assoc, Nat.and_self, Nat.xor_self]
  have hlt : word.toNat &&& 127 < 128 := Nat.lt_of_le_of_lt Nat.and_le_right (by decide)
  rw [hlow, FlagNames.join_pieces hunknown]
  simp only [← named_eq_nil_iff _ hlt]
  rw [named_and]
  rfl

theorem join_selector {c : Context} (h : c.vector ∈ [10, 11, 12, 13]) (cr2 : UInt64) :
    String.join (detail c cr2) = selectorWording c.errorCode := by
  have hof : Exception.ErrorDetail.of c.vector c.errorCode =
      .selector (Exception.SelectorError.decode c.errorCode) := by
    simp only [List.mem_cons, List.not_mem_nil, or_false] at h
    rcases h with h | h | h | h <;> rw [h] <;> rfl
  unfold selectorWording
  rw [detail, hof]
  simp only [Exception.SelectorError.external_decode, Exception.SelectorError.toNat_table_decode,
    Exception.SelectorError.tableKind_decode, Exception.SelectorError.toNat_index_decode,
    decimal_eq_repr, String.join_cons, String.join_nil, String.append_empty,
    String.append_assoc]

theorem join_detail (c : Context) (cr2 : UInt64) :
    String.join (detail c cr2) = detailWording c cr2 := by
  rw [detailWording]
  split
  case isTrue hpage =>
    have hof : Exception.ErrorDetail.of c.vector c.errorCode =
        .pageFault (c.errorCode &&& UInt64.ofNat Exception.pageFaultNames.known) := by
      rw [hpage]
      rfl
    rw [detail, hof]
    simp only [String.join_append, String.join_cons, String.join_nil, String.append_empty,
      Context.join_wide, join_access]
  case isFalse hpage =>
    split
    case isTrue hselector => exact join_selector hselector cr2
    case isFalse hselector =>
      have hof : Exception.ErrorDetail.of c.vector c.errorCode = .none := by
        simp only [List.mem_cons, List.not_mem_nil, or_false, not_or] at hselector
        unfold Exception.ErrorDetail.of
        split
        case h_6 => rfl
        all_goals simp_all
      rw [detail, hof]
      rfl

theorem join_report (c : Context) (cr2 : UInt64) :
    String.join (report c cr2) = reportWording c cr2 := by
  simp [report, join_detail, c.join_dump, decimal_eq_repr, hex_eq_base16, reportWording,
    String.append_assoc]

end Fault
end InterruptCore
