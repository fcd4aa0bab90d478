import InterruptCore.Proofs.Descriptor.Gate

/-! Long-mode gates in memory. A gate is written byte by byte as the processor reads it. Reading
looks at the type nibble first; it passes over some bits, and writing leaves these clear, so what
a gate is written as is known by its type and its clear bits. -/
namespace InterruptCore

def attributeByte (type : GateType) (dpl : UInt8) (present : Bool) : UInt8 :=
  UInt8.ofNat type.bits ||| dpl <<< 5 ||| if present then 0x80 else 0

def KnownType (b : UInt8) : Prop := b &&& 0x0f = 0x0e ∨ b &&& 0x0f = 0x0f

theorem toNat_attributeByte (type : GateType) {dpl : UInt8} (h : dpl.toNat < 4) (present : Bool) :
    (attributeByte type dpl present).toNat = gateAttributes type dpl present := by
  have hlevels : ∀ i : Fin 4, (attributeByte type (UInt8.ofNat i.val) present).toNat =
      gateAttributes type (UInt8.ofNat i.val) present := by
    cases type <;> cases present <;> decide
  have hdpl := hlevels ⟨dpl.toNat, h⟩
  rwa [UInt8.ofNat_toNat] at hdpl

theorem knownType_iff (b : UInt8) :
    KnownType b ↔ b.toNat % 16 = 14 ∨ b.toNat % 16 = 15 := by
  rw [KnownType, ← UInt8.toNat_inj, ← UInt8.toNat_inj, Bytes.toNat_lowNibble]
  rfl

theorem GateType.ofBits_of_known {b : UInt8} (h : KnownType b) :
    ∃ type, GateType.ofBits b.toNat = .ok type := by
  rcases (knownType_iff b).mp h with h | h
  · exact ⟨.interrupt, ofBits_of_digit h⟩
  · exact ⟨.trap, ofBits_of_digit h⟩

theorem GateType.ofBits_of_unknown {b : UInt8} (h : ¬ KnownType b) :
    GateType.ofBits b.toNat = .error (.unknownGateType (b &&& 0x0f)) := by
  have hnibble : UInt8.ofNat (b.toNat % 16) = b &&& 0x0f := by
    rw [← Bytes.toNat_lowNibble, UInt8.ofNat_toNat]
  rw [knownType_iff] at h
  unfold ofBits
  split
  · exact absurd (Or.inl ‹_›) h
  · exact absurd (Or.inr ‹_›) h
  · rw [hnibble]

theorem GateType.bits_of_ofBits {b : Nat} {type : GateType} (h : GateType.ofBits b = .ok type) :
    type.bits = b % 16 := by
  unfold ofBits at h
  split at h
  · cases h
    exact (‹b % 16 = 14›).symm
  · cases h
    exact (‹b % 16 = 15›).symm
  · cases h

theorem toNat_lowThree (b : UInt8) : (b &&& 0x07).toNat = b.toNat % 8 := by
  rw [UInt8.toNat_and]
  exact Nat.and_two_pow_sub_one_eq_mod b.toNat 3

theorem and_full (b : UInt8) : b &&& 0xff = b := UInt8.and_neg_one

theorem toNat_clearBit4 (b : UInt8) :
    (b &&& 0xef).toNat = b.toNat % 16 + (b.toNat >>> 5) <<< 5 := by
  revert b
  exact Bytes.forall_byte (by decide +kernel)

/-- The attributes that are read from a byte are written as that byte, with bit 4 clear. -/
theorem attributeByte_of_ofBits {b : UInt8} {type : GateType}
    (h : GateType.ofBits b.toNat = .ok type) :
    attributeByte type (UInt8.ofNat (b.toNat >>> 5 % 4)) (b.toNat.testBit 7) = b &&& 0xef := by
  have hb := b.toNat_lt
  have hlevel : (UInt8.ofNat (b.toNat >>> 5 % 4)).toNat = b.toNat >>> 5 % 4 := by
    rw [UInt8.toNat_ofNat']
    omega
  have hpresent : (b.toNat.testBit 7).toNat = b.toNat >>> 7 := by
    rw [Nat.toNat_testBit]
    omega
  rw [← UInt8.toNat_inj, toNat_attributeByte type (by omega), gateAttributes, hlevel, hpresent,
    GateType.bits_of_ofBits h, toNat_clearBit4]
  omega

namespace Gate64

variable {g : Gate64} {raw : Word} {low selector ist attributes middle high : Nat}

def hardware (g : Gate64) : List UInt8 :=
  Bytes.ofNat 2 g.offset.toNat ++ Bytes.ofNat 2 g.selector.bits.toNat ++
    [g.ist, attributeByte g.type g.dpl g.present] ++ Bytes.ofNat 2 (g.offset.toNat >>> 16) ++
    Bytes.ofNat 4 (g.offset.toNat >>> 32) ++ [0, 0, 0, 0]

/-- The bits of each byte that belong to a field. -/
def fieldBits : Vector UInt8 16 :=
  #v[0xff, 0xff, 0xff, 0xff, 0x07, 0xef, 0xff, 0xff, 0xff, 0xff, 0xff, 0xff, 0, 0, 0, 0]

/-- The bytes with the reserved bits clear. -/
def clearReserved (bs : Vector UInt8 16) : Vector UInt8 16 := bs.zipWith (· &&& ·) fieldBits

theorem toNat_ofBytes (bs : Vector UInt8 16) : (ofBytes bs.toList).toNat = Bytes.toNat bs.toList :=
  Bytes.toNat_word bs

theorem ofBytes_bytes (raw : Word) : ofBytes (bytes raw) = raw := Bytes.word_ofNat (w := 16) raw

theorem bytes_of_digits {w : Nat} (h : Digits w low selector ist attributes middle high) :
    Bytes.ofNat 16 w = Bytes.ofNat 2 low ++ Bytes.ofNat 2 selector ++
      [UInt8.ofNat ist, UInt8.ofNat attributes] ++ Bytes.ofNat 2 middle ++
      Bytes.ofNat 4 high ++ Bytes.ofNat 4 (high >>> 32) := by
  have hlow : Bytes.ofNat 16 w = Bytes.ofNat 2 w ++ Bytes.ofNat 14 (w >>> 16) :=
    Bytes.ofNat_add 2 14 w
  have hselector : Bytes.ofNat 14 (w >>> 16) =
      Bytes.ofNat 2 (w >>> 16) ++ Bytes.ofNat 12 (w >>> 32) := Bytes.ofNat_add 2 12 (w >>> 16)
  have hist : Bytes.ofNat 12 (w >>> 32) = Bytes.ofNat 1 (w >>> 32) ++ Bytes.ofNat 11 (w >>> 40) :=
    Bytes.ofNat_add 1 11 (w >>> 32)
  have hattributes : Bytes.ofNat 11 (w >>> 40) =
      Bytes.ofNat 1 (w >>> 40) ++ Bytes.ofNat 10 (w >>> 48) := Bytes.ofNat_add 1 10 (w >>> 40)
  have hmiddle : Bytes.ofNat 10 (w >>> 48) = Bytes.ofNat 2 (w >>> 48) ++ Bytes.ofNat 8 (w >>> 64) :=
    Bytes.ofNat_add 2 8 (w >>> 48)
  have hhigh : Bytes.ofNat 8 (w >>> 64) =
      Bytes.ofNat 4 (w >>> 64) ++ Bytes.ofNat 4 (w >>> 64 >>> 32) := Bytes.ofNat_add 4 4 (w >>> 64)
  rw [hlow, hselector, hist, hattributes, hmiddle, hhigh, ← Bytes.ofNat_mod 2 w,
    ← Bytes.ofNat_mod 2 (w >>> 16), ← Bytes.ofNat_mod 1 (w >>> 32), ← Bytes.ofNat_mod 1 (w >>> 40),
    ← Bytes.ofNat_mod 2 (w >>> 48)]
  obtain ⟨rfl, rfl, rfl, rfl, rfl, rfl⟩ := h
  rfl

theorem bytes_word (h : g.Encodable) : bytes g.word = g.hardware := by
  have hlow : Bytes.ofNat 2 (g.offset.toNat % 0x10000) = Bytes.ofNat 2 g.offset.toNat :=
    Bytes.ofNat_mod 2 g.offset.toNat
  have hmiddle : Bytes.ofNat 2 (g.offset.toNat >>> 16 % 0x10000) =
      Bytes.ofNat 2 (g.offset.toNat >>> 16) := Bytes.ofNat_mod 2 (g.offset.toNat >>> 16)
  have hattributes : UInt8.ofNat g.attributes = attributeByte g.type g.dpl g.present := by
    rw [attributes, ← toNat_attributeByte g.type h.dpl g.present, UInt8.ofNat_toNat]
  have hreserved : g.offset.toNat >>> 32 >>> 32 = 0 := by
    have hoffset := g.offset.toNat_lt
    omega
  rw [bytes, bytes_of_digits (word_digits h), hlow, hmiddle, hattributes, hreserved,
    UInt8.ofNat_toNat]
  rfl

theorem target_of_digits (h : Digits raw.toNat low selector ist attributes middle high) :
    Bytes.ofNat 2 (target raw).toNat = Bytes.ofNat 2 low ∧
      Bytes.ofNat 2 ((target raw).toNat >>> 16) = Bytes.ofNat 2 middle ∧
      Bytes.ofNat 4 ((target raw).toNat >>> 32) = Bytes.ofNat 4 high := by
  have hlow : low < 0x10000 := by rw [← h.low]; exact Nat.mod_lt _ (by decide)
  have hmiddle : middle < 0x10000 := by rw [← h.middle]; exact Nat.mod_lt _ (by decide)
  have htarget : (target raw).toNat = low + middle <<< 16 + (high % 0x100000000) <<< 32 := by
    rw [target, UInt64.toNat_ofNat', h.low, h.middle, h.high]
    omega
  rw [htarget]
  refine ⟨Bytes.ofNat_congr ?_, Bytes.ofNat_congr ?_, Bytes.ofNat_congr ?_⟩
  · change _ % 0x10000 = _ % 0x10000
    omega
  · change _ % 0x10000 = _ % 0x10000
    omega
  · change _ % 0x100000000 = _ % 0x100000000
    omega

theorem isPresent_of_digits (h : Digits raw.toNat low selector ist attributes middle high) :
    isPresent raw = attributes.testBit 7 := by
  have hbit : raw.toNat >>> 47 % 2 = attributes >>> 7 % 2 := by rw [← h.attributes]; omega
  rw [isPresent, Nat.testBit_eq_decide_div_mod_eq, Nat.testBit_eq_decide_div_mod_eq,
    ← Nat.shiftRight_eq_div_pow, ← Nat.shiftRight_eq_div_pow, hbit]

theorem decode_of_digits (h : Digits raw.toNat low selector ist attributes middle high) :
    decode raw = (GateType.ofBits attributes).map fun type =>
      { offset := target raw
        selector := ⟨UInt16.ofNat selector⟩
        ist := UInt8.ofNat (ist % 8)
        type := type
        dpl := UInt8.ofNat (attributes >>> 5 % 4)
        present := attributes.testBit 7 } := by
  have htype : GateType.ofBits (raw.toNat >>> 40) = GateType.ofBits attributes := by
    have hnibble : raw.toNat >>> 40 % 16 = attributes % 16 := by rw [← h.attributes]; omega
    rw [GateType.ofBits, GateType.ofBits, hnibble]
  have hselector : UInt16.ofNat (raw.toNat >>> 16) = UInt16.ofNat selector := by
    rw [← UInt16.toNat_inj, UInt16.toNat_ofNat', UInt16.toNat_ofNat', ← h.selector]
    exact (Nat.mod_mod _ _).symm
  have hist : raw.toNat >>> 32 % 8 = ist % 8 := by rw [← h.ist]; omega
  have hdpl : raw.toNat >>> 45 % 4 = attributes >>> 5 % 4 := by rw [← h.attributes]; omega
  have hpresent : raw.toNat.testBit 47 = attributes.testBit 7 := isPresent_of_digits h
  unfold decode
  simp only [htype, hselector, hist, hdpl, hpresent]
  cases GateType.ofBits attributes <;> rfl

theorem digits_ofBytes (bs : Vector UInt8 16) :
    ∃ low selector middle high,
      Digits (ofBytes bs.toList).toNat low selector bs[4].toNat bs[5].toNat middle high ∧
      bytes (ofBytes bs.toList) = bs.toList := by
  refine ⟨_, _, _, _, ⟨rfl, rfl, ?_, ?_, rfl, rfl⟩, ?_⟩
  · rw [toNat_ofBytes]
    exact (Bytes.toNat_vector_getElem bs 4 (by decide)).symm
  · rw [toNat_ofBytes]
    exact (Bytes.toNat_vector_getElem bs 5 (by decide)).symm
  · rw [bytes, toNat_ofBytes, Bytes.ofNat_toNat_vector]

theorem clearReserved_of_digits {bs : Vector UInt8 16}
    (h : Digits (ofBytes bs.toList).toNat low selector bs[4].toNat bs[5].toNat middle high)
    (hbytes : bytes (ofBytes bs.toList) = bs.toList) :
    (clearReserved bs).toList = Bytes.ofNat 2 low ++ Bytes.ofNat 2 selector ++
      [bs[4] &&& 0x07, bs[5] &&& 0xef] ++ Bytes.ofNat 2 middle ++ Bytes.ofNat 4 high ++
      [0, 0, 0, 0] := by
  have hread : bs.toList = Bytes.ofNat 2 low ++ Bytes.ofNat 2 selector ++
      [bs[4], bs[5]] ++ Bytes.ofNat 2 middle ++ Bytes.ofNat 4 high ++
      Bytes.ofNat 4 (high >>> 32) := by
    rw [← hbytes, bytes, bytes_of_digits h, UInt8.ofNat_toNat, UInt8.ofNat_toNat]
  rw [clearReserved, Vector.toList_zipWith, hread]
  simp [fieldBits, Bytes.ofNat, and_full]

/-- A gate is written as it was read, but for the reserved bits. -/
theorem decode_of_known {bs : Vector UInt8 16} (hknown : KnownType bs[5]) :
    ∃ g, decode (ofBytes bs.toList) = .ok g ∧ g.Encodable ∧
      g.hardware = (clearReserved bs).toList ∧ isPresent (ofBytes bs.toList) = g.present := by
  obtain ⟨type, htype⟩ := GateType.ofBits_of_known hknown
  obtain ⟨low, selector, middle, high, h, hbytes⟩ := digits_ofBytes bs
  have hdecode := decode_of_digits h
  rw [htype] at hdecode
  refine ⟨_, hdecode, ⟨?_, ?_⟩, ?_, isPresent_of_digits h⟩
  · rw [UInt8.toNat_ofNat']
    omega
  · rw [UInt8.toNat_ofNat']
    omega
  · obtain ⟨hlow, hmiddle, hhigh⟩ := target_of_digits h
    have hselector : Bytes.ofNat 2 (UInt16.ofNat selector).toNat = Bytes.ofNat 2 selector := by
      rw [UInt16.toNat_ofNat']
      exact Bytes.ofNat_mod 2 selector
    have hist : UInt8.ofNat (bs[4].toNat % 8) = bs[4] &&& 0x07 := by
      rw [← toNat_lowThree, UInt8.ofNat_toNat]
    rw [clearReserved_of_digits h hbytes, hardware, hlow, hmiddle, hhigh, hselector, hist,
      attributeByte_of_ofBits htype]

theorem decode_of_unknown {bs : Vector UInt8 16} (hunknown : ¬ KnownType bs[5]) :
    decode (ofBytes bs.toList) = .error (.unknownGateType (bs[5] &&& 0x0f)) := by
  obtain ⟨low, selector, middle, high, h, -⟩ := digits_ofBytes bs
  rw [decode_of_digits h, GateType.ofBits_of_unknown hunknown]
  rfl

theorem ofBytes_hardware (h : g.Encodable) : ofBytes g.hardware = g.word := by
  rw [← bytes_word h, ofBytes_bytes]

theorem encode_of_ist (hist : 7 < g.ist) : g.encode = .error (.istOutOfRange g.ist) := if_pos hist

theorem encode_of_dpl (hist : g.ist ≤ 7) (hdpl : 3 < g.dpl) :
    g.encode = .error (.privilegeOutOfRange g.dpl) := by
  have hstack : ¬ istMax < g.ist := UInt8.not_lt.mpr hist
  rw [encode, if_neg hstack]
  exact if_pos hdpl

theorem encodable_of_le (hist : g.ist ≤ 7) (hdpl : g.dpl ≤ 3) : g.Encodable :=
  ⟨Nat.lt_succ_of_le (UInt8.le_iff_toNat_le.mp hist),
    Nat.lt_succ_of_le (UInt8.le_iff_toNat_le.mp hdpl)⟩

theorem encode_eq_ok_iff : g.encode = .ok raw ↔ g.Encodable ∧ g.word = raw := by
  constructor
  · intro hencode
    rcases UInt8.lt_or_le 7 g.ist with hist | hist
    · rw [encode_of_ist hist] at hencode
      cases hencode
    rcases UInt8.lt_or_le 3 g.dpl with hdpl | hdpl
    · rw [encode_of_dpl hist hdpl] at hencode
      cases hencode
    have h := encodable_of_le hist hdpl
    rw [encode_eq_word h] at hencode
    exact ⟨h, Except.ok.inj hencode⟩
  · rintro ⟨h, rfl⟩
    exact encode_eq_word h

theorem exists_hardware_iff (bs : Vector UInt8 16) :
    (∃ g : Gate64, g.Encodable ∧ g.hardware = bs.toList) ↔
      KnownType bs[5] ∧ clearReserved bs = bs := by
  constructor
  · rintro ⟨g, h, hbs⟩
    have hread : decode (ofBytes bs.toList) = .ok g := by
      rw [← hbs, ofBytes_hardware h, decode_word h]
    by_cases hknown : KnownType bs[5]
    · obtain ⟨g', hread', -, hcleared, -⟩ := decode_of_known hknown
      rw [hread, Except.ok.injEq] at hread'
      rw [← hread', hbs, Vector.toList_inj] at hcleared
      exact ⟨hknown, hcleared.symm⟩
    · rw [decode_of_unknown hknown] at hread
      cases hread
  · rintro ⟨hknown, hcleared⟩
    obtain ⟨g, -, h, hbytes, -⟩ := decode_of_known hknown
    rw [hcleared] at hbytes
    exact ⟨g, h, hbytes⟩

/-- A gate with a stack or a level out of range has no encoding, and the stack is told first. Any
other is written as the processor reads it, and reads back. Sixteen bytes are a gate when their
type is known; what that gate is written as has the reserved bits clear and is else the same. -/
theorem gates_correspond_to_bytes :
    (∀ g : Gate64, 7 < g.ist → g.encode = .error (.istOutOfRange g.ist)) ∧
    (∀ g : Gate64, g.ist ≤ 7 → 3 < g.dpl → g.encode = .error (.privilegeOutOfRange g.dpl)) ∧
    (∀ g : Gate64, g.ist ≤ 7 → g.dpl ≤ 3 →
      ∃ raw, g.encode = .ok raw ∧ bytes raw = g.hardware ∧
        decode (ofBytes g.hardware) = .ok g ∧ isPresent (ofBytes g.hardware) = g.present) ∧
    (∀ bs : Vector UInt8 16, ¬ KnownType bs[5] →
      decode (ofBytes bs.toList) = .error (.unknownGateType (bs[5] &&& 0x0f))) ∧
    (∀ bs : Vector UInt8 16, KnownType bs[5] →
      ∃ g raw, decode (ofBytes bs.toList) = .ok g ∧ g.encode = .ok raw ∧
        bytes raw = (clearReserved bs).toList ∧ isPresent (ofBytes bs.toList) = g.present) ∧
    (∀ bs : Vector UInt8 16, (∃ (g : Gate64) (raw : Word), g.encode = .ok raw ∧
      bytes raw = bs.toList) ↔ KnownType bs[5] ∧ clearReserved bs = bs) := by
  refine ⟨fun _ => encode_of_ist, fun _ => encode_of_dpl, ?_, fun _ => decode_of_unknown, ?_, ?_⟩
  · intro g hist hdpl
    have h := encodable_of_le hist hdpl
    rw [ofBytes_hardware h]
    exact ⟨_, encode_eq_word h, bytes_word h, decode_word h, isPresent_word h⟩
  · intro bs hknown
    obtain ⟨g, hread, h, hbytes, hpresent⟩ := decode_of_known hknown
    rw [← bytes_word h] at hbytes
    exact ⟨g, _, hread, encode_eq_word h, hbytes, hpresent⟩
  · intro bs
    rw [← exists_hardware_iff]
    constructor
    · rintro ⟨g, raw, hencode, hbytes⟩
      obtain ⟨h, rfl⟩ := encode_eq_ok_iff.mp hencode
      exact ⟨g, h, bytes_word h ▸ hbytes⟩
    · rintro ⟨g, h, hbytes⟩
      exact ⟨g, _, encode_eq_word h, (bytes_word h).trans hbytes⟩

/-- A gate with something in every field, and its bytes with all reserved bits set. -/
theorem gates_correspond_to_bytes_for_user_trap :
    let g : Gate64 := ⟨0x123456789abcdef0, ⟨0x2b⟩, 5, .trap, 3, true⟩
    let bs : Vector UInt8 16 := #v[0xf0, 0xde, 0x2b, 0x00, 0xfd, 0xff, 0xbc, 0x9a, 0x78, 0x56,
      0x34, 0x12, 0xff, 0xff, 0xff, 0xff]
    (∃ raw, g.encode = .ok raw ∧ bytes raw = [0xf0, 0xde, 0x2b, 0x00, 0x05, 0xef, 0xbc, 0x9a,
      0x78, 0x56, 0x34, 0x12, 0, 0, 0, 0]) ∧
    ∃ g' raw, decode (ofBytes bs.toList) = .ok g' ∧ g'.encode = .ok raw ∧
      bytes raw = [0xf0, 0xde, 0x2b, 0x00, 0x05, 0xef, 0xbc, 0x9a, 0x78, 0x56, 0x34, 0x12,
        0, 0, 0, 0] := by
  intro g bs
  have hhardware : g.hardware = [0xf0, 0xde, 0x2b, 0x00, 0x05, 0xef, 0xbc, 0x9a, 0x78, 0x56,
    0x34, 0x12, 0, 0, 0, 0] := by decide
  have hcleared : (clearReserved bs).toList = [0xf0, 0xde, 0x2b, 0x00, 0x05, 0xef, 0xbc, 0x9a,
    0x78, 0x56, 0x34, 0x12, 0, 0, 0, 0] := by
    rw [clearReserved, Vector.toList_zipWith]
    decide
  obtain ⟨-, -, hwritten, -, hread, -⟩ := gates_correspond_to_bytes
  obtain ⟨raw, hencode, hbytes, -⟩ := hwritten g (by decide) (by decide)
  obtain ⟨g', raw', hdecode, hencode', hbytes', -⟩ := hread bs (Or.inr (by decide))
  rw [hhardware] at hbytes
  rw [hcleared] at hbytes'
  exact ⟨⟨raw, hencode, hbytes⟩, g', raw', hdecode, hencode', hbytes'⟩

end Gate64

end InterruptCore
