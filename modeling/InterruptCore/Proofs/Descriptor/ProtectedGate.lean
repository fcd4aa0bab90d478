import InterruptCore.Proofs.Descriptor.GateBytes

/-! Protected-mode gates beside long-mode ones. The two layouts agree below bit 64, so a
protected-mode gate is a long-mode gate that has no stack and a small offset, and what is known of
the wide gates carries over. -/
namespace InterruptCore.Gate32

variable {g : Gate32} {raw : Word}

def widen (g : Gate32) : Gate64 :=
  ⟨g.offset.toUInt64, g.selector, 0, g.type, g.dpl, g.present⟩

def widenBytes (bs : Vector UInt8 8) : Vector UInt8 16 := bs ++ Vector.replicate 8 (0 : UInt8)

def clearReserved (bs : Vector UInt8 8) : Vector UInt8 8 :=
  (bs.set 4 0).set 5 (bs[5] &&& 0xef)

theorem toNat_ofBytes (bs : Vector UInt8 8) : (ofBytes bs.toList).toNat = Bytes.toNat bs.toList :=
  Bytes.toNat_word bs

theorem ofBytes_bytes (raw : Word) : ofBytes (bytes raw) = raw := Bytes.word_ofNat (w := 8) raw

theorem encodable_widen (h : g.dpl ≤ 3) : g.widen.Encodable := by
  have hist : g.widen.ist = 0 := rfl
  exact Gate64.encodable_of_le (by rw [hist]; decide) h

theorem widen_with_ist_inj {g g' : Gate32} {ist : UInt8}
    (h : { g.widen with ist := ist } = g'.widen) : g = g' := by
  cases g
  cases g'
  simp only [widen, Gate64.mk.injEq, UInt32.toUInt64_inj] at h
  obtain ⟨rfl, rfl, -, rfl, rfl, rfl⟩ := h
  rfl

theorem layout_widen (g : Gate32) : g.widen.layout = g.layout := by
  have hoffset : g.widen.offset.toNat = g.offset.toNat := UInt32.toNat_toUInt64 g.offset
  have hselector : g.widen.selector = g.selector := rfl
  have hist : g.widen.ist.toNat = 0 := rfl
  have hattributes : g.widen.attributes = g.attributes := rfl
  have hlt := g.offset.toNat_lt
  unfold Gate64.layout layout
  rw [hoffset, hselector, hist, hattributes]
  omega

theorem layout_lt (h : g.dpl ≤ 3) : g.layout < 0x10000000000000000 := by
  have hoffset := g.offset.toNat_lt
  have hselector := g.selector.bits.toNat_lt
  have hattributes : g.attributes < 0x100 := Gate64.attributes_lt (encodable_widen h)
  unfold layout
  omega

theorem toNat_setWidth (raw : Word) : (raw.setWidth 128).toNat = raw.toNat := by
  have hraw := raw.isLt
  rw [BitVec.toNat_setWidth]
  omega

theorem word_widen (h : g.dpl ≤ 3) : g.widen.word = g.word.setWidth 128 := by
  have hlayout := layout_lt h
  rw [← BitVec.toNat_inj, toNat_setWidth, Gate64.word, word, BitVec.toNat_ofNat,
    BitVec.toNat_ofNat, layout_widen]
  omega

theorem isPresent_setWidth (raw : Word) : Gate64.isPresent (raw.setWidth 128) = isPresent raw := by
  rw [Gate64.isPresent, isPresent, toNat_setWidth]

theorem decode_setWidth (raw : Word) :
    Gate64.decode (raw.setWidth 128) = (decode raw).map fun g =>
      { g.widen with ist := UInt8.ofNat (raw.toNat >>> 32 % 8) } := by
  have hraw := raw.isLt
  have hword := toNat_setWidth raw
  have hhigh : raw.toNat >>> 64 = 0 := by omega
  have hsmall : raw.toNat % 0x10000 + (raw.toNat >>> 48 % 0x10000) <<< 16 < 0x100000000 := by omega
  have htarget : Gate64.target (raw.setWidth 128) =
      (UInt32.ofNat (raw.toNat % 0x10000 + (raw.toNat >>> 48 % 0x10000) <<< 16)).toUInt64 := by
    rw [← UInt64.toNat_inj, Gate64.target, hword, hhigh, Nat.zero_mod, Nat.zero_shiftLeft,
      Nat.add_zero, UInt64.toNat_ofNat', UInt32.toNat_toUInt64, UInt32.toNat_ofNat']
    generalize raw.toNat % 0x10000 + (raw.toNat >>> 48 % 0x10000) <<< 16 = offset at hsmall ⊢
    omega
  unfold Gate64.decode decode
  simp only [hword, htarget]
  cases GateType.ofBits (raw.toNat >>> 40) <;> rfl

/-- A long-mode gate in a narrow word is a protected-mode gate, but for its stack. -/
theorem exists_narrow {wide : Gate64} (h : Gate64.decode (raw.setWidth 128) = .ok wide) :
    ∃ g ist, decode raw = .ok g ∧ wide = { g.widen with ist := ist } := by
  rw [decode_setWidth] at h
  cases hdecode : decode raw with
  | error e =>
    rw [hdecode] at h
    cases h
  | ok g =>
    rw [hdecode] at h
    exact ⟨g, _, rfl, (Except.ok.inj h).symm⟩

theorem decode_word (h : g.dpl ≤ 3) : decode g.word = .ok g := by
  have hread := Gate64.decode_word (encodable_widen h)
  rw [word_widen h] at hread
  obtain ⟨g', ist, hdecode, hsame⟩ := exists_narrow hread
  rw [hdecode, widen_with_ist_inj hsame.symm]

theorem isPresent_word (h : g.dpl ≤ 3) : isPresent g.word = g.present := by
  have hpresent := Gate64.isPresent_word (encodable_widen h)
  rwa [word_widen h, isPresent_setWidth] at hpresent

theorem bytes_setWidth (raw : Word) :
    Gate64.bytes (raw.setWidth 128) = bytes raw ++ List.replicate 8 0 := by
  have hraw := raw.isLt
  have hhigh : raw.toNat >>> 64 = 0 := by omega
  have hsplit : Bytes.ofNat 16 raw.toNat = Bytes.ofNat 8 raw.toNat ++
      Bytes.ofNat 8 (raw.toNat >>> 64) := Bytes.ofNat_add 8 8 raw.toNat
  rw [Gate64.bytes, toNat_setWidth, hsplit, hhigh]
  rfl

theorem toList_widenBytes (bs : Vector UInt8 8) :
    (widenBytes bs).toList = bs.toList ++ List.replicate 8 0 := by
  rw [widenBytes, Vector.toList_append, Vector.toList_replicate]

theorem ofBytes_widenBytes (bs : Vector UInt8 8) :
    Gate64.ofBytes (widenBytes bs).toList = (ofBytes bs.toList).setWidth 128 := by
  rw [← BitVec.toNat_inj, toNat_setWidth, toNat_ofBytes, Gate64.toNat_ofBytes, toList_widenBytes,
    Bytes.toNat_append_zeros]

theorem getElem_widenBytes (bs : Vector UInt8 8) {i : Nat} (h : i < 8) :
    (widenBytes bs)[i] = bs[i] :=
  Vector.getElem_append_left h

theorem decode_widenBytes (bs : Vector UInt8 8) :
    Gate64.decode (Gate64.ofBytes (widenBytes bs).toList) =
      (decode (ofBytes bs.toList)).map fun g => { g.widen with ist := bs[4] &&& 0x07 } := by
  have hist : UInt8.ofNat ((ofBytes bs.toList).toNat >>> 32 % 8) = bs[4] &&& 0x07 := by
    have hfourth : bs[4].toNat = Bytes.toNat bs.toList >>> 32 % 256 :=
      Bytes.toNat_vector_getElem bs 4 (by decide)
    rw [← UInt8.toNat_inj, toNat_lowThree, hfourth, toNat_ofBytes, UInt8.toNat_ofNat']
    omega
  rw [ofBytes_widenBytes, decode_setWidth, hist]

theorem decode_of_unknown {bs : Vector UInt8 8} (hunknown : ¬ KnownType bs[5]) :
    decode (ofBytes bs.toList) = .error (.unknownGateType (bs[5] &&& 0x0f)) := by
  rw [← getElem_widenBytes bs (by decide)] at hunknown
  have hread := Gate64.decode_of_unknown hunknown
  rw [decode_widenBytes, getElem_widenBytes bs (by decide)] at hread
  cases hdecode : decode (ofBytes bs.toList) with
  | error e =>
    rw [hdecode] at hread
    rw [Except.error.inj hread]
  | ok g =>
    rw [hdecode] at hread
    cases hread

theorem clearReserved_widenBytes (bs : Vector UInt8 8) :
    (Gate64.clearReserved (widenBytes bs)).toList.set 4 0 =
      (clearReserved bs).toList ++ List.replicate 8 0 := by
  obtain ⟨n, hn⟩ : ∃ n, bs.toList = Bytes.ofNat 8 n := ⟨_, (Bytes.ofNat_toNat_vector bs).symm⟩
  have hfifth : 5 < bs.toList.length := by rw [Vector.length_toList]; decide
  rw [Gate64.clearReserved, Vector.toList_zipWith, toList_widenBytes, clearReserved,
    Vector.toList_set, Vector.toList_set, ← Vector.getElem_toList hfifth]
  simp [hn, Bytes.ofNat, Gate64.fieldBits, and_full]

theorem decode_of_known {bs : Vector UInt8 8} (hknown : KnownType bs[5]) :
    ∃ g, decode (ofBytes bs.toList) = .ok g ∧ g.dpl ≤ 3 ∧
      bytes g.word = (clearReserved bs).toList ∧ isPresent (ofBytes bs.toList) = g.present := by
  rw [← getElem_widenBytes bs (by decide)] at hknown
  obtain ⟨wide, hread, hwide, hbytes, hpresent⟩ := Gate64.decode_of_known hknown
  rw [ofBytes_widenBytes] at hread
  rw [ofBytes_widenBytes, isPresent_setWidth] at hpresent
  obtain ⟨g, ist, hdecode, rfl⟩ := exists_narrow hread
  have hdpl : g.dpl ≤ 3 := UInt8.le_iff_toNat_le.mpr (Nat.le_of_lt_succ hwide.dpl)
  -- the stack is byte 4 and nothing else
  have hset : g.widen.hardware =
      ({ g.widen with ist := ist } : Gate64).hardware.set 4 0 := rfl
  refine ⟨g, hdecode, hdpl, ?_, hpresent⟩
  rw [hbytes, clearReserved_widenBytes, ← Gate64.bytes_word (encodable_widen hdpl),
    word_widen hdpl, bytes_setWidth] at hset
  exact List.append_cancel_right hset

theorem encode_eq_word (h : g.dpl ≤ 3) : g.encode = .ok g.word := by
  have hdpl : ¬ SegmentDescriptor.privilegeMax < g.dpl := UInt8.not_lt.mpr h
  rw [encode, if_neg hdpl]

theorem encode_eq_error_iff : g.encode = .error (.privilegeOutOfRange g.dpl) ↔ 3 < g.dpl := by
  constructor
  · intro hencode
    rcases UInt8.lt_or_le 3 g.dpl with hdpl | hdpl
    · exact hdpl
    · rw [encode_eq_word hdpl] at hencode
      cases hencode
  · intro hdpl
    exact if_pos hdpl

/-- A gate with its level in range is written, and reads back; eight bytes are a gate when their
type is known, and are written back with the reserved bits clear. Eight zero bytes after them make
a long-mode gate with the same fields, for writing as for reading, errors included. -/
theorem gates_widen_to_long_mode :
    (∀ g : Gate32, g.encode = .error (.privilegeOutOfRange g.dpl) ↔ 3 < g.dpl) ∧
    (∀ g : Gate32, g.dpl ≤ 3 → ∃ raw wide, g.encode = .ok raw ∧
      decode (ofBytes (bytes raw)) = .ok g ∧ isPresent (ofBytes (bytes raw)) = g.present ∧
      g.widen.encode = .ok wide ∧ Gate64.bytes wide = bytes raw ++ List.replicate 8 0) ∧
    (∀ bs : Vector UInt8 8, ¬ KnownType bs[5] →
      decode (ofBytes bs.toList) = .error (.unknownGateType (bs[5] &&& 0x0f))) ∧
    (∀ bs : Vector UInt8 8, KnownType bs[5] →
      ∃ g raw, decode (ofBytes bs.toList) = .ok g ∧ g.encode = .ok raw ∧
        bytes raw = (clearReserved bs).toList ∧ isPresent (ofBytes bs.toList) = g.present) ∧
    (∀ bs : Vector UInt8 8,
      Gate64.decode (Gate64.ofBytes (bs.toList ++ List.replicate 8 0)) =
        (decode (ofBytes bs.toList)).map fun g => { g.widen with ist := bs[4] &&& 0x07 }) := by
  refine ⟨fun _ => encode_eq_error_iff, ?_, fun _ => decode_of_unknown, ?_, ?_⟩
  · intro g hdpl
    have hwide : g.widen.encode = .ok (g.word.setWidth 128) := by
      rw [Gate64.encode_eq_word (encodable_widen hdpl), word_widen hdpl]
    rw [encode_eq_word hdpl]
    refine ⟨_, _, rfl, ?_, ?_, hwide, bytes_setWidth _⟩
    · rw [ofBytes_bytes, decode_word hdpl]
    · rw [ofBytes_bytes, isPresent_word hdpl]
  · intro bs hknown
    obtain ⟨g, hread, hdpl, hbytes, hpresent⟩ := decode_of_known hknown
    exact ⟨g, _, hread, encode_eq_word hdpl, hbytes, hpresent⟩
  · intro bs
    rw [← toList_widenBytes, decode_widenBytes]

/-- A gate with something in every field, and its bytes with all reserved bits set. -/
theorem gates_widen_to_long_mode_for_user_trap :
    let g : Gate32 := ⟨0x9abcdef0, ⟨0x2b⟩, .trap, 3, true⟩
    let bs : Vector UInt8 8 := #v[0xf0, 0xde, 0x2b, 0x00, 0xff, 0xff, 0xbc, 0x9a]
    (∃ wide, g.widen.encode = .ok wide ∧ Gate64.bytes wide =
      [0xf0, 0xde, 0x2b, 0x00, 0x00, 0xef, 0xbc, 0x9a, 0, 0, 0, 0, 0, 0, 0, 0]) ∧
    ∃ g' raw, decode (ofBytes bs.toList) = .ok g' ∧ g'.encode = .ok raw ∧
      bytes raw = [0xf0, 0xde, 0x2b, 0x00, 0x00, 0xef, 0xbc, 0x9a] := by
  intro g bs
  have hcleared : (clearReserved bs).toList = [0xf0, 0xde, 0x2b, 0x00, 0x00, 0xef, 0xbc, 0x9a] := by
    decide
  have hword : g.word = 0x9abcef00002bdef0 := by decide
  obtain ⟨-, hwritten, -, hread, -⟩ := gates_widen_to_long_mode
  obtain ⟨raw, wide, hencode, -, -, hwide, hbytes⟩ := hwritten g (by decide)
  obtain ⟨g', raw', hdecode, hencode', hbytes', -⟩ := hread bs (Or.inr (by decide))
  rw [encode_eq_word (by decide), hword] at hencode
  obtain rfl := Except.ok.inj hencode
  rw [hcleared] at hbytes'
  exact ⟨⟨wide, hwide, hbytes⟩, g', raw', hdecode, hencode', hbytes'⟩

end InterruptCore.Gate32
