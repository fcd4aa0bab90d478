import InterruptCore.Descriptor.Segment
import Mathlib.Data.Set.Function

/-! Segment descriptors and their words. A description is written byte by byte as the processor
reads it; reading gives the description back, less the bits that have no place in a word. Every
word is the encoding of what it reads as, so descriptions without such bits and words are the
same thing. -/
namespace InterruptCore

namespace SegmentDescriptor

structure Encodable (s : SegmentDescriptor) : Prop where
  dpl : s.dpl ≤ 3
  limit : s.limit ≤ 0xfffff

/-- Encodable, and with nothing in the bits that an encoding leaves out. -/
structure Valid (s : SegmentDescriptor) : Prop extends Encodable s where
  access : s.access &&& 0x60 = 0
  flags : s.flags &&& 0xf0 = 0

/-- What an encoding keeps: the level has its place in the access byte, the flags are four. -/
def kept (s : SegmentDescriptor) : SegmentDescriptor :=
  { s with access := s.access &&& 0x9f, flags := s.flags &&& 0x0f }

/-- Byte 5: the level stands in bits 5 and 6 of the access byte. -/
def accessByte (s : SegmentDescriptor) : UInt8 := (s.access &&& 0x9f : UInt8) ||| s.dpl <<< 5

/-- Byte 6: the top of the limit, and the flags above it. -/
def flagsByte (s : SegmentDescriptor) : UInt8 :=
  UInt8.ofNat (s.limit.toNat >>> 16) ||| s.flags <<< 4

def hardware (s : SegmentDescriptor) : List UInt8 :=
  Bytes.ofNat 2 s.limit.toNat ++ Bytes.ofNat 3 s.base.toNat ++
    [s.accessByte, s.flagsByte] ++ Bytes.ofNat 1 (s.base.toNat >>> 24)

structure Digits (w limit base access flags top : Nat) : Prop where
  limit : w % 0x10000 = limit
  base : w >>> 16 % 0x1000000 = base
  access : w >>> 40 % 0x100 = access
  flags : w >>> 48 % 0x100 = flags
  top : w >>> 56 = top

theorem digits_of_sum {w limit base access flags top : Nat}
    (hw : w = limit + base <<< 16 + access <<< 40 + flags <<< 48 + top <<< 56)
    (hlimit : limit < 0x10000) (hbase : base < 0x1000000) (haccess : access < 0x100)
    (hflags : flags < 0x100) : Digits w limit base access flags top := by
  have h40 : w >>> 40 = access + flags <<< 8 + top <<< 16 := by omega
  have h48 : w >>> 48 = flags + top <<< 8 := by omega
  constructor
  · omega
  · omega
  · rw [h40]; omega
  · rw [h48]; omega
  · omega

theorem sum_of_digits {w limit base access flags top : Nat}
    (h : Digits w limit base access flags top) :
    w = limit + base <<< 16 + access <<< 40 + flags <<< 48 + top <<< 56 := by
  obtain ⟨rfl, rfl, rfl, rfl, rfl⟩ := h
  omega

theorem decode_of_digits {raw : UInt64} {limit base access flags top : Nat}
    (h : Digits raw.toNat limit base access flags top) :
    decode raw =
      { base := UInt32.ofNat (base + top <<< 24)
        limit := UInt32.ofNat (limit + (flags % 0x10) <<< 16)
        access := UInt8.ofNat (access % 0x20 + (access >>> 7) <<< 7)
        dpl := UInt8.ofNat (access >>> 5 % 4)
        flags := UInt8.ofNat (flags >>> 4) } := by
  have hflags : raw.toNat >>> 52 % 0x10 = flags >>> 4 := by rw [← h.flags]; omega
  have hlimit : raw.toNat >>> 48 % 0x10 = flags % 0x10 := by rw [← h.flags]; omega
  have haccess : raw.toNat >>> 40 % 0x20 = access % 0x20 := by rw [← h.access]; omega
  have hpresent : raw.toNat >>> 47 % 2 = access >>> 7 := by rw [← h.access]; omega
  have hdpl : raw.toNat >>> 45 % 4 = access >>> 5 % 4 := by rw [← h.access]; omega
  rw [decode, h.limit, h.base, h.top, hlimit, haccess, hpresent, hdpl, hflags]

variable {s : SegmentDescriptor}

theorem encode_eq_word (h : s.Encodable) : s.encode = .ok (UInt64.ofNat s.word) := by
  have hdpl : ¬ privilegeMax < s.dpl := UInt8.not_lt.mpr h.dpl
  have hlimit : ¬ limitMax < s.limit := UInt32.not_lt.mpr h.limit
  rw [encode, if_neg hdpl, if_neg hlimit]

theorem dpl_lt (h : s.Encodable) : s.dpl.toNat < 4 :=
  Nat.lt_succ_of_le (UInt8.le_iff_toNat_le.mp h.dpl)

theorem limit_lt (h : s.Encodable) : s.limit.toNat < 0x100000 :=
  Nat.lt_succ_of_le (UInt32.le_iff_toNat_le.mp h.limit)

theorem attributes_lt (h : s.Encodable) : s.attributes < 0x100 := by
  have hdpl := dpl_lt h
  have haccess := s.access.toNat_lt
  unfold attributes
  omega

theorem word_digits (h : s.Encodable) :
    Digits s.word (s.limit.toNat % 0x10000) (s.base.toNat % 0x1000000) s.attributes
      (s.limit.toNat >>> 16 % 0x10 + (s.flags.toNat % 0x10) <<< 4) (s.base.toNat >>> 24) := by
  have hattributes := attributes_lt h
  have hword : s.word = s.limit.toNat % 0x10000 + (s.base.toNat % 0x1000000) <<< 16
      + s.attributes <<< 40 + (s.limit.toNat >>> 16 % 0x10 + (s.flags.toNat % 0x10) <<< 4) <<< 48
      + (s.base.toNat >>> 24) <<< 56 := by
    unfold word
    omega
  apply digits_of_sum hword <;> omega

theorem toNat_word (h : s.Encodable) : (UInt64.ofNat s.word).toNat = s.word := by
  have hbase := s.base.toNat_lt
  have hattributes := attributes_lt h
  rw [UInt64.toNat_ofNat']
  apply Nat.mod_eq_of_lt
  rw [sum_of_digits (word_digits h)]
  omega

theorem bytes_of_digits {w limit base access flags top : Nat}
    (h : Digits w limit base access flags top) :
    Bytes.ofNat 8 w = Bytes.ofNat 2 limit ++ Bytes.ofNat 3 base ++
      [UInt8.ofNat access, UInt8.ofNat flags] ++ Bytes.ofNat 1 top := by
  have hhead : Bytes.ofNat 8 w = Bytes.ofNat 2 w ++ Bytes.ofNat 6 (w >>> 16) :=
    Bytes.ofNat_add 2 6 w
  have hbase : Bytes.ofNat 6 (w >>> 16) = Bytes.ofNat 3 (w >>> 16) ++ Bytes.ofNat 3 (w >>> 40) :=
    Bytes.ofNat_add 3 3 (w >>> 16)
  have haccess : Bytes.ofNat 3 (w >>> 40) = Bytes.ofNat 1 (w >>> 40) ++ Bytes.ofNat 2 (w >>> 48) :=
    Bytes.ofNat_add 1 2 (w >>> 40)
  have hflags : Bytes.ofNat 2 (w >>> 48) = Bytes.ofNat 1 (w >>> 48) ++ Bytes.ofNat 1 (w >>> 56) :=
    Bytes.ofNat_add 1 1 (w >>> 48)
  rw [hhead, hbase, haccess, hflags, ← Bytes.ofNat_mod 2 w, ← Bytes.ofNat_mod 3 (w >>> 16),
    ← Bytes.ofNat_mod 1 (w >>> 40), ← Bytes.ofNat_mod 1 (w >>> 48)]
  obtain ⟨rfl, rfl, rfl, rfl, rfl⟩ := h
  rfl

theorem toNat_access (b : UInt8) :
    (b &&& 0x9f).toNat = b.toNat % 0x20 + (b.toNat >>> 7) <<< 7 := by
  revert b
  exact Bytes.forall_byte (by decide +kernel)

/-- Reading a word that was written gives the description back, less what has no place. -/
theorem decode_word (h : s.Encodable) : decode (UInt64.ofNat s.word) = s.kept := by
  have hdigits := word_digits h
  rw [← toNat_word h] at hdigits
  have hlimit := limit_lt h
  have hdpl := dpl_lt h
  have hbase := s.base.toNat_lt
  have haccess := s.access.toNat_lt
  rw [decode_of_digits hdigits, kept, mk.injEq]
  refine ⟨?_, ?_, ?_, ?_, ?_⟩
  · rw [← UInt32.toNat_inj, UInt32.toNat_ofNat']
    omega
  · rw [← UInt32.toNat_inj, UInt32.toNat_ofNat']
    omega
  · rw [← UInt8.toNat_inj, UInt8.toNat_ofNat', toNat_access, attributes]
    omega
  · rw [← UInt8.toNat_inj, UInt8.toNat_ofNat', attributes]
    omega
  · rw [← UInt8.toNat_inj, UInt8.toNat_ofNat', Bytes.toNat_lowNibble]
    omega

theorem encodable_decode (raw : UInt64) : (decode raw).Encodable := by
  constructor
  · rw [UInt8.le_iff_toNat_le, decode, UInt8.toNat_ofNat']
    simp only [UInt8.reduceToNat]
    omega
  · rw [UInt32.le_iff_toNat_le, decode, UInt32.toNat_ofNat']
    simp only [UInt32.reduceToNat]
    omega

theorem word_decode (raw : UInt64) : (decode raw).word = raw.toNat := by
  obtain ⟨limit, base, access, flags, top, h⟩ : ∃ limit base access flags top,
    Digits raw.toNat limit base access flags top := ⟨_, _, _, _, _, rfl, rfl, rfl, rfl, rfl⟩
  have hraw := raw.toNat_lt
  obtain ⟨hlimit, hbase, haccess, hflags, htop⟩ : limit < 0x10000 ∧ base < 0x1000000 ∧
      access < 0x100 ∧ flags < 0x100 ∧ top < 0x100 := by
    obtain ⟨rfl, rfl, rfl, rfl, rfl⟩ := h
    omega
  have hlimits : (decode raw).limit.toNat = limit + (flags % 0x10) <<< 16 := by
    rw [decode_of_digits h, UInt32.toNat_ofNat']
    omega
  have hbases : (decode raw).base.toNat = base + top <<< 24 := by
    rw [decode_of_digits h, UInt32.toNat_ofNat']
    omega
  have haccesses : (decode raw).access.toNat = access % 0x20 + (access >>> 7) <<< 7 := by
    rw [decode_of_digits h, UInt8.toNat_ofNat']
    omega
  have hlevel : (decode raw).dpl.toNat = access >>> 5 % 4 := by
    rw [decode_of_digits h, UInt8.toNat_ofNat']
    omega
  have hnibble : (decode raw).flags.toNat = flags >>> 4 := by
    rw [decode_of_digits h, UInt8.toNat_ofNat']
    omega
  have hword := word_digits (encodable_decode raw)
  rw [hlimits, hbases, attributes, haccesses, hlevel, hnibble] at hword
  have hlow : (limit + (flags % 0x10) <<< 16) % 0x10000 = limit := by omega
  have hmiddle : (base + top <<< 24) % 0x1000000 = base := by omega
  have hbyte : (access % 0x20 + (access >>> 7) <<< 7) % 0x20 + (access >>> 5 % 4) <<< 5
      + ((access % 0x20 + (access >>> 7) <<< 7) >>> 7) <<< 7 = access := by omega
  have hflagged : (limit + (flags % 0x10) <<< 16) >>> 16 % 0x10 + (flags >>> 4 % 0x10) <<< 4 =
      flags := by omega
  have hhigh : (base + top <<< 24) >>> 24 = top := by omega
  rw [hlow, hmiddle, hbyte, hflagged, hhigh] at hword
  rw [sum_of_digits hword, sum_of_digits h]

theorem encode_decode (raw : UInt64) : (decode raw).encode = .ok raw := by
  rw [encode_eq_word (encodable_decode raw), word_decode, UInt64.ofNat_toNat]

theorem access_clear_iff (b : UInt8) : b &&& 0x60 = 0 ↔ b &&& 0x9f = b := by
  revert b
  exact Bytes.forall_byte (by decide +kernel)

theorem flags_clear_iff (b : UInt8) : b &&& 0xf0 = 0 ↔ b &&& 0x0f = b := by
  revert b
  exact Bytes.forall_byte (by decide +kernel)

theorem kept_eq_self_iff : s.kept = s ↔ s.access &&& 0x60 = 0 ∧ s.flags &&& 0xf0 = 0 := by
  rw [access_clear_iff, flags_clear_iff]
  constructor
  · intro h
    exact ⟨congrArg access h, congrArg flags h⟩
  · intro h
    rw [kept, h.1, h.2]

theorem valid_decode (raw : UInt64) : (decode raw).Valid := by
  have hkept : (decode raw).kept = decode raw := by
    rw [← decode_word (encodable_decode raw), word_decode, UInt64.ofNat_toNat]
  obtain ⟨haccess, hflags⟩ := kept_eq_self_iff.mp hkept
  exact ⟨encodable_decode raw, haccess, hflags⟩

/-- A level and the other bits of an access byte have no bit in common. -/
theorem toNat_accessByte (b : UInt8) (i : Fin 4) :
    ((b &&& 0x9f : UInt8) ||| UInt8.ofNat i.val <<< 5).toNat =
      b.toNat % 0x20 + i.val <<< 5 + (b.toNat >>> 7) <<< 7 := by
  revert b
  refine Bytes.forall_byte ?_
  revert i
  decide +kernel

theorem accessByte_eq (h : s.Encodable) : s.accessByte = UInt8.ofNat s.attributes := by
  have hbyte := toNat_accessByte s.access ⟨s.dpl.toNat, dpl_lt h⟩
  have hlt := attributes_lt h
  rw [UInt8.ofNat_toNat] at hbyte
  rw [← UInt8.toNat_inj, UInt8.toNat_ofNat', Nat.mod_eq_of_lt hlt]
  exact hbyte

theorem flagsByte_eq (h : s.Encodable) :
    s.flagsByte = UInt8.ofNat (s.limit.toNat >>> 16 % 0x10 + (s.flags.toNat % 0x10) <<< 4) := by
  have hlimit := limit_lt h
  have htop : s.limit.toNat >>> 16 < 2 ^ 4 := by omega
  have hlow : (UInt8.ofNat (s.limit.toNat >>> 16)).toNat = s.limit.toNat >>> 16 := by
    rw [UInt8.toNat_ofNat']
    omega
  have hhigh : (s.flags <<< 4).toNat = 2 ^ 4 * (s.flags.toNat % 0x10) := by
    rw [UInt8.toNat_shiftLeft]
    change s.flags.toNat <<< 4 % 256 = _
    omega
  rw [← UInt8.toNat_inj, flagsByte, UInt8.toNat_or, hlow, hhigh, Nat.or_comm,
    ← Nat.two_pow_add_eq_or_of_lt htop, UInt8.toNat_ofNat']
  omega

theorem bytes_word (h : s.Encodable) : Bytes.ofNat 8 s.word = s.hardware := by
  have hlimit : Bytes.ofNat 2 (s.limit.toNat % 0x10000) = Bytes.ofNat 2 s.limit.toNat :=
    Bytes.ofNat_mod 2 s.limit.toNat
  have hbase : Bytes.ofNat 3 (s.base.toNat % 0x1000000) = Bytes.ofNat 3 s.base.toNat :=
    Bytes.ofNat_mod 3 s.base.toNat
  rw [bytes_of_digits (word_digits h), ← accessByte_eq h, ← flagsByte_eq h, hlimit, hbase, hardware]

theorem toBytes_eq_hardware (h : s.Encodable) : s.toBytes = .ok s.hardware := by
  have hbytes : s.toBytes = .ok (Bytes.ofNat 8 (UInt64.ofNat s.word).toNat) := by
    rw [toBytes, encode_eq_word h]
    rfl
  rw [hbytes, toNat_word h, bytes_word h]

theorem ofNat_toNat_ofNat (n : Nat) :
    UInt64.ofNat (Bytes.toNat (Bytes.ofNat 8 n)) = UInt64.ofNat n := by
  rw [← UInt64.toNat_inj, UInt64.toNat_ofNat', UInt64.toNat_ofNat', Bytes.toNat_ofNat]
  exact Nat.mod_mod _ _

theorem ofBytes_hardware (h : s.Encodable) : ofBytes s.hardware = s.kept := by
  rw [ofBytes, ← bytes_word h, ofNat_toNat_ofNat, decode_word h]

theorem toBytes_ofBytes (bs : Vector UInt8 8) : (ofBytes bs.toList).toBytes = .ok bs.toList := by
  have hword : (UInt64.ofNat (Bytes.toNat bs.toList)).toNat = Bytes.toNat bs.toList := by
    rw [UInt64.toNat_ofNat']
    exact Nat.mod_eq_of_lt (Bytes.toNat_vector_lt bs)
  rw [toBytes, ofBytes, encode_decode]
  change Except.ok (Bytes.ofNat 8 (UInt64.ofNat (Bytes.toNat bs.toList)).toNat) = _
  rw [hword, Bytes.ofNat_toNat_vector]

theorem bijOn_encode : Set.BijOn encode {s | s.Valid} (Set.range .ok) := by
  refine ⟨?_, ?_, ?_⟩
  · intro s hs
    exact ⟨_, (encode_eq_word hs.toEncodable).symm⟩
  · intro s hs t ht heq
    rw [encode_eq_word hs.toEncodable, encode_eq_word ht.toEncodable, Except.ok.injEq] at heq
    have hkept : s.kept = t.kept := by
      rw [← decode_word hs.toEncodable, heq, decode_word ht.toEncodable]
    rwa [kept_eq_self_iff.mpr ⟨hs.access, hs.flags⟩, kept_eq_self_iff.mpr ⟨ht.access, ht.flags⟩]
      at hkept
  · rintro _ ⟨raw, rfl⟩
    exact ⟨decode raw, valid_decode raw, encode_decode raw⟩

/-- A description with a level or a limit out of range has no encoding, and the level is told
first. Any other is written as the processor reads it, and reads back without the bits that have
no place. Each word is the encoding of its own description, and of no other valid one. -/
theorem descriptions_correspond_to_words :
    (∀ s : SegmentDescriptor, 3 < s.dpl →
      s.encode = .error (.privilegeOutOfRange s.dpl) ∧
      s.toBytes = .error (.privilegeOutOfRange s.dpl)) ∧
    (∀ s : SegmentDescriptor, s.dpl ≤ 3 → 0xfffff < s.limit →
      s.encode = .error (.limitOutOfRange s.limit) ∧
      s.toBytes = .error (.limitOutOfRange s.limit)) ∧
    (∀ s : SegmentDescriptor, s.Encodable →
      (∃ raw, s.encode = .ok raw ∧ Bytes.ofNat 8 raw.toNat = s.hardware ∧ decode raw = s.kept) ∧
      s.toBytes = .ok s.hardware ∧ ofBytes s.hardware = s.kept) ∧
    (∀ s : SegmentDescriptor,
      s.kept = s ↔ s.access &&& 0x60 = 0 ∧ s.flags &&& 0xf0 = 0) ∧
    (∀ raw, (decode raw).encode = .ok raw) ∧
    (∀ bs : Vector UInt8 8, (ofBytes bs.toList).toBytes = .ok bs.toList) ∧
    Set.BijOn encode {s | s.Valid} (Set.range .ok) := by
  refine ⟨?_, ?_, ?_, fun _ => kept_eq_self_iff, encode_decode, toBytes_ofBytes, bijOn_encode⟩
  · intro s hdpl
    have hencode : s.encode = .error (.privilegeOutOfRange s.dpl) := if_pos hdpl
    exact ⟨hencode, by rw [toBytes, hencode]; rfl⟩
  · intro s hdpl hlimit
    have hencode : s.encode = .error (.limitOutOfRange s.limit) := by
      have hlevel : ¬ privilegeMax < s.dpl := UInt8.not_lt.mpr hdpl
      rw [encode, if_neg hlevel]
      exact if_pos hlimit
    exact ⟨hencode, by rw [toBytes, hencode]; rfl⟩
  · intro s h
    refine ⟨⟨_, encode_eq_word h, ?_, decode_word h⟩, toBytes_eq_hardware h, ofBytes_hardware h⟩
    rw [toNat_word h, bytes_word h]

/-- A level 3 segment with every bit of its access byte and flags in use. -/
theorem descriptions_correspond_to_words_for_user_code :
    let s : SegmentDescriptor := ⟨0x12345678, 0xabcde, 0xfa, 3, 0xfc⟩
    s.Encodable ∧ s.toBytes = .ok [0xde, 0xbc, 0x78, 0x56, 0x34, 0xfa, 0xca, 0x12] ∧
      ofBytes [0xde, 0xbc, 0x78, 0x56, 0x34, 0xfa, 0xca, 0x12] =
        ⟨0x12345678, 0xabcde, 0x9a, 3, 0x0c⟩ := by
  intro s
  have hs : s.Encodable := ⟨by decide, by decide⟩
  have hhardware : s.hardware = [0xde, 0xbc, 0x78, 0x56, 0x34, 0xfa, 0xca, 0x12] := by decide
  have hkept : s.kept = ⟨0x12345678, 0xabcde, 0x9a, 3, 0x0c⟩ := by decide
  obtain ⟨_, hbytes, hread⟩ := descriptions_correspond_to_words.2.2.1 s hs
  rw [hhardware] at hbytes hread
  rw [hkept] at hread
  exact ⟨hs, hbytes, hread⟩

end SegmentDescriptor

end InterruptCore
