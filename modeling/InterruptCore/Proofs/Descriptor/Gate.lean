import InterruptCore.Descriptor.Gate

/-! A long-mode gate word, digit by digit. The word of a gate is a number whose digits, of
different widths, are the fields of the gate; taking the digits apart again gives the gate. -/
namespace InterruptCore

theorem GateType.bits_lt (t : GateType) : t.bits < 16 := by
  cases t <;> decide

theorem GateType.ofBits_of_digit {t : GateType} {b : Nat} (hb : b % 16 = t.bits) :
    GateType.ofBits b = .ok t := by
  unfold ofBits
  rw [hb]
  cases t <;> rfl

namespace Gate64

structure Encodable (g : Gate64) : Prop where
  ist : g.ist.toNat < 8
  dpl : g.dpl.toNat < 4

variable {g : Gate64}

theorem encode_eq_word (h : g.Encodable) : g.encode = .ok g.word := by
  have hist : ¬ istMax < g.ist := by
    rw [UInt8.lt_iff_toNat_lt]
    exact Nat.not_lt.mpr (Nat.le_of_lt_succ h.ist)
  have hdpl : ¬ SegmentDescriptor.privilegeMax < g.dpl := by
    rw [UInt8.lt_iff_toNat_lt]
    exact Nat.not_lt.mpr (Nat.le_of_lt_succ h.dpl)
  rw [encode, if_neg hist, if_neg hdpl]

theorem attributes_type (g : Gate64) : g.attributes % 16 = g.type.bits := by
  have ht := g.type.bits_lt
  unfold attributes gateAttributes
  omega

theorem attributes_dpl (h : g.Encodable) : g.attributes >>> 5 % 4 = g.dpl.toNat := by
  have ht := g.type.bits_lt
  have hd := h.dpl
  unfold attributes gateAttributes
  omega

theorem attributes_present (h : g.Encodable) : g.attributes >>> 7 = g.present.toNat := by
  have ht := g.type.bits_lt
  have hd := h.dpl
  unfold attributes gateAttributes
  omega

theorem attributes_lt (h : g.Encodable) : g.attributes < 0x100 := by
  have hp := attributes_present h
  have hb := g.present.toNat_le
  omega

structure Digits (w low selector ist attributes middle high : Nat) : Prop where
  low : w % 0x10000 = low
  selector : w >>> 16 % 0x10000 = selector
  ist : w >>> 32 % 0x100 = ist
  attributes : w >>> 40 % 0x100 = attributes
  middle : w >>> 48 % 0x10000 = middle
  high : w >>> 64 = high

theorem digits_of_sum {w low selector ist attributes middle high : Nat}
    (hw : w = low + selector <<< 16 + ist <<< 32 + attributes <<< 40 + middle <<< 48
      + high <<< 64)
    (hlow : low < 0x10000) (hselector : selector < 0x10000) (hist : ist < 0x100)
    (hattributes : attributes < 0x100) (hmiddle : middle < 0x10000) :
    Digits w low selector ist attributes middle high := by
  have h32 : w >>> 32 = ist + attributes <<< 8 + middle <<< 16 + high <<< 32 := by omega
  have h40 : w >>> 40 = attributes + middle <<< 8 + high <<< 24 := by omega
  have h48 : w >>> 48 = middle + high <<< 16 := by omega
  constructor
  · omega
  · omega
  · rw [h32]; omega
  · rw [h40]; omega
  · rw [h48]; omega
  · omega

theorem word_digits (h : g.Encodable) :
    Digits g.word.toNat (g.offset.toNat % 0x10000) g.selector.bits.toNat g.ist.toNat g.attributes
      (g.offset.toNat >>> 16 % 0x10000) (g.offset.toNat >>> 32) := by
  have hselector := g.selector.bits.toNat_lt
  have hist := g.ist.toNat_lt
  have hattributes := attributes_lt h
  have hoffset := g.offset.toNat_lt
  have hlow : g.offset.toNat % 0x10000 < 0x10000 := Nat.mod_lt _ (by decide)
  have hmiddle : g.offset.toNat >>> 16 % 0x10000 < 0x10000 := Nat.mod_lt _ (by decide)
  have hword : g.word.toNat = g.layout := by
    rw [word, BitVec.toNat_ofNat]
    apply Nat.mod_eq_of_lt
    unfold layout
    omega
  exact digits_of_sum hword hlow hselector hist hattributes hmiddle

theorem target_word (h : g.Encodable) : target g.word = g.offset := by
  have hd := word_digits h
  have hoffset := g.offset.toNat_lt
  rw [← UInt64.toNat_inj, target, UInt64.toNat_ofNat', hd.low, hd.middle, hd.high]
  omega

theorem isPresent_word (h : g.Encodable) : isPresent g.word = g.present := by
  have hattributes := (word_digits h).attributes
  have hpresent := attributes_present h
  have hbit : g.word.toNat >>> 47 % 2 = g.present.toNat := by
    have hb := g.present.toNat_le
    omega
  rw [isPresent, Nat.testBit_eq_decide_div_mod_eq, ← Nat.shiftRight_eq_div_pow, hbit]
  cases g.present <;> rfl

theorem decode_word (h : g.Encodable) : decode g.word = .ok g := by
  have hd := word_digits h
  have hselector := hd.selector
  have hist := hd.ist
  have hattributes := hd.attributes
  have htype : GateType.ofBits (g.word.toNat >>> 40) = .ok g.type := by
    have := g.attributes_type
    exact GateType.ofBits_of_digit (by omega)
  have hselect : UInt16.ofNat (g.word.toNat >>> 16) = g.selector.bits := by
    rw [← UInt16.toNat_inj, UInt16.toNat_ofNat']
    exact hselector
  have hstack : UInt8.ofNat (g.word.toNat >>> 32 % 8) = g.ist := by
    have := h.ist
    rw [← UInt8.toNat_inj, UInt8.toNat_ofNat']
    omega
  have hlevel : UInt8.ofNat (g.word.toNat >>> 45 % 4) = g.dpl := by
    have := attributes_dpl h
    rw [← UInt8.toNat_inj, UInt8.toNat_ofNat']
    omega
  have hdecode : decode g.word = .ok {
      offset := target g.word
      selector := ⟨UInt16.ofNat (g.word.toNat >>> 16)⟩
      ist := UInt8.ofNat (g.word.toNat >>> 32 % 8)
      type := g.type
      dpl := UInt8.ofNat (g.word.toNat >>> 45 % 4)
      present := isPresent g.word } := by
    unfold decode
    simp only [htype]
    rfl
  rw [hdecode, target_word h, isPresent_word h, hselect, hstack, hlevel]

end Gate64

end InterruptCore
