import TurboAccess.Gateway.Crc32c
import TurboAccess.Lib.ShiftRegister

/-!
# The checksum and its polynomial

The table of the checksum has eight shifts of every byte.  So a step of the loop
does to the state what the eight bits of its byte do to a reflected shift
register, and the checksum of a byte string is that of its bits.  Four bytes have
as many bits as the register; strings that differ only within four consecutive
bytes have different checksums.
-/

namespace TurboAccess
namespace Gateway

open ShiftRegister (feed feed_append feed_eq_iterate feed_ne_of_burst
  iterate_shift_split pack shift)

/-! ## Bit by bit -/

/-- Bits of a byte, the lowest first. -/
def byteBits (byte : UInt8) : List Bool :=
  (List.range 8).map byte.toBitVec.getLsbD

/-- Bits of a byte string, those of each byte reflected. -/
def reflectedBits (data : Bytes) : List Bool := data.flatMap byteBits

theorem length_byteBits (byte : UInt8) : (byteBits byte).length = 8 := by
  simp [byteBits]

theorem reflectedBits_cons (byte : UInt8) (data : Bytes) :
    reflectedBits (byte :: data) = byteBits byte ++ reflectedBits data :=
  List.flatMap_cons

/-- The reflected cyclic redundancy check of a byte string, bit by bit. -/
def crc32cBitwise (data : Bytes) : UInt32 :=
  ⟨feed 0x82F63B78#32 0xFFFFFFFF#32 (reflectedBits data) ^^^ 0xFFFFFFFF#32⟩

/-! ## One byte -/

theorem toBitVec_crc32cShift (word : UInt32) :
    (crc32cShift word).toBitVec = shift crc32cPoly.toBitVec word.toBitVec := by
  have low : word &&& 1 ≠ 0 ↔ word.toBitVec.getLsbD 0 = true := by
    rw [ne_eq, ← UInt32.toBitVec_inj, UInt32.toBitVec_and]
    change ¬(word.toBitVec &&& 1#32) = 0#32 ↔ _
    rw [BitVec.and_one_eq_setWidth_ofBool_getLsbD]
    cases word.toBitVec.getLsbD 0 <;> decide
  unfold crc32cShift shift
  simp only [low]
  split <;> rfl

/-- A table entry is eight shifts of its index. -/
theorem toBitVec_crc32cTable (index : UInt32) :
    (crc32cTable index).toBitVec =
      (shift crc32cPoly.toBitVec)^[8] index.toBitVec := by
  simp only [crc32cTable, Nat.repeat, toBitVec_crc32cShift]
  rfl

theorem pack_byteBits (byte : UInt8) :
    pack (byteBits byte) = byte.toUInt32.toBitVec := by
  apply BitVec.eq_of_getLsbD_eq
  intro place inside
  rw [ShiftRegister.getLsbD_pack inside, byteBits, UInt8.toBitVec_toUInt32,
    BitVec.getLsbD_setWidth]
  by_cases below : place < 8
  · simp [below, inside]
  · simp [below, BitVec.getLsbD_of_ge _ _ (Nat.le_of_not_lt below)]

/-- A step with the table does to the state what the bits of the byte do. -/
theorem toBitVec_step (state : UInt32) (byte : UInt8) :
    ((state >>> 8) ^^^
        crc32cTable ((state ^^^ byte.toUInt32) &&& 0xFF)).toBitVec =
      feed crc32cPoly.toBitVec state.toBitVec (byteBits byte) := by
  have length := length_byteBits byte
  have index : ((state ^^^ byte.toUInt32) &&& 0xFF).toBitVec =
      (((state ^^^ byte.toUInt32).toBitVec).setWidth 8).setWidth 32 := by
    apply BitVec.eq_of_getLsbD_eq
    intro place inside
    rw [UInt32.toBitVec_and, BitVec.getLsbD_and, BitVec.getLsbD_setWidth,
      BitVec.getLsbD_setWidth]
    change (_ && (BitVec.ofNat 32 (2 ^ 8 - 1)).getLsbD place) = _
    rw [BitVec.getLsbD_ofNat, Nat.testBit_two_pow_sub_one, Bool.and_comm]
    simp [inside]
  have rest : state.toBitVec >>> 8 =
      (state.toBitVec ^^^ byte.toUInt32.toBitVec) >>> 8 := by
    have nothing : byte.toUInt32.toBitVec >>> 8 = 0#32 := by
      apply BitVec.eq_of_getLsbD_eq
      intro place _
      simp
    rw [BitVec.ushiftRight_xor_distrib, nothing, BitVec.xor_zero]
  calc
    ((state >>> 8) ^^^
        crc32cTable ((state ^^^ byte.toUInt32) &&& 0xFF)).toBitVec
      = (state.toBitVec >>> 8) ^^^
          (shift crc32cPoly.toBitVec)^[8]
            (((state.toBitVec ^^^ byte.toUInt32.toBitVec).setWidth
              8).setWidth 32) := by
        rw [UInt32.toBitVec_xor, toBitVec_crc32cTable, index]
        rfl
    _ = (shift crc32cPoly.toBitVec)^[8]
          (state.toBitVec ^^^ byte.toUInt32.toBitVec) := by
        rw [rest, ← iterate_shift_split]
    _ = feed crc32cPoly.toBitVec state.toBitVec (byteBits byte) := by
        rw [feed_eq_iterate _ _ (by rw [length]; decide), pack_byteBits, length]

/-! ## Byte strings -/

/-- Feeding bytes is feeding their bits. -/
theorem toBitVec_crc32cUpdate (state : UInt32) (data : Bytes) :
    (crc32cUpdate state data).toBitVec =
      feed crc32cPoly.toBitVec state.toBitVec (reflectedBits data) := by
  induction data generalizing state with
  | nil => rfl
  | cons byte data inductionHypothesis =>
      rw [crc32cUpdate, List.foldl_cons]
      change (crc32cUpdate _ data).toBitVec = _
      rw [inductionHypothesis, toBitVec_step, reflectedBits_cons, feed_append]

/-- Feeding pieces one after the other is feeding all of them. -/
theorem crc32cUpdate_flatten (state : UInt32) (pieces : List Bytes) :
    pieces.foldl crc32cUpdate state = crc32cUpdate state pieces.flatten := by
  induction pieces generalizing state with
  | nil => rfl
  | cons piece pieces inductionHypothesis =>
      rw [List.foldl_cons, inductionHypothesis, List.flatten_cons,
        crc32cUpdate, crc32cUpdate, crc32cUpdate, List.foldl_append]

/-- The checksum as the state that the bits of the string leave. -/
theorem toBitVec_crc32c (data : Bytes) :
    (crc32c data).toBitVec =
      feed crc32cPoly.toBitVec crc32cInit.toBitVec (reflectedBits data) ^^^
        0xFFFFFFFF#32 := by
  rw [crc32c, crc32cFinalize, UInt32.toBitVec_xor, toBitVec_crc32cUpdate]
  rfl

/-- The checksum is the one bit by bit, and however a string is split, feeding its
pieces gives its checksum. -/
theorem crc32c_eq_bitwise :
    (∀ data, crc32c data = crc32cBitwise data) ∧
      ∀ pieces : List Bytes,
        crc32cFinalize (pieces.foldl crc32cUpdate crc32cInit) =
          crc32cBitwise pieces.flatten := by
  have whole : ∀ data, crc32c data = crc32cBitwise data := by
    intro data
    apply UInt32.toBitVec_inj.mp
    exact toBitVec_crc32c data
  refine ⟨whole, ?_⟩
  intro pieces
  rw [crc32cUpdate_flatten]
  exact whole pieces.flatten

/-! ## Localised corruption -/

/-- Different bytes have different bits. -/
theorem byteBits_injective : Function.Injective byteBits := by
  intro first second same
  have packed := congrArg (pack (w := 32)) same
  rw [pack_byteBits, pack_byteBits, UInt32.toBitVec_inj] at packed
  have value := congrArg UInt32.toNat packed
  rw [UInt8.toNat_toUInt32, UInt8.toNat_toUInt32] at value
  exact UInt8.toNat_inj.mp value

theorem reflectedBits_append (first second : Bytes) :
    reflectedBits (first ++ second) =
      reflectedBits first ++ reflectedBits second :=
  List.flatMap_append

theorem length_reflectedBits (data : Bytes) :
    (reflectedBits data).length = 8 * data.length := by
  induction data with
  | nil => rfl
  | cons byte data inductionHypothesis =>
      rw [reflectedBits_cons, List.length_append, length_byteBits,
        inductionHypothesis, List.length_cons]
      omega

/-- Different strings of one length have different bits. -/
theorem reflectedBits_inj
    {first second : Bytes}
    (length : first.length = second.length)
    (same : reflectedBits first = reflectedBits second) :
    first = second := by
  induction first generalizing second with
  | nil => exact (List.length_eq_zero_iff.mp length.symm).symm
  | cons byte first inductionHypothesis =>
      cases second with
      | nil => cases length
      | cons other second =>
          rw [reflectedBits_cons, reflectedBits_cons] at same
          have heads : (byteBits byte).length = (byteBits other).length := by
            rw [length_byteBits, length_byteBits]
          have parts := List.append_inj same heads
          have tails := inductionHypothesis (Nat.succ.inj length) parts.2
          rw [byteBits_injective parts.1, tails]

/-- Replacing up to four consecutive bytes by others changes the checksum. -/
theorem crc32c_ne_of_burst
    {before after first second : Bytes}
    (length : first.length = second.length)
    (room : first.length ≤ 4)
    (different : first ≠ second) :
    crc32c (before ++ first ++ after) ≠ crc32c (before ++ second ++ after) := by
  intro same
  have fed := congrArg UInt32.toBitVec same
  rw [toBitVec_crc32c, toBitVec_crc32c, BitVec.xor_left_inj,
    reflectedBits_append, reflectedBits_append, reflectedBits_append,
    reflectedBits_append] at fed
  have bits : (reflectedBits first).length = (reflectedBits second).length := by
    rw [length_reflectedBits, length_reflectedBits, length]
  have fits : (reflectedBits first).length ≤ 32 := by
    rw [length_reflectedBits]
    omega
  have apart : reflectedBits first ≠ reflectedBits second :=
    fun equal => different (reflectedBits_inj length equal)
  exact feed_ne_of_burst (by decide) _ bits fits apart fed

end Gateway
end TurboAccess
