import Mathlib.Logic.Function.Iterate

/-!
# Reflected shift registers

A register is shifted down by one place for every bit of a message, after the bit
was added to its lowest one; when a one falls out, a polynomial is added.  Adding
is exclusive or, so that a shift is linear.

As many bits as the register has places are fed by adding all of them at once
and shifting as often.  Hence a step over several bits can be read from a table,
and where the polynomial has its highest coefficient, two messages that differ
in no more consecutive bits than the register has places end in different
states.
-/

namespace TurboAccess
namespace ShiftRegister

variable {w : Nat} (poly : BitVec w)

/-- Shift by one place; when a one falls out, the polynomial is added. -/
def shift (register : BitVec w) : BitVec w :=
  if register.getLsbD 0 then (register >>> 1) ^^^ poly else register >>> 1

/-- A register whose lowest bit is the given one, and whose others are zero. -/
def lowBit (bit : Bool) : BitVec w := (BitVec.ofBool bit).setWidth w

/-- Feed a message to a register, bit after bit. -/
def feed (register : BitVec w) (message : List Bool) : BitVec w :=
  message.foldl (fun register bit => shift poly (register ^^^ lowBit bit))
    register

/-- A message as a register, the first bit being the lowest. -/
def pack (message : List Bool) : BitVec w :=
  (BitVec.ofBoolListLE message).setWidth w

theorem getLsbD_pack
    {message : List Bool}
    {place : Nat}
    (inside : place < w) :
    (pack (w := w) message).getLsbD place = message.getD place false := by
  rw [pack, BitVec.getLsbD_setWidth, BitVec.getLsbD_ofBoolListLE]
  simp [inside]

theorem getLsbD_lowBit
    {bit : Bool}
    {place : Nat}
    (inside : place < w) :
    (lowBit (w := w) bit).getLsbD place = (decide (place = 0) && bit) := by
  rw [lowBit, BitVec.getLsbD_setWidth, BitVec.getLsbD_ofBool]
  simp [inside]

/-! ## Shifts -/

theorem shift_xor (first second : BitVec w) :
    shift poly (first ^^^ second) = shift poly first ^^^ shift poly second := by
  unfold shift
  rw [BitVec.getLsbD_xor, BitVec.ushiftRight_xor_distrib]
  cases first.getLsbD 0 <;> cases second.getLsbD 0
  · rfl
  · exact BitVec.xor_assoc _ _ _
  · simp only [Bool.bne_false, if_true, Bool.false_eq_true, if_false]
    rw [BitVec.xor_assoc, BitVec.xor_assoc, BitVec.xor_comm poly]
  · simp only [bne_self_eq_false, Bool.false_eq_true, if_false, if_true]
    rw [BitVec.xor_assoc, BitVec.xor_comm poly, BitVec.xor_assoc,
      BitVec.xor_self, BitVec.xor_zero]

theorem iterate_shift_xor (count : Nat) (first second : BitVec w) :
    (shift poly)^[count] (first ^^^ second) =
      (shift poly)^[count] first ^^^ (shift poly)^[count] second := by
  induction count generalizing first second with
  | zero => rfl
  | succ count inductionHypothesis =>
      rw [Function.iterate_succ_apply, Function.iterate_succ_apply,
        Function.iterate_succ_apply, shift_xor, inductionHypothesis]

/-- While only zeros fall out, a register is shifted down. -/
theorem iterate_shift_of_low
    {count : Nat}
    {register : BitVec w}
    (low : ∀ place < count, register.getLsbD place = false) :
    (shift poly)^[count] register = register >>> count := by
  induction count with
  | zero => rfl
  | succ count inductionHypothesis =>
      have before := inductionHypothesis fun place below =>
        low place (Nat.lt_succ_of_lt below)
      have out : (register >>> count).getLsbD 0 = false := by
        rw [BitVec.getLsbD_ushiftRight]
        exact low _ (Nat.lt_succ_self count)
      rw [Function.iterate_succ_apply', before, shift, out]
      exact (BitVec.shiftRight_add register count 1).symm

/-- Where the polynomial has its highest coefficient, no register is lost by a
shift. -/
theorem shift_injective
    {poly : BitVec w}
    (top : poly.msb = true) :
    Function.Injective (shift poly) := by
  intro first second same
  have zero : shift poly (first ^^^ second) = 0 := by
    rw [shift_xor, same, BitVec.xor_self]
    rfl
  rw [← BitVec.xor_eq_zero_iff]
  generalize first ^^^ second = difference at zero
  unfold shift at zero
  split at zero
  · have msb := congrArg BitVec.msb zero
    rw [BitVec.msb_xor, top] at msb
    simp [BitVec.msb_ushiftRight] at msb
  · next even =>
      apply BitVec.eq_of_getLsbD_eq
      intro place _
      cases place with
      | zero => simpa using even
      | succ place =>
          have bit := congrArg (BitVec.getLsbD · place) zero
          simpa [Nat.add_comm] using bit

/-- Several shifts are those of the low places, and the rest moved down. -/
theorem iterate_shift_split (count : Nat) (register : BitVec w) :
    (shift poly)^[count] register =
      (register >>> count) ^^^
        (shift poly)^[count] ((register.setWidth count).setWidth w) := by
  let low : BitVec w := (register.setWidth count).setWidth w
  have split : register = (register ^^^ low) ^^^ low := by
    rw [BitVec.xor_assoc, BitVec.xor_self, BitVec.xor_zero]
  have high : (shift poly)^[count] (register ^^^ low) = register >>> count := by
    rw [iterate_shift_of_low, BitVec.ushiftRight_xor_distrib]
    · have nothing : low >>> count = 0 := by
        apply BitVec.eq_of_getLsbD_eq
        intro place _
        simp [low]
      rw [nothing]
      exact BitVec.xor_zero
    · intro place below
      by_cases inside : place < w
      · simp [low, below, inside]
      · exact BitVec.getLsbD_of_ge _ _ (Nat.le_of_not_lt inside)
  have parts := iterate_shift_xor poly count (register ^^^ low) low
  rwa [← split, high] at parts

/-! ## Messages -/

theorem feed_append (register : BitVec w) (first second : List Bool) :
    feed poly register (first ++ second) =
      feed poly (feed poly register first) second :=
  List.foldl_append

/-- A message no longer than the register is fed by adding it and shifting. -/
theorem feed_eq_iterate
    {message : List Bool}
    (register : BitVec w)
    (room : message.length ≤ w) :
    feed poly register message =
      (shift poly)^[message.length] (register ^^^ pack message) := by
  induction message generalizing register with
  | nil =>
      have nothing : pack (w := w) [] = 0 := by
        apply BitVec.eq_of_getLsbD_eq
        intro place inside
        rw [getLsbD_pack inside]
        exact BitVec.getLsbD_zero.symm
      rw [nothing]
      exact (BitVec.xor_zero).symm
  | cons bit message inductionHypothesis =>
      rw [List.length_cons] at room
      have moved : shift poly (pack message <<< 1) = pack message := by
        have even : (pack (w := w) message <<< 1).getLsbD 0 = false := by simp
        rw [shift, even]
        apply BitVec.eq_of_getLsbD_eq
        intro place inside
        change ((pack (w := w) message <<< 1) >>> 1).getLsbD place = _
        rw [BitVec.getLsbD_ushiftRight, BitVec.getLsbD_shiftLeft,
          Nat.add_sub_cancel_left, getLsbD_pack inside]
        by_cases last : 1 + place < w
        · simp [last]
        · have beyond : message.length ≤ place := by omega
          simp [last, beyond]
      have whole : pack (w := w) (bit :: message) =
          lowBit bit ^^^ (pack message <<< 1) := by
        apply BitVec.eq_of_getLsbD_eq
        intro place inside
        rw [getLsbD_pack inside, BitVec.getLsbD_xor, getLsbD_lowBit inside,
          BitVec.getLsbD_shiftLeft]
        cases place with
        | zero => simp
        | succ place =>
            have earlier : place < w := by omega
            simp [getLsbD_pack earlier, inside]
      rw [feed, List.foldl_cons]
      change feed poly (shift poly (register ^^^ lowBit bit)) message = _
      rw [inductionHypothesis _ (by omega), List.length_cons,
        Function.iterate_succ_apply, whole, ← BitVec.xor_assoc, shift_xor poly
          (register ^^^ lowBit bit), moved]

/-- Messages of one length that fit the register are packed differently. -/
theorem pack_injective
    {first second : List Bool}
    (length : first.length = second.length)
    (room : first.length ≤ w)
    (same : pack (w := w) first = pack second) :
    first = second := by
  apply List.ext_getElem length
  intro place inside within
  have below : place < w := by omega
  have bit : (pack (w := w) first).getLsbD place =
      (pack (w := w) second).getLsbD place := by rw [same]
  rw [getLsbD_pack below, getLsbD_pack below, List.getD_eq_getElem?_getD,
    List.getD_eq_getElem?_getD, List.getElem?_eq_getElem inside,
    List.getElem?_eq_getElem within] at bit
  exact bit

section Detection

variable {poly}

/-- What follows in a message keeps different registers apart. -/
theorem feed_injective
    (top : poly.msb = true)
    (message : List Bool) :
    Function.Injective (feed poly · message) := by
  induction message with
  | nil => exact fun _ _ same => same
  | cons bit message inductionHypothesis =>
      intro first second same
      have fed := shift_injective top (inductionHypothesis same)
      exact (BitVec.xor_left_inj _).mp fed

/-- Two messages that differ in no more consecutive bits than the register has
places leave different registers. -/
theorem feed_ne_of_burst
    (top : poly.msb = true)
    (register : BitVec w)
    {before after first second : List Bool}
    (length : first.length = second.length)
    (room : first.length ≤ w)
    (different : first ≠ second) :
    feed poly register (before ++ first ++ after) ≠
      feed poly register (before ++ second ++ after) := by
  rw [feed_append, feed_append, feed_append, feed_append]
  intro same
  have burst := feed_injective top after same
  have roomSecond : second.length ≤ w := by omega
  rw [feed_eq_iterate poly (feed poly register before) room,
    feed_eq_iterate poly (feed poly register before) roomSecond,
    ← length] at burst
  have packed := (shift_injective top).iterate first.length burst
  exact different (pack_injective length room
    ((BitVec.xor_right_inj _).mp packed))

end Detection

end ShiftRegister
end TurboAccess
