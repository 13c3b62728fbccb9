import Mathlib.Data.Nat.Bitwise
import Mathlib.Data.List.Basic

/-!
# Bit strings of numbers

The lowest bits of a number, the highest of them first.  Strings side by side are
the string of the number that has them as its digits, so that a buffer which is
shifted when bits come in, and read by shifting it back, is a queue of bits; the
bits above those that are pending do not matter.
-/

namespace TurboAccess
namespace BitStrings

/-- The lowest bits of a number, the highest of them first. -/
def bitsOf : Nat → Nat → List Bool
  | 0, _ => []
  | width + 1, value => value.testBit width :: bitsOf width value

/-- The number that a bit string denotes. -/
def numberOf : List Bool → Nat
  | [] => 0
  | bit :: bits => 2 ^ bits.length * bit.toNat + numberOf bits

@[simp] theorem length_bitsOf (width value : Nat) :
    (bitsOf width value).length = width := by
  induction width with
  | zero => rfl
  | succ width inductionHypothesis =>
      rw [bitsOf, List.length_cons, inductionHypothesis]

/-- Numbers with the same bits at the lowest places have the same string. -/
theorem bitsOf_congr
    {width first second : Nat}
    (same : ∀ place < width, first.testBit place = second.testBit place) :
    bitsOf width first = bitsOf width second := by
  induction width with
  | zero => rfl
  | succ width inductionHypothesis =>
      have tails := inductionHypothesis
        fun place below => same place (Nat.lt_succ_of_lt below)
      rw [bitsOf, bitsOf, same width (Nat.lt_succ_self width), tails]

/-- What a number has above the lowest places does not matter. -/
theorem bitsOf_mod
    {width modulusWidth : Nat}
    (narrow : width ≤ modulusWidth)
    (value : Nat) :
    bitsOf width (value % 2 ^ modulusWidth) = bitsOf width value := by
  apply bitsOf_congr
  intro place below
  have inside : place < modulusWidth := by omega
  rw [Nat.testBit_mod_two_pow, decide_eq_true inside, Bool.true_and]

/-- A string is that of the higher places and that of the lower ones. -/
theorem bitsOf_append (high low value : Nat) :
    bitsOf (high + low) value =
      bitsOf high (value / 2 ^ low) ++ bitsOf low value := by
  induction high with
  | zero => rw [Nat.zero_add, bitsOf, List.nil_append]
  | succ high inductionHypothesis =>
      rw [Nat.succ_add, bitsOf, bitsOf, inductionHypothesis,
        Nat.testBit_div_two_pow, List.cons_append]

/-- Shifting in new bits at the end. -/
theorem bitsOf_shift
    {low value : Nat}
    (width kept : Nat)
    (small : value < 2 ^ low) :
    bitsOf (width + low) (kept * 2 ^ low + value) =
      bitsOf width kept ++ bitsOf low value := by
  have high : (kept * 2 ^ low + value) / 2 ^ low = kept := by
    rw [Nat.add_comm, Nat.add_mul_div_right _ _ (Nat.two_pow_pos low),
      Nat.div_eq_of_lt small, Nat.zero_add]
  have rest : (kept * 2 ^ low + value) % 2 ^ low = value := by
    rw [Nat.mul_add_mod_of_lt small]
  rw [bitsOf_append, high, ← bitsOf_mod (le_refl low), rest]

/-- The lower places of a number can be read together with what follows them. -/
theorem bitsOf_carry
    {low more following : Nat}
    (high value : Nat)
    (small : following < 2 ^ more) :
    bitsOf high (value / 2 ^ low) ++
        bitsOf (low + more) (value % 2 ^ low * 2 ^ more + following) =
      bitsOf (high + low) value ++ bitsOf more following := by
  rw [bitsOf_shift _ _ small, bitsOf_mod (le_refl low), bitsOf_append,
    List.append_assoc]

/-- A string denotes the number whose lowest bits it has. -/
theorem numberOf_bitsOf (width value : Nat) :
    numberOf (bitsOf width value) = value % 2 ^ width := by
  induction width with
  | zero => rw [bitsOf, numberOf, Nat.pow_zero, Nat.mod_one]
  | succ width inductionHypothesis =>
      rw [bitsOf, numberOf, length_bitsOf, inductionHypothesis,
        Nat.mod_pow_succ, ← Nat.toNat_testBit, Nat.add_comm]

end BitStrings
end TurboAccess
