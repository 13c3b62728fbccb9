import Mathlib.Algebra.BigOperators.Group.Finset.Basic
import Mathlib.Algebra.Order.BigOperators.Group.Finset
import Mathlib.Logic.Function.Basic

/-!
# Tallies over threads

A tally sums a natural number read off each of finitely many threads.  A step of
one thread changes the tally by what it changes at that thread, which is how the
number of threads in some phase is followed along a run.
-/

namespace TurboAccess

/-- Sum of a measure over the threads below a bound. -/
def tally {φ : Type*} (bound : Nat) (measure : φ → Nat) (threads : Nat → φ) :
    Nat :=
  ∑ index ∈ Finset.range bound, measure (threads index)

section Tally

variable
  {φ : Type*}
  {bound : Nat}
  {measure : φ → Nat}
  {threads : Nat → φ}

/-- A step of one thread replaces its contribution. -/
theorem tally_update
    {mover : Nat}
    (inside : mover < bound)
    (frame : φ) :
    tally bound measure (Function.update threads mover frame) +
        measure (threads mover) =
      tally bound measure threads + measure frame := by
  have member : mover ∈ Finset.range bound := Finset.mem_range.mpr inside
  have others : ∑ index ∈ (Finset.range bound).erase mover,
        measure (Function.update threads mover frame index) =
      ∑ index ∈ (Finset.range bound).erase mover,
        measure (threads index) := by
    apply Finset.sum_congr rfl
    intro index other
    rw [Function.update_of_ne (Finset.ne_of_mem_erase other)]
  have before := Finset.add_sum_erase (Finset.range bound)
    (fun index => measure (threads index)) member
  have after := Finset.add_sum_erase (Finset.range bound)
    (fun index => measure (Function.update threads mover frame index)) member
  simp only [Function.update_self] at after
  rw [tally, tally]
  omega

/-- Threads of equal measures have equal tallies. -/
theorem tally_congr
    {others : Nat → φ}
    (same : ∀ index, measure (others index) = measure (threads index)) :
    tally bound measure others = tally bound measure threads :=
  Finset.sum_congr rfl fun index _ => same index

/-- A tally is zero when no thread contributes. -/
theorem tally_eq_zero_iff :
    tally bound measure threads = 0 ↔
      ∀ index < bound, measure (threads index) = 0 := by
  simp [tally, Finset.sum_eq_zero_iff]

end Tally

end TurboAccess
