import Mathlib.Algebra.BigOperators.Group.Finset.Basic
import Mathlib.Algebra.GroupWithZero.Nat
import Mathlib.Order.Interval.Finset.Nat

/-!
# Tilings

Ranges of positions, each with an offset and a length, that tile an initial
segment; and pieces that are put together in a row.  A piece is read back where
the pieces before it end.  A piece of marks in a row of blanks is read back
nowhere else.
-/

namespace TurboAccess
namespace Tiling

variable {ι α : Type*}

/-! ## Ranges -/

/-- A position is in the range at an offset. -/
def InRange (offset length position : Nat) : Prop :=
  offset ≤ position ∧ position < offset + length

instance (offset length position : Nat) :
    Decidable (InRange offset length position) :=
  inferInstanceAs (Decidable (_ ∧ _))

/-- The ranges of some indices tile the positions below a total. -/
structure Tiles
    (indices : List ι)
    (offset length : ι → Nat)
    (total : Nat) : Prop where
  within : ∀ index ∈ indices, offset index + length index ≤ total
  covered : ∀ position < total,
    ∃ index ∈ indices, InRange (offset index) (length index) position
  apart : ∀ first ∈ indices, ∀ second ∈ indices, ∀ position,
    InRange (offset first) (length first) position →
      InRange (offset second) (length second) position → first = second

/-- The lengths of the ranges of a tiling add up to the total. -/
theorem Tiles.sum_length
    {indices : List ι}
    {offset length : ι → Nat}
    {total : Nat}
    (tiles : Tiles indices offset length total)
    (distinct : indices.Nodup) :
    (indices.map length).sum = total := by
  classical
  let range : ι → Finset Nat := fun index =>
    Finset.Ico (offset index) (offset index + length index)
  have disjoint : (indices.toFinset : Set ι).PairwiseDisjoint range := by
    intro first firstListed second secondListed different
    apply Finset.disjoint_left.mpr
    intro position inFirst inSecond
    rw [Finset.mem_coe, List.mem_toFinset] at firstListed secondListed
    exact different (tiles.apart first firstListed second secondListed position
      (Finset.mem_Ico.mp inFirst) (Finset.mem_Ico.mp inSecond))
  have union : indices.toFinset.biUnion range = Finset.range total := by
    ext position
    rw [Finset.mem_biUnion, Finset.mem_range]
    constructor
    · rintro ⟨index, listed, inRange⟩
      have within := tiles.within index (List.mem_toFinset.mp listed)
      have bounds := Finset.mem_Ico.mp inRange
      omega
    · intro below
      obtain ⟨index, listed, inRange⟩ := tiles.covered position below
      exact ⟨index, List.mem_toFinset.mpr listed, Finset.mem_Ico.mpr inRange⟩
  calc (indices.map length).sum
      = ∑ index ∈ indices.toFinset, length index :=
        (List.sum_toFinset length distinct).symm
    _ = ∑ index ∈ indices.toFinset, (range index).card := by
        apply Finset.sum_congr rfl
        intro index _
        rw [Nat.card_Ico, Nat.add_sub_cancel_left]
    _ = (Finset.range total).card := by
        rw [← Finset.card_biUnion disjoint, union]
    _ = total := Finset.card_range total

/-! ## Pieces in a row -/

/-- A piece is read back where the pieces before it end. -/
theorem slice_flatMap
    (before after : List ι)
    (index : ι)
    (piece : ι → List α) :
    (((before ++ index :: after).flatMap piece).drop
        (before.map fun other => (piece other).length).sum).take
          (piece index).length =
      piece index := by
  rw [List.flatMap_append, List.flatMap_cons, ← List.length_flatMap,
    List.drop_left, List.take_left]

/-! ## Marks -/

section Marks

variable [DecidableEq ι]

/-- Marks for one index, and blanks for every other one. -/
def marked (length : ι → Nat) (index : ι) (mark blank : α) (other : ι) :
    List α :=
  List.replicate (length other) (if other = index then mark else blank)

@[simp] theorem length_marked
    (length : ι → Nat)
    (index other : ι)
    (mark blank : α) :
    (marked length index mark blank other).length = length other :=
  List.length_replicate

/-- The pieces of other indices are blank. -/
theorem flatMap_marked_of_notMem
    (length : ι → Nat)
    {index : ι}
    (mark blank : α)
    {indices : List ι}
    (absent : index ∉ indices) :
    indices.flatMap (marked length index mark blank) =
      List.replicate (indices.map length).sum blank := by
  induction indices with
  | nil => rfl
  | cons head tail inductionHypothesis =>
      rw [List.mem_cons, not_or] at absent
      rw [List.flatMap_cons, inductionHypothesis absent.2, marked,
        if_neg (Ne.symm absent.1), ← List.replicate_add, List.map_cons,
        List.sum_cons]

end Marks

/-- A mark in a row of blanks is one of the marks. -/
theorem inRange_of_mark
    {mark blank : α}
    (different : mark ≠ blank)
    {before length after position : Nat}
    (found : (List.replicate before blank ++
      (List.replicate length mark ++ List.replicate after blank))[position]? =
        some mark) :
    InRange before length position := by
  rw [List.getElem?_append, List.getElem?_append] at found
  simp only [List.length_replicate, List.getElem?_replicate] at found
  unfold InRange
  split_ifs at found with early present middle
  · exact absurd (Option.some.inj found).symm different
  all_goals first | omega | exact absurd (Option.some.inj found).symm different

/-- Marks in a row of blanks are read back where they are, and nowhere else. -/
theorem offset_of_slice
    {mark blank : α}
    (different : mark ≠ blank)
    {before length after offset : Nat}
    (positive : 0 < length)
    (slice : ((List.replicate before blank ++
      (List.replicate length mark ++ List.replicate after blank)).drop
        offset).take length = List.replicate length mark) :
    offset = before := by
  have read : ∀ position < length,
      (List.replicate before blank ++ (List.replicate length mark ++
        List.replicate after blank))[offset + position]? = some mark := by
    intro position below
    have same := congrArg (·[position]?) slice
    simpa [below] using same
  have first := inRange_of_mark different (read 0 positive)
  have last := inRange_of_mark different (read (length - 1) (by omega))
  unfold InRange at first last
  omega

end Tiling
end TurboAccess
