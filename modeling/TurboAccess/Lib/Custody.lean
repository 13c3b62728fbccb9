import Mathlib.Data.List.Count
import Mathlib.Logic.Equiv.Basic
import Mathlib.Logic.Function.Basic

/-!
# Custody

Holders hold lists of items.  An item is kept at a place when it occurs once in
the list of the holder that the place names, and nowhere else.  A step that
takes an item from one holder and gives it to another is described by how it
changes the count of the item at every holder.
-/

namespace TurboAccess

variable {η α : Type*} [DecidableEq η] [DecidableEq α]

/-- How often an item occurs at a holder when it is kept at a place. -/
def occurrences (place : Option η) (holder : η) : Nat :=
  if place = some holder then 1 else 0

@[simp] theorem occurrences_none (holder : η) :
    occurrences none holder = 0 := rfl

@[simp] theorem occurrences_some (first second : η) :
    occurrences (some first) second = if first = second then 1 else 0 := by
  simp [occurrences]

/-- An item is at one place only, or nowhere. -/
def KeptAt (contents : η → List α) (item : α) (place : Option η) : Prop :=
  ∀ holder, (contents holder).count item = occurrences place holder

namespace KeptAt

variable {contents : η → List α} {item : α} {place : Option η}

/-- The holder that has an item is the one it is kept at. -/
theorem place_of_mem
    (kept : KeptAt contents item place)
    {holder : η}
    (member : item ∈ contents holder) :
    place = some holder := by
  have positive := List.count_pos_iff.mpr member
  rw [kept holder, occurrences] at positive
  by_contra elsewhere
  rw [if_neg elsewhere] at positive
  omega

/-- An item kept by a holder is in its list. -/
theorem mem
    {holder : η}
    (kept : KeptAt contents item (some holder)) :
    item ∈ contents holder := by
  apply List.count_pos_iff.mp
  rw [kept holder]
  simp

/-- A step moves an item when it changes the counts as the move does. -/
theorem move
    {next : η → List α}
    {target : Option η}
    (kept : KeptAt contents item place)
    (moved : ∀ holder,
      (next holder).count item + occurrences place holder =
        (contents holder).count item + occurrences target holder) :
    KeptAt next item target := by
  intro holder
  have before := kept holder
  have after := moved holder
  omega

/-- Holders that exchange their lists exchange what they keep. -/
theorem relabel
    (kept : KeptAt contents item place)
    (exchange : Equiv.Perm η) :
    KeptAt (contents ∘ exchange) item (place.map exchange.symm) := by
  intro holder
  rw [Function.comp_apply, kept (exchange holder)]
  cases place with
  | none => rfl
  | some keeper =>
      rw [Option.map_some, occurrences_some, occurrences_some]
      apply if_congr _ rfl rfl
      exact (exchange.symm_apply_eq).symm

end KeptAt

/-- Every item is where the places say. -/
def Kept (contents : η → List α) (place : α → Option η) : Prop :=
  ∀ item, KeptAt contents item (place item)

namespace Kept

variable
  {contents : η → List α} {place : α → Option η}
  {holder : η} {item : α}

/-- No holder has an item twice. -/
theorem nodup (kept : Kept contents place) (holder : η) :
    (contents holder).Nodup := by
  rw [List.nodup_iff_count]
  intro item
  rw [kept item holder, occurrences]
  split <;> omega

/-- Two holders do not have one item. -/
theorem holder_inj
    (kept : Kept contents place)
    {other : η}
    (first : item ∈ contents holder)
    (second : item ∈ contents other) :
    holder = other := by
  apply Option.some_injective
  rw [← (kept item).place_of_mem first, ← (kept item).place_of_mem second]

/-- Lists may be reordered. -/
theorem perm
    {next : η → List α}
    (kept : Kept contents place)
    (reordered : ∀ holder, (next holder).Perm (contents holder)) :
    Kept next place := by
  intro item holder
  rw [(reordered holder).count_eq]
  exact kept item holder

/-- An item that is taken out of a list is nowhere. -/
theorem take
    {rest : List α}
    (kept : Kept contents place)
    (found : contents holder = item :: rest) :
    Kept (Function.update contents holder rest)
      (Function.update place item none) := by
  intro other keeper
  have before := kept other keeper
  have there : place item = some holder :=
    (kept item).place_of_mem (by simp [found])
  by_cases same : other = item
  · subst same
    rw [there, occurrences_some] at before
    by_cases here : keeper = holder
    · subst here
      simp only [found, List.count_cons_self, if_true] at before
      simp only [Function.update_self, occurrences_none]
      omega
    · rw [if_neg (Ne.symm here)] at before
      simp [Function.update_of_ne here, before]
  · rw [Function.update_of_ne same, ← before]
    by_cases here : keeper = holder
    · subst here
      simp [found, List.count_cons_of_ne (Ne.symm same)]
    · rw [Function.update_of_ne here]

/-- An item that was nowhere is where it is put. -/
theorem put
    {longer : List α}
    (kept : Kept contents place)
    (free : place item = none)
    (added : longer.Perm (item :: contents holder)) :
    Kept (Function.update contents holder longer)
      (Function.update place item (some holder)) := by
  intro other keeper
  have before := kept other keeper
  by_cases same : other = item
  · subst same
    rw [free, occurrences_none] at before
    rw [Function.update_self, occurrences_some]
    by_cases here : keeper = holder
    · subst here
      rw [Function.update_self, added.count_eq, List.count_cons_self, before,
        if_pos rfl]
    · rw [Function.update_of_ne here, before, if_neg (Ne.symm here)]
  · rw [Function.update_of_ne same, ← before]
    by_cases here : keeper = holder
    · subst here
      rw [Function.update_self, added.count_eq,
        List.count_cons_of_ne (Ne.symm same)]
    · rw [Function.update_of_ne here]

/-- An item that is taken out of one list and put into another one. -/
theorem move
    {source target : η}
    {rest longer : List α}
    (kept : Kept contents place)
    (found : contents source = item :: rest)
    (added : longer.Perm
      (item :: Function.update contents source rest target)) :
    Kept (Function.update (Function.update contents source rest) target longer)
      (Function.update place item (some target)) := by
  have moved := (kept.take found).put (Function.update_self item none place)
    added
  rwa [Function.update_idem] at moved

end Kept

end TurboAccess
