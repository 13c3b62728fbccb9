import Mathlib.Data.Finmap
import Mathlib.Algebra.BigOperators.Group.Multiset.Basic
import Mathlib.Tactic.Linarith

/-!
# Finite tables

A table is a finite map from keys to values of one type, equal to another
exactly when all lookups agree.  The insertion, removal and lookup operations
are those of `Finmap`; this module adds the conditional lookup equations, a scan
of the entries in any order, and the weight of a table: the sum of a natural
number read off every value.
-/

namespace TurboAccess

/-- A finite map from keys to values of one type. -/
abbrev Table (κ : Type*) (ν : Type*) := Finmap fun _ : κ => ν

namespace Table

variable {κ ν : Type*} [DecidableEq κ]

/-- Lookup after an insertion. -/
theorem lookup_insert_eq (key other : κ) (value : ν) (table : Table κ ν) :
    (table.insert key value).lookup other =
      if other = key then some value else table.lookup other := by
  by_cases same : other = key
  · subst same
    rw [if_pos rfl, Finmap.lookup_insert]
  · rw [if_neg same, Finmap.lookup_insert_of_ne _ same]

/-- Lookup after a removal. -/
theorem lookup_erase_eq (key other : κ) (table : Table κ ν) :
    (table.erase key).lookup other =
      if other = key then none else table.lookup other := by
  by_cases same : other = key
  · subst same
    rw [if_pos rfl, Finmap.lookup_erase]
  · rw [if_neg same, Finmap.lookup_erase_ne same]

/-- A table that differs from another at one key at most. -/
def SameOff (key : κ) (before after : Table κ ν) : Prop :=
  ∀ other, other ≠ key → after.lookup other = before.lookup other

namespace SameOff

variable {key : κ}

theorem refl (table : Table κ ν) : SameOff key table table :=
  fun _ _ => rfl

theorem trans
    {before middle after : Table κ ν}
    (first : SameOff key before middle)
    (second : SameOff key middle after) :
    SameOff key before after := by
  intro other distinct
  rw [second other distinct, first other distinct]

theorem insert (table : Table κ ν) (value : ν) :
    SameOff key table (Finmap.insert key value table) :=
  fun _ distinct => Finmap.lookup_insert_of_ne _ distinct

theorem erase (table : Table κ ν) :
    SameOff key table (Finmap.erase key table) :=
  fun _ distinct => Finmap.lookup_erase_ne distinct

end SameOff

/-- Removing an absent key changes nothing. -/
theorem erase_of_lookup_none
    {key : κ}
    {table : Table κ ν}
    (absent : table.lookup key = none) :
    table.erase key = table := by
  apply Finmap.ext_lookup
  intro other
  rw [lookup_erase_eq]
  split
  · next same => rw [same, absent]
  · rfl

/-- Storing the value already present changes nothing. -/
theorem insert_of_lookup_some
    {key : κ}
    {value : ν}
    {table : Table κ ν}
    (present : table.lookup key = some value) :
    table.insert key value = table := by
  apply Finmap.ext_lookup
  intro other
  rw [lookup_insert_eq]
  split
  · next same => rw [same, present]
  · rfl

/-- Removing a key that was just stored undoes the insertion of a new key. -/
theorem erase_insert_self (key : κ) (value : ν) (table : Table κ ν) :
    Finmap.erase key (table.insert key value) = table.erase key := by
  apply Finmap.ext_lookup
  intro other
  rw [lookup_erase_eq, lookup_erase_eq, lookup_insert_eq]
  split <;> rfl

/-- Store a value unless the key is present. -/
def emplace (table : Table κ ν) (key : κ) (value : ν) : Table κ ν :=
  match table.lookup key with
  | some _ => table
  | none => table.insert key value

/-- Lookup after an emplacement. -/
theorem lookup_emplace_eq (key other : κ) (value : ν) (table : Table κ ν) :
    (table.emplace key value).lookup other =
      if other = key then some ((table.lookup key).getD value)
      else table.lookup other := by
  cases found : table.lookup key with
  | none => simpa [emplace, found] using lookup_insert_eq key other value table
  | some old =>
      simp only [emplace, found, Option.getD_some]
      split
      · next same => rw [same, found]
      · rfl

/-- The first entry of a table. -/
theorem lookup_emplace_empty (key : κ) (value : ν) :
    (emplace ∅ key value).lookup key = some value := by
  rw [lookup_emplace_eq, if_pos rfl, Finmap.lookup_empty, Option.getD_none]

/-! ## Scans -/

/-- An order in which the entries of a table can be walked. -/
structure ScanOrder (table : Table κ ν) where
  keys : List κ
  visits : ∀ key, key ∈ keys ↔ key ∈ table

/-- The first value that satisfies a predicate, in the order of the keys. -/
def firstWhere
    (keys : List κ)
    (accepts : ν → Bool)
    (table : Table κ ν) : Option ν :=
  (keys.filterMap table.lookup).find? accepts

/-- A scan finds a value exactly when it is stored, if no two keys hold values
that satisfy the predicate. -/
theorem firstWhere_eq_some_iff
    {table : Table κ ν}
    (order : ScanOrder table)
    {accepts : ν → Bool}
    (unique : ∀ key other value otherValue,
      table.lookup key = some value → table.lookup other = some otherValue →
        accepts value = true → accepts otherValue = true → key = other)
    (value : ν) :
    firstWhere order.keys accepts table = some value ↔
      accepts value = true ∧ ∃ key, table.lookup key = some value := by
  constructor
  · intro found
    have member := List.mem_of_find?_eq_some found
    obtain ⟨key, -, stored⟩ := List.mem_filterMap.mp member
    exact ⟨List.find?_some found, key, stored⟩
  · rintro ⟨accepted, key, stored⟩
    have visited : key ∈ order.keys :=
      (order.visits key).mpr (Finmap.mem_of_lookup_eq_some stored)
    have member : value ∈ order.keys.filterMap table.lookup :=
      List.mem_filterMap.mpr ⟨key, visited, stored⟩
    cases found : firstWhere order.keys accepts table with
    | none =>
        have refused := List.find?_eq_none.mp found value member
        exact absurd accepted refused
    | some first =>
        have firstMember := List.mem_of_find?_eq_some found
        obtain ⟨other, -, otherStored⟩ := List.mem_filterMap.mp firstMember
        have same := unique other key first value otherStored stored
          (List.find?_some found) accepted
        rw [same, stored] at otherStored
        exact otherStored.symm

/-! ## Weights -/

/-- Sum of a weight over all values of a table. -/
def weight (measure : ν → Nat) (table : Table κ ν) : Nat :=
  (table.entries.map fun entry => measure entry.2).sum

omit [DecidableEq κ] in
@[simp] theorem weight_empty (measure : ν → Nat) :
    weight measure (∅ : Table κ ν) = 0 := rfl

/-- A new key adds the weight of its value. -/
theorem weight_insert_of_lookup_none
    (measure : ν → Nat)
    {key : κ}
    (value : ν)
    {table : Table κ ν}
    (absent : table.lookup key = none) :
    weight measure (table.insert key value) =
      weight measure table + measure value := by
  have missing : key ∉ table := Finmap.lookup_eq_none.mp absent
  unfold weight
  rw [Finmap.entries_insert_of_notMem missing, Multiset.map_cons,
    Multiset.sum_cons, Nat.add_comm]

/-- Weight contributed by the entry of one key, zero when it is absent. -/
def weightAt (measure : ν → Nat) (key : κ) (table : Table κ ν) : Nat :=
  ((table.lookup key).map measure).getD 0

/-- The weight of a table splits into one entry and the rest. -/
theorem weight_erase_add_weightAt
    (measure : ν → Nat)
    (key : κ)
    (table : Table κ ν) :
    weight measure (table.erase key) + weightAt measure key table =
      weight measure table := by
  cases found : table.lookup key with
  | none => simp [weightAt, found, erase_of_lookup_none found]
  | some value =>
      have rebuilt : Finmap.insert key value (table.erase key) = table := by
        apply Finmap.ext_lookup
        intro other
        rw [lookup_insert_eq, lookup_erase_eq]
        split
        · next same => rw [same, found]
        · rfl
      have split := weight_insert_of_lookup_none measure value
        (Finmap.lookup_erase key table)
      rw [rebuilt] at split
      rw [split]
      simp [weightAt, found]

/-- Storing a value replaces the old contribution of its key by the new one. -/
theorem weight_insert_add_weightAt
    (measure : ν → Nat)
    (key : κ)
    (value : ν)
    (table : Table κ ν) :
    weight measure (table.insert key value) + weightAt measure key table =
      weight measure table + measure value := by
  have before := weight_erase_add_weightAt measure key table
  have after := weight_erase_add_weightAt measure key (table.insert key value)
  rw [erase_insert_self] at after
  have stored : weightAt measure key (table.insert key value) =
      measure value := by
    simp [weightAt, Finmap.lookup_insert]
  omega

/-- One entry never weighs more than its table. -/
theorem weightAt_le_weight
    (measure : ν → Nat)
    (key : κ)
    (table : Table κ ν) :
    weightAt measure key table ≤ weight measure table := by
  have split := weight_erase_add_weightAt measure key table
  omega

/-- Entries of distinct keys together never weigh more than their table. -/
theorem sum_weightAt_le_weight
    (measure : ν → Nat)
    {keys : List κ}
    (distinct : keys.Nodup)
    (table : Table κ ν) :
    (keys.map fun key => weightAt measure key table).sum ≤
      weight measure table := by
  induction keys generalizing table with
  | nil => simp
  | cons key keys inductionHypothesis =>
      obtain ⟨fresh, distinct⟩ := List.nodup_cons.mp distinct
      have rest := inductionHypothesis distinct (table.erase key)
      have others : (keys.map fun other =>
            weightAt measure other (table.erase key)) =
          keys.map fun other => weightAt measure other table := by
        apply List.map_congr_left
        intro other member
        have different : other ≠ key := by
          rintro rfl
          exact fresh member
        rw [weightAt, weightAt, Finmap.lookup_erase_ne different]
      rw [others] at rest
      have split := weight_erase_add_weightAt measure key table
      rw [List.map_cons, List.sum_cons]
      omega

theorem weightAt_of_lookup_some
    (measure : ν → Nat)
    {key : κ}
    {value : ν}
    {table : Table κ ν}
    (found : table.lookup key = some value) :
    weightAt measure key table = measure value := by
  simp [weightAt, found]

theorem weightAt_of_lookup_none
    (measure : ν → Nat)
    {key : κ}
    {table : Table κ ν}
    (absent : table.lookup key = none) :
    weightAt measure key table = 0 := by
  simp [weightAt, absent]

end Table

end TurboAccess
