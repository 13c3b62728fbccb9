import Mathlib.Data.List.Basic

/-!
# Lifetimes of objects

An owner creates objects that refer to each other, and destroys them.  An object
is created with references to live objects only, and destroyed when no live
object refers to it; whatever else is asked for is refused.  A reference of a
live object is therefore never to an object that is gone.

Objects can be destroyed in every order in which no object is followed by one
that may refer to it.
-/

namespace TurboAccess

/-- The live objects, the newest first, each with the objects it refers to, all
of which are alive. -/
@[ext] structure Heap (ι : Type*) where
  entries : List (ι × List ι)
  closed : ∀ entry ∈ entries, ∀ object ∈ entry.2,
    object ∈ entries.map Prod.fst

namespace Heap

variable {ι : Type*}

/-- No object is alive. -/
def empty : Heap ι := ⟨[], nofun⟩

/-- An object is alive. -/
def Alive (heap : Heap ι) (object : ι) : Prop :=
  object ∈ heap.entries.map Prod.fst

/-- A live object refers to this one. -/
def Referred (heap : Heap ι) (object : ι) : Prop :=
  ∃ entry ∈ heap.entries, object ∈ entry.2

/-- No object refers to what it may not refer to. -/
def Conforms (links : ι → List ι) (heap : Heap ι) : Prop :=
  ∀ entry ∈ heap.entries, entry.2 ⊆ links entry.1

@[simp] theorem not_alive_empty (object : ι) :
    ¬(empty : Heap ι).Alive object := nofun

theorem conforms_empty (links : ι → List ι) :
    (empty : Heap ι).Conforms links := nofun

/-- The live objects are those of a list, and none refers to what it may not. -/
structure Holds (links : ι → List ι) (objects : List ι) (heap : Heap ι) :
    Prop where
  conforms : heap.Conforms links
  alive : ∀ object, heap.Alive object ↔ object ∈ objects

theorem holds_empty (links : ι → List ι) : Holds links [] (empty : Heap ι) :=
  ⟨conforms_empty links, by simp⟩

theorem Referred.alive
    {heap : Heap ι}
    {object : ι}
    (referred : heap.Referred object) :
    heap.Alive object := by
  obtain ⟨entry, member, refers⟩ := referred
  exact heap.closed entry member object refers

/-- Put an object that refers to live ones first. -/
def push
    (heap : Heap ι)
    (object : ι)
    (references : List ι)
    (alive : ∀ other ∈ references, heap.Alive other) : Heap ι where
  entries := (object, references) :: heap.entries
  closed := by
    intro entry member other refers
    rcases List.mem_cons.mp member with rfl | older
    · exact List.mem_cons_of_mem _ (alive other refers)
    · exact List.mem_cons_of_mem _ (heap.closed entry older other refers)

section Push

variable
  {heap : Heap ι}
  {links : ι → List ι}
  {object other : ι}
  {references : List ι}

@[simp] theorem alive_push
    (alive : ∀ other ∈ references, heap.Alive other) :
    (heap.push object references alive).Alive other ↔
      other = object ∨ heap.Alive other := by
  simp [Alive, push]

theorem Conforms.push
    (conforms : heap.Conforms links)
    (alive : ∀ other ∈ references, heap.Alive other)
    (linked : references ⊆ links object) :
    (heap.push object references alive).Conforms links := by
  intro entry member
  rcases List.mem_cons.mp member with rfl | older
  · exact linked
  · exact conforms entry older

end Push

variable [DecidableEq ι]

instance (heap : Heap ι) (object : ι) : Decidable (heap.Alive object) :=
  inferInstanceAs (Decidable (object ∈ heap.entries.map Prod.fst))

instance (heap : Heap ι) (object : ι) : Decidable (heap.Referred object) :=
  inferInstanceAs (Decidable (∃ entry ∈ heap.entries, object ∈ entry.2))

/-- Drop an object that nobody refers to. -/
def drop
    (heap : Heap ι)
    (object : ι)
    (free : ¬heap.Referred object) : Heap ι where
  entries := heap.entries.filter fun entry => decide (entry.1 ≠ object)
  closed := by
    intro entry member other refers
    have older := (List.mem_filter.mp member).1
    obtain ⟨found, present, rfl⟩ :=
      List.mem_map.mp (heap.closed entry older other refers)
    refine List.mem_map_of_mem (List.mem_filter.mpr ⟨present, ?_⟩)
    refine decide_eq_true ?_
    rintro rfl
    exact free ⟨entry, older, refers⟩

/-- Create an object that refers to live ones. -/
def create (heap : Heap ι) (object : ι) (references : List ι) :
    Option (Heap ι) :=
  if alive : ∀ other ∈ references, heap.Alive other then
    if heap.Alive object then none
    else some (heap.push object references alive)
  else none

/-- Destroy an object that nobody refers to, if it is alive. -/
def reset (heap : Heap ι) (object : ι) : Option (Heap ι) :=
  if free : heap.Referred object then none
  else some (heap.drop object free)

/-- Destroy the objects of a list, in its order. -/
def resetAll (heap : Heap ι) : List ι → Option (Heap ι)
  | [] => some heap
  | object :: rest => (heap.reset object).bind (resetAll · rest)

section Operations

variable
  {heap : Heap ι}
  {links : ι → List ι}
  {object other : ι}
  {references order : List ι}

@[simp] theorem alive_drop (free : ¬heap.Referred object) :
    (heap.drop object free).Alive other ↔
      heap.Alive other ∧ other ≠ object := by
  simp only [Alive, drop, List.mem_map, List.mem_filter, decide_eq_true_eq]
  constructor
  · rintro ⟨entry, ⟨member, kept⟩, rfl⟩
    exact ⟨⟨entry, member, rfl⟩, kept⟩
  · rintro ⟨⟨entry, member, rfl⟩, kept⟩
    exact ⟨entry, ⟨member, kept⟩, rfl⟩

theorem create_eq_some
    (alive : ∀ other ∈ references, heap.Alive other)
    (fresh : ¬heap.Alive object) :
    heap.create object references =
      some (heap.push object references alive) := by
  rw [create, dif_pos alive, if_neg fresh]

theorem reset_eq_some (free : ¬heap.Referred object) :
    heap.reset object = some (heap.drop object free) := dif_neg free

theorem Conforms.drop
    (conforms : heap.Conforms links)
    (free : ¬heap.Referred object) :
    (heap.drop object free).Conforms links :=
  fun entry member => conforms entry (List.mem_filter.mp member).1

/-! ## Destroying in order -/

/-- No object of the list is followed by one that may refer to it, or refers to
itself. -/
def Disposable (links : ι → List ι) (order : List ι) : Prop :=
  order.Pairwise (fun earlier later => earlier ∉ links later) ∧
    ∀ object ∈ order, object ∉ links object

instance (links : ι → List ι) (order : List ι) :
    Decidable (Disposable links order) :=
  inferInstanceAs (Decidable (_ ∧ _))

/-- Objects can be destroyed in an order in which no object is followed by one
that may refer to it, if nothing else refers to them; the others stay. -/
theorem resetAll_of_disposable
    (conforms : heap.Conforms links)
    (disposable : Disposable links order)
    (outside : ∀ other, heap.Alive other → other ∉ order →
      ∀ object ∈ order, object ∉ links other) :
    ∃ next, heap.resetAll order = some next ∧ next.Conforms links ∧
      ∀ other, next.Alive other ↔ heap.Alive other ∧ other ∉ order := by
  induction order generalizing heap with
  | nil => exact ⟨heap, rfl, conforms, by simp⟩
  | cons object rest inductionHypothesis =>
      obtain ⟨ordered, selfless⟩ := disposable
      obtain ⟨first, ordered⟩ := List.pairwise_cons.mp ordered
      have free : ¬heap.Referred object := by
        rintro ⟨entry, member, refers⟩
        have linked := conforms entry member refers
        by_cases listed : entry.1 ∈ object :: rest
        · rcases List.mem_cons.mp listed with same | later
          · exact selfless object (by simp) (same ▸ linked)
          · exact first entry.1 later linked
        · exact outside entry.1 (List.mem_map_of_mem member) listed object
            (by simp) linked
      obtain ⟨next, executed, conformsNext, alive⟩ :=
        inductionHypothesis (conforms.drop free)
          ⟨ordered, fun other listed => selfless other (by simp [listed])⟩
          (by
            intro other aliveOther unlisted later listed
            obtain ⟨aliveOther, different⟩ := (alive_drop free).mp aliveOther
            exact outside other aliveOther (by simp [different, unlisted])
              later (by simp [listed]))
      refine ⟨next, ?_, conformsNext, ?_⟩
      · rw [resetAll, reset_eq_some free]
        exact executed
      · intro other
        rw [alive other, alive_drop free, List.mem_cons, not_or, and_assoc]

/-- All objects can be destroyed in such an order. -/
theorem resetAll_eq_empty
    (conforms : heap.Conforms links)
    (disposable : Disposable links order)
    (listed : ∀ object, heap.Alive object → object ∈ order) :
    heap.resetAll order = some empty := by
  obtain ⟨next, executed, -, alive⟩ := resetAll_of_disposable conforms
    disposable fun other alive unlisted => absurd (listed other alive) unlisted
  rw [executed]
  have none : next.entries = [] := by
    refine List.eq_nil_iff_forall_not_mem.mpr fun entry member => ?_
    obtain ⟨before, unlisted⟩ :=
      (alive entry.1).mp (List.mem_map_of_mem member)
    exact unlisted (listed entry.1 before)
  exact congrArg some (Heap.ext none)

/-- Destroying one list after another. -/
theorem resetAll_append (first second : List ι) :
    heap.resetAll (first ++ second) =
      (heap.resetAll first).bind (·.resetAll second) := by
  induction first generalizing heap with
  | nil => rfl
  | cons object rest inductionHypothesis =>
      simp only [List.cons_append, resetAll, Option.bind_assoc]
      refine congrArg (heap.reset object).bind (funext fun next => ?_)
      exact inductionHypothesis

/-! ## Heaps with known objects -/

/-- An object that is not there yet can be created on top of what it may refer
to. -/
theorem Holds.create
    {objects : List ι}
    (holds : Holds links objects heap)
    (based : links object ⊆ objects)
    (fresh : object ∉ objects) :
    ∃ next, heap.create object (links object) = some next ∧
      Holds links (object :: objects) next := by
  have alive : ∀ other ∈ links object, heap.Alive other :=
    fun other listed => (holds.alive other).mpr (based listed)
  refine ⟨_, create_eq_some alive (mt (holds.alive object).mp fresh),
    holds.conforms.push alive (List.Subset.refl _), fun other => ?_⟩
  rw [alive_push, holds.alive other, List.mem_cons]

/-- All objects can be destroyed in an order in which none is followed by one
that may refer to it. -/
theorem Holds.resetAll
    {objects : List ι}
    (holds : Holds links objects heap)
    (disposable : Disposable links order)
    (listed : objects ⊆ order) :
    heap.resetAll order = some empty :=
  resetAll_eq_empty holds.conforms disposable
    fun object alive => listed ((holds.alive object).mp alive)

theorem Holds.eq_empty (holds : Holds links [] heap) : heap = empty := by
  have disposable : Disposable links [] := ⟨List.Pairwise.nil, by simp⟩
  exact Option.some.inj (holds.resetAll disposable (List.Subset.refl _))

end Operations

end Heap
end TurboAccess
