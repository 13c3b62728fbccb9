import Mathlib.Data.Fintype.Basic
import TurboAccess.Lib.Table

/-!
# Sharded stores

A store has tables, and fields beside them.  A sharded store has the fields
once, and the tables once for each shard; a key belongs to the shard that a hash
selects.  An operation of the store runs on a shard: it sees the fields, and the
tables of the shard in the place of all tables.

An operation is local to a set of keys when what it does depends on these keys
only, and changes no others.  An operation that is local to keys of one shard
does the same on this shard as on the whole tables, whatever the hash.
-/

namespace TurboAccess

variable {σ ρ ι κ ν α β : Type*} {n : Nat}

/-- The fields of a store, and its tables in each of a number of shards. -/
structure Sharded (n : Nat) (ρ ι κ ν : Type*) where
  rest : ρ
  shards : Fin n → ι → Table κ ν

/-- The shard of a key, from its hash. -/
def shardOf (n : Nat) [NeZero n] (hash : κ → Nat) (key : κ) : Fin n :=
  Fin.ofNat n (hash key)

namespace Sharded

variable (layout : σ ≃ ρ × (ι → Table κ ν))

/-- What an operation sees that runs on a shard. -/
def view (store : Sharded n ρ ι κ ν) (shard : Fin n) : σ :=
  layout.symm (store.rest, store.shards shard)

/-- Run an operation on a shard. -/
def onShard
    (shard : Fin n)
    (operation : σ → α × σ)
    (store : Sharded n ρ ι κ ν) : α × Sharded n ρ ι κ ν :=
  let (answer, after) := operation (store.view layout shard)
  (answer,
    { rest := (layout after).1
      shards := Function.update store.shards shard (layout after).2 })

/-- Run an operation on the shards of a list, one after the other, and collect
what it answers. -/
def onShards
    (operation : Fin n → σ → List α × σ) :
    List (Fin n) → Sharded n ρ ι κ ν → List α × Sharded n ρ ι κ ν
  | [], store => ([], store)
  | shard :: rest, store =>
      let (first, store) := store.onShard layout shard (operation shard)
      let (later, store) := onShards operation rest store
      (first ++ later, store)

/-- Orders in which the keys of a table can be visited in every shard. -/
def Enumerates
    [DecidableEq κ]
    (store : Sharded n ρ ι κ ν)
    (index : ι)
    (orders : Fin n → List κ) : Prop :=
  ∀ shard, (orders shard).Nodup ∧
    (orders shard).toFinset = (store.shards shard index).keys

theorem exists_enumerates
    [DecidableEq κ]
    (store : Sharded n ρ ι κ ν)
    (index : ι) :
    ∃ orders, store.Enumerates index orders :=
  ⟨fun shard => (store.shards shard index).keys.toList, fun _ =>
    ⟨Finset.nodup_toList _, Finset.toList_toFinset _⟩⟩

/-- Run an operation on the fields; the tables it sees are empty. -/
def onRest
    (operation : σ → α × σ)
    (store : Sharded n ρ ι κ ν) : α × Sharded n ρ ι κ ν :=
  let (answer, after) := operation (layout.symm (store.rest, fun _ => ∅))
  (answer, { store with rest := (layout after).1 })

end Sharded

/-- What an operation does to the value of a key. -/
inductive Edit (ν : Type*)
  | keep
  | put (value : ν)
  | erase

namespace Edit

variable [DecidableEq κ]

/-- Edit the value of a key. -/
def apply (key : κ) : Edit ν → Table κ ν → Table κ ν
  | .keep, table => table
  | .put value, table => table.insert key value
  | .erase, table => table.erase key

/-- An edit concerns its key alone. -/
theorem lookup_apply_of_ne
    {key other : κ}
    (different : other ≠ key)
    (edit : Edit ν)
    (table : Table κ ν) :
    (edit.apply key table).lookup other = table.lookup other := by
  cases edit with
  | keep => rfl
  | put value => exact Finmap.lookup_insert_of_ne _ different
  | erase => exact Finmap.lookup_erase_ne different

/-- The same edit of the same value. -/
theorem lookup_apply_congr
    {key : κ}
    {left right : Table κ ν}
    (same : left.lookup key = right.lookup key)
    (edit : Edit ν) :
    (edit.apply key left).lookup key = (edit.apply key right).lookup key := by
  cases edit with
  | keep => exact same
  | put value => rw [apply, apply, Finmap.lookup_insert, Finmap.lookup_insert]
  | erase => rw [apply, apply, Finmap.lookup_erase, Finmap.lookup_erase]

end Edit

/-- Run an operation for every item of a list, one after the other, and collect
what it answers. -/
def collect {η : Type*} (operation : η → σ → List α × σ) :
    List η → σ → List α × σ
  | [], store => ([], store)
  | item :: rest, store =>
      let (first, store) := operation item store
      let (later, store) := collect operation rest store
      (first ++ later, store)

section Collect

variable {η θ : Type*}

theorem collect_append
    (operation : η → σ → List α × σ)
    (first second : List η)
    (store : σ) :
    collect operation (first ++ second) store =
      ((collect operation first store).1 ++
          (collect operation second (collect operation first store).2).1,
        (collect operation second (collect operation first store).2).2) := by
  induction first generalizing store with
  | nil => rfl
  | cons item first inductionHypothesis =>
      simp only [List.cons_append, collect, inductionHypothesis,
        List.append_assoc]

/-- Going through lists one after the other is going through all they hold. -/
theorem collect_flatMap
    (operation : η → σ → List α × σ)
    (orders : θ → List η)
    (items : List θ)
    (store : σ) :
    collect (fun item => collect operation (orders item)) items store =
      collect operation (items.flatMap orders) store := by
  induction items generalizing store with
  | nil => rfl
  | cons item items inductionHypothesis =>
      rw [List.flatMap_cons, collect_append, collect]
      simp only [inductionHypothesis]

end Collect

/-! ## Local operations -/

section Local

variable [DecidableEq κ] (layout : σ ≃ ρ × (ι → Table κ ν))

/-- Tables that agree on a set of keys. -/
def AgreeOn (keys : Set κ) (left right : ι → Table κ ν) : Prop :=
  ∀ index, ∀ key ∈ keys, (left index).lookup key = (right index).lookup key

/-- From the given fields, an operation looks only at a set of keys, and changes
no others. -/
structure LocalTo
    (rest : ρ)
    (keys : Set κ)
    (operation : σ → α × σ) : Prop where
  reads : ∀ left right : σ, (layout left).1 = rest → (layout right).1 = rest →
    AgreeOn keys (layout left).2 (layout right).2 →
      (operation left).1 = (operation right).1 ∧
        (layout (operation left).2).1 = (layout (operation right).2).1 ∧
        AgreeOn keys (layout (operation left).2).2
          (layout (operation right).2).2
  writes : ∀ store : σ, (layout store).1 = rest →
    ∀ index, ∀ key ∉ keys, ((layout (operation store).2).2 index).lookup key =
      ((layout store).2 index).lookup key

variable {layout} {rest : ρ} {keys : Set κ}

/-- An operation that is local to some keys is local to more. -/
theorem LocalTo.mono
    {operation : σ → α × σ}
    {more : Set κ}
    (isLocal : LocalTo layout rest keys operation)
    (included : keys ⊆ more) :
    LocalTo layout rest more operation where
  reads := by
    intro left right leftRest rightRest agree
    obtain ⟨answer, fields, after⟩ := isLocal.reads left right leftRest
      rightRest fun index key member => agree index key (included member)
    refine ⟨answer, fields, ?_⟩
    intro index key member
    by_cases known : key ∈ keys
    · exact after index key known
    · rw [isLocal.writes left leftRest index key known,
        isLocal.writes right rightRest index key known]
      exact agree index key member
  writes := fun store fields index key outside =>
    isLocal.writes store fields index key
      fun member => outside (included member)

theorem LocalTo.congr
    {operation other : σ → α × σ}
    (isLocal : LocalTo layout rest keys operation)
    (same : ∀ store, operation store = other store) :
    LocalTo layout rest keys other := by
  have equal : operation = other := funext same
  rwa [← equal]

/-- What is made of the answer does not matter. -/
theorem LocalTo.map
    {operation : σ → α × σ}
    (isLocal : LocalTo layout rest keys operation)
    (make : α → β) :
    LocalTo layout rest keys fun store =>
      (make (operation store).1, (operation store).2) where
  reads := by
    intro left right leftRest rightRest agree
    obtain ⟨answer, fields, after⟩ :=
      isLocal.reads left right leftRest rightRest agree
    exact ⟨congrArg make answer, fields, after⟩
  writes := isLocal.writes

/-- Two local operations in a row are local; the second may depend on what the
first has answered. -/
theorem LocalTo.bind
    {first : σ → α × σ}
    {second : α → σ → β × σ}
    (firstLocal : LocalTo layout rest keys first)
    (secondLocal : ∀ answer rest, LocalTo layout rest keys (second answer)) :
    LocalTo layout rest keys fun store =>
      second (first store).1 (first store).2 where
  reads := by
    intro left right leftRest rightRest agree
    obtain ⟨answer, fields, between⟩ :=
      firstLocal.reads left right leftRest rightRest agree
    rw [answer]
    exact (secondLocal _ _).reads _ _ rfl fields.symm between
  writes := by
    intro store fields index key outside
    rw [(secondLocal _ _).writes _ rfl index key outside,
      firstLocal.writes store fields index key outside]

/-- An operation is local to a key when the value of the key decides what it
answers, what it leaves of the fields, and how it edits the value. -/
theorem LocalTo.atKey
    {key : κ}
    {operation : σ → α × σ}
    (known : ∀ seen : ι → Option ν, ∃ answer after, ∃ edits : ι → Edit ν,
      ∀ store, (layout store).1 = rest →
        (∀ index, ((layout store).2 index).lookup key = seen index) →
          operation store = (answer, layout.symm (after, fun index =>
            (edits index).apply key ((layout store).2 index)))) :
    LocalTo layout rest {key} operation where
  reads := by
    intro left right leftRest rightRest agree
    obtain ⟨answer, after, edits, does⟩ :=
      known fun index => ((layout left).2 index).lookup key
    have same : ∀ index, ((layout right).2 index).lookup key =
        ((layout left).2 index).lookup key :=
      fun index => (agree index key rfl).symm
    rw [does left leftRest fun _ => rfl, does right rightRest same]
    simp only [Equiv.apply_symm_apply, true_and]
    rintro index _ rfl
    exact Edit.lookup_apply_congr (same index).symm (edits index)
  writes := by
    intro store fields index other outside
    obtain ⟨answer, after, edits, does⟩ :=
      known fun index => ((layout store).2 index).lookup key
    rw [does store fields fun _ => rfl]
    simp only [Equiv.apply_symm_apply]
    exact Edit.lookup_apply_of_ne outside (edits index) _

/-- So is a question that the value of the key decides. -/
theorem LocalTo.query
    {key : κ}
    {read : σ → α}
    (decided : ∀ left right, (layout left).1 = rest → (layout right).1 = rest →
      (∀ index, ((layout left).2 index).lookup key =
        ((layout right).2 index).lookup key) →
          read left = read right) :
    LocalTo layout rest {key} fun store => (read store, store) where
  reads := fun left right leftRest rightRest agree =>
    ⟨decided left right leftRest rightRest fun index => agree index key rfl,
      leftRest.trans rightRest.symm, agree⟩
  writes := fun _ _ _ _ _ => rfl

/-- An operation on the fields alone is local to no keys. -/
theorem LocalTo.offTables
    {operation : σ → α × σ}
    (answer : α)
    (after : ρ)
    (does : ∀ store, (layout store).1 = rest →
      operation store = (answer, layout.symm (after, (layout store).2))) :
    LocalTo layout rest ∅ operation where
  reads := by
    intro left right leftRest rightRest agree
    rw [does left leftRest, does right rightRest]
    simpa using agree
  writes := by
    intro store fields index key _
    rw [does store fields]
    simp

/-- Local operations for the items of a list, one after the other. -/
theorem LocalTo.collect
    {η : Type*}
    {operation : η → σ → List α × σ}
    {items : List η}
    (isLocal : ∀ item ∈ items, ∀ rest,
      LocalTo layout rest keys (operation item)) :
    LocalTo layout rest keys (collect operation items) := by
  induction items generalizing rest with
  | nil =>
      exact (LocalTo.offTables [] rest fun store fields => by
        rw [← fields]
        simp [TurboAccess.collect]).mono (Set.empty_subset keys)
  | cons item items inductionHypothesis =>
      have later : ∀ rest : ρ, LocalTo layout rest keys
          (TurboAccess.collect operation items) :=
        fun _ => inductionHypothesis fun other member =>
          isLocal other (List.mem_cons_of_mem item member)
      exact (isLocal item List.mem_cons_self rest).bind
        fun first rest => (later rest).map (first ++ ·)

end Local

/-! ## Refinement -/

section Refinement

variable [DecidableEq κ] (layout : σ ≃ ρ × (ι → Table κ ν))

/-- A sharded store has the fields of a store, and each of its tables in pieces:
a key is in the shard that the hash selects, and in no other. -/
structure Refines
    (shardFor : κ → Fin n)
    (store : Sharded n ρ ι κ ν)
    (whole : σ) : Prop where
  rest : store.rest = (layout whole).1
  lookup : ∀ shard index key, (store.shards shard index).lookup key =
    if shardFor key = shard then ((layout whole).2 index).lookup key else none

/-- Keys are in the shards that the hash selects. -/
def Placed (shardFor : κ → Fin n) (store : Sharded n ρ ι κ ν) : Prop :=
  ∀ shard index key, (store.shards shard index).lookup key ≠ none →
    shardFor key = shard

namespace Refines

variable
  {layout}
  {shardFor : κ → Fin n}
  {store : Sharded n ρ ι κ ν}
  {whole : σ}

theorem placed (refines : Refines layout shardFor store whole) :
    Placed shardFor store := by
  intro shard index key present
  by_contra elsewhere
  rw [refines.lookup, if_neg elsewhere] at present
  exact present rfl

/-- Empty tables in every shard make empty tables. -/
theorem empty
    (whole : σ)
    (isEmpty : ∀ index, (layout whole).2 index = ∅) :
    Refines layout shardFor ⟨(layout whole).1, fun _ _ => ∅⟩ whole where
  rest := rfl
  lookup := by
    intro shard index key
    rw [isEmpty, Finmap.lookup_empty, ite_self]

/-- On a shard the keys that the hash puts there are seen as in the whole
tables. -/
theorem agreeOn
    (refines : Refines layout shardFor store whole)
    {shard : Fin n}
    {keys : Set κ}
    (inside : ∀ key ∈ keys, shardFor key = shard) :
    AgreeOn keys (layout (store.view layout shard)).2 (layout whole).2 := by
  intro index key member
  rw [Sharded.view, Equiv.apply_symm_apply]
  dsimp only
  rw [refines.lookup, if_pos (inside key member)]

/-- An operation that is local to keys of one shard does the same on this shard
as on the whole tables. -/
theorem onShard
    (refines : Refines layout shardFor store whole)
    {shard : Fin n}
    {keys : Set κ}
    {operation : σ → α × σ}
    (inside : ∀ key ∈ keys, shardFor key = shard)
    (isLocal : LocalTo layout store.rest keys operation) :
    (store.onShard layout shard operation).1 = (operation whole).1 ∧
      Refines layout shardFor (store.onShard layout shard operation).2
        (operation whole).2 := by
  have fields : (layout (store.view layout shard)).1 = store.rest := by
    rw [Sharded.view, Equiv.apply_symm_apply]
  obtain ⟨answer, restEq, after⟩ := isLocal.reads _ _ fields refines.rest.symm
    (refines.agreeOn inside)
  refine ⟨answer, restEq, ?_⟩
  intro other index key
  have wholeAfter := isLocal.writes whole refines.rest.symm index key
  by_cases here : other = shard
  · subst here
    simp only [Sharded.onShard, Function.update_self]
    by_cases known : key ∈ keys
    · rw [if_pos (inside key known)]
      exact after index key known
    · rw [isLocal.writes _ fields index key known, wholeAfter known,
        Sharded.view, Equiv.apply_symm_apply]
      exact refines.lookup other index key
  · simp only [Sharded.onShard, Function.update_of_ne here]
    rw [refines.lookup]
    split
    · next selected =>
        have unknown : key ∉ keys := by
          intro known
          exact here (selected.symm.trans (inside key known))
        rw [wholeAfter unknown]
    · rfl

/-- An operation that is local to a key does the same on the shard of the key. -/
theorem onKey
    (refines : Refines layout shardFor store whole)
    {key : κ}
    {operation : σ → α × σ}
    (isLocal : LocalTo layout store.rest {key} operation) :
    (store.onShard layout (shardFor key) operation).1 = (operation whole).1 ∧
      Refines layout shardFor
        (store.onShard layout (shardFor key) operation).2
        (operation whole).2 := by
  refine refines.onShard ?_ isLocal
  rintro _ rfl
  rfl

/-- An operation that looks at no key does the same on the fields alone. -/
theorem onRest
    (refines : Refines layout shardFor store whole)
    {operation : σ → α × σ}
    (isLocal : LocalTo layout store.rest ∅ operation) :
    (store.onRest layout operation).1 = (operation whole).1 ∧
      Refines layout shardFor (store.onRest layout operation).2
        (operation whole).2 := by
  have fields : (layout (layout.symm
      (store.rest, fun _ : ι => (∅ : Table κ ν)))).1 = store.rest := by
    rw [Equiv.apply_symm_apply]
  obtain ⟨answer, restEq, _⟩ := isLocal.reads _ _ fields refines.rest.symm
    fun _ key member => absurd member (Set.notMem_empty key)
  refine ⟨answer, restEq, ?_⟩
  intro shard index key
  rw [isLocal.writes whole refines.rest.symm index key
    (Set.notMem_empty key)]
  exact refines.lookup shard index key

/-- Operations that are local to their shards do the same on the shards, one
after the other, as on the whole tables. -/
theorem onShards
    (refines : Refines layout shardFor store whole)
    {operation : Fin n → σ → List α × σ}
    (isLocal : ∀ rest shard,
      LocalTo layout rest {key | shardFor key = shard} (operation shard))
    (shards : List (Fin n)) :
    (store.onShards layout operation shards).1 =
        (collect operation shards whole).1 ∧
      Refines layout shardFor (store.onShards layout operation shards).2
        (collect operation shards whole).2 := by
  induction shards generalizing store whole with
  | nil => exact ⟨rfl, refines⟩
  | cons shard shards inductionHypothesis =>
      obtain ⟨first, between⟩ := refines.onShard (fun _ selected => selected)
        (isLocal store.rest shard)
      obtain ⟨later, after⟩ := inductionHypothesis between
      exact ⟨congrArg₂ (· ++ ·) first later, after⟩

/-- Orders of the keys of each shard, one after the other, are an order of the
keys of the table. -/
theorem enumerates
    (refines : Refines layout shardFor store whole)
    {index : ι}
    {orders : Fin n → List κ}
    (enumerated : store.Enumerates index orders) :
    ((List.finRange n).flatMap orders).Nodup ∧
      ((List.finRange n).flatMap orders).toFinset =
        ((layout whole).2 index).keys := by
  have listed : ∀ shard key, key ∈ orders shard ↔
      shardFor key = shard ∧
        ((layout whole).2 index).lookup key ≠ none := by
    intro shard key
    rw [← List.mem_toFinset, (enumerated shard).2, Finmap.mem_keys,
      ← Finmap.lookup_isSome, Option.isSome_iff_ne_none, refines.lookup]
    split
    · next selected => simp [selected]
    · next elsewhere => simp [elsewhere]
  constructor
  · refine List.nodup_flatMap.mpr ⟨fun shard _ => (enumerated shard).1, ?_⟩
    apply (List.nodup_finRange n).imp
    intro first second distinct key inFirst inSecond
    exact distinct (((listed first key).mp inFirst).1.symm.trans
      ((listed second key).mp inSecond).1)
  · ext key
    rw [List.mem_toFinset, List.mem_flatMap, Finmap.mem_keys,
      ← Finmap.lookup_isSome, Option.isSome_iff_ne_none]
    constructor
    · rintro ⟨shard, _, member⟩
      exact ((listed shard key).mp member).2
    · intro present
      exact ⟨shardFor key, List.mem_finRange _,
        (listed (shardFor key) key).mpr ⟨rfl, present⟩⟩

/-- Visiting every key of every shard does the same as visiting the keys of the
whole table in the order that results. -/
theorem visits
    (refines : Refines layout shardFor store whole)
    {visit : κ → σ → List α × σ}
    {index : ι}
    {orders : Fin n → List κ}
    (isLocal : ∀ key rest, LocalTo layout rest {key} (visit key))
    (enumerated : store.Enumerates index orders) :
    (store.onShards layout (fun shard => collect visit (orders shard))
          (List.finRange n)).1 =
        (collect visit ((List.finRange n).flatMap orders) whole).1 ∧
      Refines layout shardFor
        (store.onShards layout (fun shard => collect visit (orders shard))
          (List.finRange n)).2
        (collect visit ((List.finRange n).flatMap orders) whole).2 := by
  rw [← collect_flatMap]
  refine refines.onShards ?_ (List.finRange n)
  intro rest shard
  refine .collect ?_
  intro key member rest
  apply (isLocal key rest).mono
  rintro _ rfl
  apply refines.placed shard index _
  rw [← List.mem_toFinset, (enumerated shard).2, Finmap.mem_keys,
    ← Finmap.lookup_isSome, Option.isSome_iff_ne_none] at member
  exact member

end Refines

end Refinement

end TurboAccess
