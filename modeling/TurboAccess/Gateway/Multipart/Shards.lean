import TurboAccess.Lib.Service
import TurboAccess.Lib.Sharded
import TurboAccess.Gateway.Multipart.Coordinator

/-!
# The shards of the upload registry

The registry of uploads has thirty-two shards, and an upload is in the shard that
the hash of its identifier selects.  Whatever the hash, the registry answers as
one with a whole table: what it finds, and which uploads a sweep removes.
-/

namespace TurboAccess
namespace Gateway

/-- What the registry has beside the shards. -/
structure MultipartRest where
  ttl : Nat
  seq : Nat
  objects : UploadPtr → MultipartUpload
  allocated : Nat

/-- Operations of the registry, and changes that a holder of an upload makes
under its lock. -/
inductive MultipartCall
  | create (params : StartUploadParams) (backendUploadId : String) (now : Nat)
  | find (uploadId : String)
  | erase (uploadId : String)
  | touch (upload : UploadPtr) (now : Nat)
  | modify (upload : UploadPtr) (change : MultipartUpload → MultipartUpload)

/-- All operations.  In which order a sweep visits is not up to its caller. -/
inductive MultipartRequest
  | call (call : MultipartCall)
  | sweepExpired (now : Nat)

/-- What a caller sees: an upload and what it holds, whether there was one, or
the number of uploads that were removed, and which they were. -/
inductive MultipartAnswer
  | found (upload : Option (UploadPtr × MultipartUpload))
  | erased (existed : Bool)
  | done
  | swept (count : Nat) (expired : Finset UploadPtr)

namespace MultipartStore

/-- The fields and the table of a registry. -/
def layout : MultipartStore ≃
    MultipartRest × (Unit → Table String UploadPtr) where
  toFun store :=
    (⟨store.ttl, store.seq, store.objects, store.allocated⟩,
      fun _ => store.byId)
  invFun parts :=
    { ttl := parts.1.ttl
      seq := parts.1.seq
      byId := parts.2 ()
      objects := parts.1.objects
      allocated := parts.1.allocated }
  left_inv _ := rfl
  right_inv _ := rfl

/-- An upload as its holder sees it. -/
def seen (store : MultipartStore) (upload : Option UploadPtr) :
    MultipartAnswer :=
  .found (upload.map fun ptr => (ptr, store.objects ptr))

def touch (store : MultipartStore) (upload : UploadPtr) (now : Nat) :
    MultipartStore :=
  store.modify upload fun object => { object with lastActivityAt := now }

def call (store : MultipartStore) :
    MultipartCall → MultipartAnswer × MultipartStore
  | .create params backendUploadId now =>
      let (upload, store) := store.create params backendUploadId now
      (store.seen (some upload), store)
  | .find uploadId => (store.seen (store.find uploadId), store)
  | .erase uploadId =>
      (.erased (store.find uploadId).isSome, store.erase uploadId)
  | .touch upload now => (.done, store.touch upload now)
  | .modify upload change => (.done, store.modify upload change)

/-- An order in which a sweep can visit the registry: every entry once. -/
def Enumerates (store : MultipartStore) (order : List String) : Prop :=
  order.Nodup ∧ order.toFinset = store.byId.keys

/-- What a registry with a whole table answers. -/
inductive Answers (store : MultipartStore) :
    MultipartRequest → MultipartAnswer → MultipartStore → Prop
  | call (call : MultipartCall) :
      Answers store (.call call) (store.call call).1 (store.call call).2
  | sweepExpired {order : List String} (now : Nat)
      (enumerates : store.Enumerates order) :
      Answers store (.sweepExpired now)
        (.swept (store.sweepExpired now order).1.length
          (store.sweepExpired now order).1.toFinset)
        (store.sweepExpired now order).2

/-! ## Sweeps -/

/-- The upload under an identifier, if a sweep removes it. -/
def dueAt (store : MultipartStore) (now : Nat) (uploadId : String) :
    Option UploadPtr :=
  (store.byId.lookup uploadId).filter fun upload =>
    decide (store.ttl ≠ 0 ∧
      store.ttl < now - (store.objects upload).lastActivityAt)

/-- A visit of a sweep, with the uploads it removes. -/
def visit (now : Nat) (uploadId : String) (store : MultipartStore) :
    List UploadPtr × MultipartStore :=
  if store.ttl = 0 then ([], store)
  else
    ((store.sweepOne now uploadId).1.toList, (store.sweepOne now uploadId).2)

theorem sweepExpired_of_ttl_eq_zero
    {store : MultipartStore}
    (unlimited : store.ttl = 0)
    (now : Nat)
    (order : List String) :
    store.sweepExpired now order = ([], store) := by
  cases order with
  | nil => rfl
  | cons uploadId rest => rw [sweepExpired, if_pos unlimited]

/-- A sweep is its visits. -/
theorem sweepExpired_eq_collect
    (store : MultipartStore)
    (now : Nat)
    (order : List String) :
    store.sweepExpired now order = collect (visit now) order store := by
  induction order generalizing store with
  | nil => rfl
  | cons uploadId rest inductionHypothesis =>
      rw [sweepExpired, collect, visit]
      split
      · next unlimited =>
          simp only [← inductionHypothesis,
            sweepExpired_of_ttl_eq_zero unlimited, List.append_nil]
      · simp only [inductionHypothesis]

/-- A visit removes the upload under an identifier when it is due. -/
theorem visit_eq (now : Nat) (uploadId : String) (store : MultipartStore) :
    visit now uploadId store =
      match store.dueAt now uploadId with
      | none => ([], store)
      | some upload => ([upload], store.erase uploadId) := by
  rw [visit, sweepOne, dueAt]
  cases store.byId.lookup uploadId with
  | none => simp
  | some upload =>
      by_cases unlimited : store.ttl = 0
      · simp [unlimited, Option.filter_some]
      · by_cases late :
            store.ttl < now - (store.objects upload).lastActivityAt
        · simp [unlimited, late, Option.filter_some]
        · simp [unlimited, late, Option.filter_some]

/-- What is due under other identifiers stays so when one is erased. -/
theorem dueAt_erase
    {store : MultipartStore}
    {uploadId other : String}
    (different : other ≠ uploadId)
    (now : Nat) :
    (store.erase uploadId).dueAt now other = store.dueAt now other := by
  simp only [dueAt, erase, Table.lookup_erase_eq, if_neg different]
  rfl

/-- A sweep collects what is due in the order of its visits, and erases it. -/
theorem sweepExpired_eq
    (store : MultipartStore)
    (now : Nat)
    {order : List String}
    (once : order.Nodup) :
    (store.sweepExpired now order).1 = order.filterMap (store.dueAt now) ∧
      ∃ byId, (store.sweepExpired now order).2 = { store with byId } ∧
        ∀ uploadId, byId.lookup uploadId =
          if uploadId ∈ order ∧ store.dueAt now uploadId ≠ none then none
          else store.byId.lookup uploadId := by
  rw [sweepExpired_eq_collect]
  induction order generalizing store with
  | nil => exact ⟨rfl, store.byId, rfl, by simp⟩
  | cons uploadId rest inductionHypothesis =>
      obtain ⟨fresh, once⟩ := List.nodup_cons.mp once
      rw [collect, visit_eq, List.filterMap_cons]
      cases due : store.dueAt now uploadId with
      | none =>
          obtain ⟨expired, byId, after, lookups⟩ :=
            inductionHypothesis store once
          refine ⟨expired, byId, after, ?_⟩
          intro other
          rw [lookups]
          by_cases own : other = uploadId
          · simp [own, due]
          · simp [own]
      | some upload =>
          obtain ⟨expired, byId, after, lookups⟩ :=
            inductionHypothesis (store.erase uploadId) once
          have later : rest.filterMap ((store.erase uploadId).dueAt now) =
              rest.filterMap (store.dueAt now) := by
            apply List.filterMap_congr
            intro other member
            refine dueAt_erase ?_ now
            rintro rfl
            exact fresh member
          rw [later] at expired
          refine ⟨congrArg (upload :: ·) expired, byId, after, ?_⟩
          intro other
          rw [lookups]
          by_cases own : other = uploadId
          · subst own
            simp [due, fresh, erase]
          · rw [dueAt_erase own]
            simp [own, erase]

/-- The order of its visits decides neither what a sweep removes, up to the
order, nor what it leaves. -/
theorem sweepExpired_perm
    {store : MultipartStore}
    {first second : List String}
    (now : Nat)
    (firstEnumerates : store.Enumerates first)
    (secondEnumerates : store.Enumerates second) :
    (store.sweepExpired now first).1.Perm (store.sweepExpired now second).1 ∧
      (store.sweepExpired now first).2 = (store.sweepExpired now second).2 := by
  obtain ⟨firstExpired, firstById, firstAfter, firstLookups⟩ :=
    store.sweepExpired_eq now firstEnumerates.1
  obtain ⟨secondExpired, secondById, secondAfter, secondLookups⟩ :=
    store.sweepExpired_eq now secondEnumerates.1
  have visited : ∀ uploadId, uploadId ∈ first ↔ uploadId ∈ second := by
    intro uploadId
    rw [← List.mem_toFinset, firstEnumerates.2, ← secondEnumerates.2,
      List.mem_toFinset]
  constructor
  · rw [firstExpired, secondExpired]
    apply List.Perm.filterMap _
    exact (List.perm_ext_iff_of_nodup firstEnumerates.1
      secondEnumerates.1).mpr visited
  · have byId : firstById = secondById := by
      apply Finmap.ext_lookup
      intro uploadId
      simp only [firstLookups, secondLookups, visited]
    rw [firstAfter, secondAfter, byId]

end MultipartStore

/-- The registry as it is. -/
abbrev ShardedMultipartStore :=
  Sharded 32 MultipartRest Unit String UploadPtr

namespace ShardedMultipartStore

open MultipartStore (layout)

section Operations

variable (hash : String → Nat)

private theorem uploadShards_ne_zero : NeZero 32 := ⟨by decide⟩

attribute [local instance] uploadShards_ne_zero in
/-- The shard of an upload. -/
def shardFor (key : String) : Fin 32 := shardOf 32 hash key

/-- An empty registry. -/
def init (ttl : Nat) : ShardedMultipartStore where
  rest := ⟨ttl, 0, fun _ => default, 0⟩
  shards := fun _ _ => ∅

/-- Run an operation on the shard of an upload. -/
def onKey
    (key : String)
    (operation : MultipartStore → α × MultipartStore)
    (store : ShardedMultipartStore) : α × ShardedMultipartStore :=
  store.onShard layout (shardFor hash key) operation

def call (store : ShardedMultipartStore) :
    MultipartCall → MultipartAnswer × ShardedMultipartStore
  -- the identifier of a new upload is known before its shard is
  | .create params backendUploadId now =>
      onKey hash (mpuId (store.rest.seq + 1) now)
        (·.call (.create params backendUploadId now)) store
  | .find uploadId => onKey hash uploadId (·.call (.find uploadId)) store
  | .erase uploadId => onKey hash uploadId (·.call (.erase uploadId)) store
  -- these are under the lock of the upload, and concern no shard
  | .touch upload now => store.onRest layout (·.call (.touch upload now))
  | .modify upload change =>
      store.onRest layout (·.call (.modify upload change))

/-- Remove the expired uploads, visiting the table of every shard in the given
order. -/
def sweepExpired
    (store : ShardedMultipartStore)
    (now : Nat)
    (orders : Fin 32 → List String) :
    List UploadPtr × ShardedMultipartStore :=
  if store.rest.ttl = 0 then ([], store)
  else
    store.onShards layout
      (fun shard uploads => uploads.sweepExpired now (orders shard))
      (List.finRange 32)

/-- What the registry with its shards answers. -/
inductive Answers (store : ShardedMultipartStore) :
    MultipartRequest → MultipartAnswer → ShardedMultipartStore → Prop
  | call (call : MultipartCall) :
      Answers store (.call call) (store.call hash call).1
        (store.call hash call).2
  | sweepExpired {orders : Fin 32 → List String} (now : Nat)
      (enumerates : store.Enumerates () orders) :
      Answers store (.sweepExpired now)
        (.swept (store.sweepExpired now orders).1.length
          (store.sweepExpired now orders).1.toFinset)
        (store.sweepExpired now orders).2

end Operations

section Locality

variable {rest : MultipartRest}

theorem local_create
    (params : StartUploadParams)
    (backendUploadId : String)
    (now : Nat) :
    LocalTo layout rest {mpuId (rest.seq + 1) now}
      fun store => store.call (.create params backendUploadId now) := by
  -- what is answered does not depend on the table; a taken identifier is kept
  refine .atKey fun seen =>
    ⟨((layout.symm (rest, fun _ => ∅)).call
        (.create params backendUploadId now)).1,
      (layout ((layout.symm (rest, fun _ => ∅)).call
        (.create params backendUploadId now)).2).1,
      fun _ => if seen () = none then .put rest.allocated else .keep, ?_⟩
  rintro store rfl sees
  have same : store.byId.lookup (mpuId (store.seq + 1) now) = seen () :=
    sees ()
  cases found : seen () with
  | none =>
      rw [found] at same
      simp only [MultipartStore.call, MultipartStore.create, Table.emplace, same]
      rfl
  | some old =>
      rw [found] at same
      simp only [MultipartStore.call, MultipartStore.create, Table.emplace, same]
      rfl

theorem local_find (uploadId : String) :
    LocalTo layout rest {uploadId} fun store => store.call (.find uploadId) := by
  refine .query ?_
  rintro left right rfl rightRest same
  have found : left.byId.lookup uploadId = right.byId.lookup uploadId :=
    same ()
  have objects : right.objects = left.objects :=
    congrArg MultipartRest.objects rightRest
  simp only [MultipartStore.find, MultipartStore.seen, found, objects]

theorem local_erase (uploadId : String) :
    LocalTo layout rest {uploadId}
      fun store => store.call (.erase uploadId) := by
  refine .atKey fun seen =>
    ⟨.erased (seen ()).isSome, rest, fun _ => .erase, ?_⟩
  rintro store rfl sees
  rw [← sees ()]
  rfl

theorem local_modify
    (answer : α)
    (upload : UploadPtr)
    (change : MultipartUpload → MultipartUpload) :
    LocalTo layout rest ∅ fun store => (answer, store.modify upload change) := by
  refine .offTables answer
    { rest with
      objects := Function.update rest.objects upload
        (change (rest.objects upload)) } ?_
  rintro store rfl
  rfl

theorem local_visit (now : Nat) (uploadId : String) :
    LocalTo layout rest {uploadId} (MultipartStore.visit now uploadId) := by
  refine .atKey fun seen => ?_
  -- what is due depends on the fields and on what is registered
  have due : ∀ store, (layout store).1 = rest →
      (∀ index, ((layout store).2 index).lookup uploadId = seen index) →
        store.dueAt now uploadId = (seen ()).filter fun upload =>
          decide (rest.ttl ≠ 0 ∧
            rest.ttl < now - (rest.objects upload).lastActivityAt) := by
    rintro store rfl sees
    rw [← sees ()]
    rfl
  cases expired : (seen ()).filter _ with
  | none =>
      refine ⟨[], rest, fun _ => .keep, ?_⟩
      intro store fields sees
      rw [MultipartStore.visit_eq, due store fields sees, expired, ← fields]
      rfl
  | some upload =>
      refine ⟨[upload], rest, fun _ => .erase, ?_⟩
      intro store fields sees
      rw [MultipartStore.visit_eq, due store fields sees, expired, ← fields]
      rfl

end Locality

section Refinement

variable
  {hash : String → Nat}
  {store : ShardedMultipartStore}
  {whole : MultipartStore}

theorem refines_call
    (refines : Refines layout (shardFor hash) store whole)
    (call : MultipartCall) :
    (store.call hash call).1 = (whole.call call).1 ∧
      Refines layout (shardFor hash) (store.call hash call).2
        (whole.call call).2 := by
  cases call with
  | create params backendUploadId now =>
      exact refines.onKey (local_create params backendUploadId now)
  | find uploadId => exact refines.onKey (local_find uploadId)
  | erase uploadId => exact refines.onKey (local_erase uploadId)
  | touch upload now =>
      exact refines.onRest (local_modify MultipartAnswer.done upload _)
  | modify upload change =>
      exact refines.onRest (local_modify MultipartAnswer.done upload change)

/-- A sweep of the shards is a sweep of the whole table. -/
theorem refines_sweepExpired
    (refines : Refines layout (shardFor hash) store whole)
    {orders : Fin 32 → List String}
    (enumerated : store.Enumerates () orders)
    (now : Nat) :
    ∃ order, whole.Enumerates order ∧
      (store.sweepExpired now orders).1 = (whole.sweepExpired now order).1 ∧
      Refines layout (shardFor hash) (store.sweepExpired now orders).2
        (whole.sweepExpired now order).2 := by
  refine ⟨(List.finRange 32).flatMap orders, refines.enumerates enumerated, ?_⟩
  have ttl : store.rest.ttl = whole.ttl :=
    congrArg MultipartRest.ttl refines.rest
  rw [sweepExpired]
  split
  · next unlimited =>
      rw [MultipartStore.sweepExpired_of_ttl_eq_zero (ttl.symm.trans unlimited)]
      exact ⟨rfl, refines⟩
  · simp only [MultipartStore.sweepExpired_eq_collect]
    exact refines.visits (fun key rest => local_visit now key) enumerated

theorem simulates (hash : String → Nat) :
    Simulates (Answers hash) MultipartStore.Answers
      (Refines layout (shardFor hash)) where
  leftServes := by
    intro store request
    cases request with
    | call call => exact ⟨_, _, .call call⟩
    | sweepExpired now =>
        obtain ⟨orders, enumerates⟩ := store.exists_enumerates ()
        exact ⟨_, _, .sweepExpired now enumerates⟩
  rightServes := by
    intro store request
    cases request with
    | call call => exact ⟨_, _, .call call⟩
    | sweepExpired now =>
        have enumerates : store.Enumerates store.byId.keys.toList :=
          ⟨Finset.nodup_toList _, Finset.toList_toFinset _⟩
        exact ⟨_, _, .sweepExpired now enumerates⟩
  agree := by
    intro store whole request answer wholeAnswer next wholeNext refines served
      wholeServed
    cases served with
    | call call =>
        cases wholeServed
        obtain ⟨same, after⟩ := refines_call refines call
        exact ⟨same, after⟩
    | sweepExpired now enumerates =>
        cases wholeServed with
        | sweepExpired now wholeEnumerates =>
            obtain ⟨order, ordered, expired, after⟩ :=
              refines_sweepExpired refines enumerates now
            obtain ⟨perm, final⟩ :=
              MultipartStore.sweepExpired_perm now ordered wholeEnumerates
            rw [expired, List.toFinset_eq_of_perm _ _ perm, perm.length_eq,
              ← final]
            exact ⟨rfl, after⟩

/-- The registry answers as one with a whole table, and uploads stay in the
shards that the hashes of their identifiers select. -/
theorem sameAnswers (hash : String → Nat) (ttl : Nat) :
    SameAnswers (Answers hash) MultipartStore.Answers (Placed (shardFor hash))
      (init ttl) (.init ttl) := by
  have start : Refines layout (shardFor hash) (init ttl) (.init ttl) :=
    Refines.empty (MultipartStore.init ttl) fun _ => rfl
  exact (simulates hash).sameAnswers Refines.placed start

end Refinement

end ShardedMultipartStore

end Gateway
end TurboAccess
