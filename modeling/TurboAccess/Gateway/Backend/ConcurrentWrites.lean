import TurboAccess.Gateway.Backend.Assembly
import TurboAccess.Lib.History
import TurboAccess.Lib.Machine

/-!
# Concurrent writes of one object

A call that stores a whole object changes the data store in one critical section
and the index in a later one.  Calls on one object interleave between the two, so
one of them can leave its bytes and another its metadata.

When the calls register in the order in which they wrote, the object is left as
if they had run one after the other in this order.
-/

namespace TurboAccess
namespace Gateway
namespace ConcurrentWrites

/-! ## Calls -/

/-- An operation that stores the whole object. -/
inductive Operation
  | write (source : Bytes)
  | writeRange (source : Bytes)
  | reserve (totalSize : Nat)
  | completeMultipart (uploadId : String) (parts : List PartRecord)
  deriving DecidableEq

/-- The upload an operation completes. -/
def Operation.completes : Operation → Option String
  | .completeMultipart uploadId _ => some uploadId
  | _ => none

/-- An operation, and the clock its metadata is labelled with. -/
structure Call where
  operation : Operation
  now : Nat
  deriving DecidableEq

section Object

variable (bucket key : String)

/-- A call from beginning to end. -/
def Call.run
    (call : Call)
    (backend : CompositeBackend) : Result ObjectMetadata × CompositeBackend :=
  match call.operation with
  | .write source => backend.write bucket key source call.now
  | .writeRange source =>
      backend.writeRange bucket key 0 source (some source.length) call.now
  | .reserve totalSize => backend.reserve bucket key totalSize call.now
  | .completeMultipart uploadId parts =>
      backend.completeMultipart uploadId parts call.now

/-- The backend after calls that run one after the other and all succeed. -/
def serial : CompositeBackend → List Call → Option CompositeBackend
  | backend, [] => some backend
  | backend, call :: rest =>
      match call.run bucket key backend with
      | (.error _, _) => none
      | (.ok _, next) => serial next rest

/-! ## Sections -/

/-- The section of a call in the data store: the size it answers, and the store
after it, unless the call fails or is for another object. -/
def dataSection
    (backend : CompositeBackend) :
    Operation → Option (Nat × MemoryDataStore)
  | .write source | .writeRange source =>
      match backend.data.writeRange bucket key 0 source
          (some source.length) with
      | (.error _, _) => none
      | (.ok _, data) => some (source.length, data)
  | .reserve totalSize =>
      match backend.data.reserve bucket key totalSize with
      | (.error _, _) => none
      | (.ok _, data) => some (totalSize, data)
  | .completeMultipart uploadId parts =>
      if backend.mpuTargets.lookup uploadId = some (bucket, key) then
        match backend.data.assembleObject uploadId bucket key
            (CompositeBackend.orderedNumbers parts) with
        | (.error _, _) => none
        | (.ok size, data) => some (size, data)
      else none

/-- The section of a call in the index, unless the call fails.  A completion
forgets the destination of its upload after it. -/
def indexSection
    (backend : CompositeBackend)
    (metadata : ObjectMetadata) : Operation → Option CompositeBackend
  | .completeMultipart uploadId _ =>
      match backend.index.commitMultipart uploadId bucket key metadata with
      | (.error _, _) => none
      | (.ok _, index) => some (({ backend with index }).eraseTarget uploadId)
  | _ =>
      some { backend with
        index := backend.index.putObjectIndex bucket key metadata }

/-- A call whose sections are granted, one right after the other, succeeds. -/
theorem Call.run_of_sections
    {backend next : CompositeBackend}
    {call : Call}
    {size : Nat}
    {data : MemoryDataStore}
    (written : dataSection bucket key backend call.operation =
      some (size, data))
    (registered : indexSection bucket key { backend with data }
      (makeMeta size call.now) call.operation = some next) :
    call.run bucket key backend = (.ok (makeMeta size call.now), next) := by
  obtain ⟨operation, now⟩ := call
  dsimp only at written registered
  unfold Call.run
  cases operation with
  | write source | writeRange source =>
      rw [dataSection] at written
      dsimp only [CompositeBackend.write]
      unfold CompositeBackend.writeRange
      rcases answer : backend.data.writeRange bucket key 0 source
        (some source.length) with ⟨error | accepted, after⟩
      · rw [answer] at written
        cases written
      · rw [answer] at written
        cases written
        cases registered
        rfl
  | reserve totalSize =>
      rw [dataSection] at written
      unfold CompositeBackend.reserve
      dsimp only
      rcases answer : backend.data.reserve bucket key totalSize with
        ⟨error | accepted, after⟩
      · rw [answer] at written
        cases written
      · rw [answer] at written
        cases written
        cases registered
        rfl
  | completeMultipart uploadId parts =>
      rw [dataSection] at written
      rw [indexSection] at registered
      dsimp only
      unfold CompositeBackend.completeMultipart
      by_cases target :
          backend.mpuTargets.lookup uploadId = some (bucket, key)
      · rw [if_pos target] at written
        rw [target]
        dsimp only
        rcases assembled : backend.data.assembleObject uploadId bucket key
          (CompositeBackend.orderedNumbers parts) with ⟨error | length, after⟩
        · rw [assembled] at written
          cases written
        · rw [assembled] at written
          cases written
          dsimp only at registered ⊢
          rcases committed : backend.index.commitMultipart uploadId bucket key
            (makeMeta size now) with ⟨error | closed, index⟩
          · rw [committed] at registered
            cases registered
          · rw [committed] at registered
            cases registered
            rfl
      · rw [if_neg target] at written
        cases written

/-- The section in the data store depends on the data store and the destination
only. -/
theorem dataSection_congr
    {left right : CompositeBackend}
    {operation : Operation}
    (data : left.data = right.data)
    (targets : ∀ uploadId, operation.completes = some uploadId →
      left.mpuTargets.lookup uploadId = right.mpuTargets.lookup uploadId) :
    dataSection bucket key left operation =
      dataSection bucket key right operation := by
  cases operation with
  | write | writeRange | reserve => simp only [dataSection, data]
  | completeMultipart uploadId parts =>
      simp only [dataSection, data, targets uploadId rfl]

/-- A completion takes the staging of its upload; nothing else touches a
staging. -/
theorem staging_of_dataSection
    {backend : CompositeBackend}
    {operation : Operation}
    {size : Nat}
    {data : MemoryDataStore}
    (written : dataSection bucket key backend operation = some (size, data)) :
    (∀ uploadId, operation.completes = some uploadId →
        backend.mpuTargets.lookup uploadId ≠ none ∧
          backend.data.mpu.lookup uploadId ≠ none ∧
            data.mpu.lookup uploadId = none) ∧
      ∀ uploadId, backend.data.mpu.lookup uploadId = none →
        data.mpu.lookup uploadId = none := by
  -- a call that completes nothing keeps every staging
  have keeps : data.mpu = backend.data.mpu → ∀ uploadId,
      backend.data.mpu.lookup uploadId = none →
        data.mpu.lookup uploadId = none := by
    intro kept uploadId absent
    rw [kept, absent]
  cases operation with
  | write source | writeRange source =>
      have kept := backend.data.writeRange_mpu bucket key 0 source
        (some source.length)
      rw [dataSection] at written
      split at written
      · cases written
      · next answer =>
          cases written
          rw [answer] at kept
          exact ⟨nofun, keeps kept⟩
  | reserve totalSize =>
      have kept := backend.data.reserve_mpu bucket key totalSize
      rw [dataSection] at written
      split at written
      · cases written
      · next answer =>
          cases written
          rw [answer] at kept
          exact ⟨nofun, keeps kept⟩
  | completeMultipart uploadId parts =>
      rw [dataSection] at written
      split at written
      · next target =>
          split at written
          · cases written
          · next assembled =>
              cases written
              obtain ⟨present, mpu⟩ :=
                MemoryDataStore.mpu_of_assembleObject assembled
              constructor
              · intro own completes
                obtain rfl := Option.some.inj completes
                refine ⟨by rw [target]; simp, present, ?_⟩
                rw [mpu, Finmap.lookup_erase]
              · intro other absent
                rw [mpu, Table.lookup_erase_eq, absent, ite_self]
      · cases written

/-- A section in the index registers the object and closes at most its own
upload, which was open. -/
structure Registers
    (backend next : CompositeBackend)
    (metadata : ObjectMetadata)
    (operation : Operation) : Prop where
  data : next.data = backend.data
  head : next.head bucket key = .ok metadata
  spared : ∀ uploadId, operation.completes ≠ some uploadId →
    next.mpuTargets.lookup uploadId = backend.mpuTargets.lookup uploadId ∧
      next.index.mpu.lookup uploadId = backend.index.mpu.lookup uploadId
  closed : ∀ uploadId, operation.completes = some uploadId →
    backend.index.mpu.lookup uploadId ≠ none ∧
      next.mpuTargets.lookup uploadId = none ∧
        next.index.mpu.lookup uploadId = none

theorem registers_of_indexSection
    {backend next : CompositeBackend}
    {metadata : ObjectMetadata}
    {operation : Operation}
    (registered : indexSection bucket key backend metadata operation =
      some next) :
    Registers bucket key backend next metadata operation := by
  cases operation with
  | write | writeRange | reserve =>
      cases registered
      refine ⟨rfl, ?_, fun _ _ => ⟨rfl, rfl⟩, ?_⟩
      · simp [CompositeBackend.head, MemoryIndexStore.head,
          MemoryIndexStore.putObjectIndex]
      · intro uploadId completes
        cases completes
  | completeMultipart uploadId parts =>
      rw [indexSection, MemoryIndexStore.commitMultipart] at registered
      cases known : backend.index.mpu.lookup uploadId with
      | none => simp [MemoryIndexStore.takeMultipart, known] at registered
      | some record =>
          simp only [MemoryIndexStore.takeMultipart, known, Option.some.injEq]
            at registered
          subst registered
          refine ⟨rfl, ?_, ?_, ?_⟩
          · simp [CompositeBackend.head, MemoryIndexStore.head,
              MemoryIndexStore.putObjectIndex, CompositeBackend.eraseTarget]
          · intro other different
            have distinct : other ≠ uploadId := by
              rintro rfl
              exact different rfl
            simp [MemoryIndexStore.putObjectIndex,
              CompositeBackend.eraseTarget, distinct]
          · intro own completes
            obtain rfl := Option.some.inj completes
            simp [MemoryIndexStore.putObjectIndex,
              CompositeBackend.eraseTarget, known]

/-- The section in the index is granted when the upload it closes is open. -/
theorem indexSection_isSome
    {backend : CompositeBackend}
    {operation : Operation}
    (metadata : ObjectMetadata)
    (known : ∀ uploadId, operation.completes = some uploadId →
      backend.index.mpu.lookup uploadId ≠ none) :
    ∃ next, indexSection bucket key backend metadata operation = some next := by
  cases operation with
  | write | writeRange | reserve => exact ⟨_, rfl⟩
  | completeMultipart uploadId parts =>
      obtain ⟨record, found⟩ :=
        Option.ne_none_iff_exists'.mp (known uploadId rfl)
      rw [indexSection, MemoryIndexStore.commitMultipart,
        MemoryIndexStore.takeMultipart, found]
      exact ⟨_, rfl⟩

/-! ## The machine -/

end Object

/-- A call that has executed its section in the data store, with the size it
answered, and whether it has executed its section in the index. -/
structure Writer where
  call : Call
  size : Nat
  registered : Bool
  deriving DecidableEq

/-- The metadata a call registers. -/
def Writer.metadata (writer : Writer) : ObjectMetadata :=
  makeMeta writer.size writer.call.now

/-- A backend, and the calls on the object in the order of their sections in the
data store. -/
structure Writers where
  backend : CompositeBackend
  writers : List Writer
  deriving DecidableEq

/-- A section of a new call in the data store, or of the call at a position in
the index. -/
inductive Section
  | data (call : Call)
  | index (position : Nat)

/-- The calls, in the order of their sections in the data store. -/
def Writers.calls (state : Writers) : List Call :=
  state.writers.map Writer.call

/-- Every call has returned. -/
def Writers.Finished (state : Writers) : Prop :=
  ∀ writer ∈ state.writers, writer.registered = true

/-- A call registers as the last one that has written, or while one that has
written later has still to register. -/
def InOrder (state : Writers) : Section → Prop
  | .data _ => True
  | .index position =>
      position + 1 = state.writers.length ∨
        ∃ later ∈ state.writers.drop (position + 1), later.registered = false

instance (state : Writers) : (label : Section) → Decidable (InOrder state label)
  | .data _ => .isTrue trivial
  | .index _ => inferInstanceAs (Decidable (_ ∨ _))

section Object

variable (bucket key : String)

/-- Execute a section.  A section that fails is no step: every call of a run
succeeds. -/
def step (state : Writers) : Section → Option Writers
  | .data call =>
      (dataSection bucket key state.backend call.operation).map
        fun (size, data) =>
          ⟨{ state.backend with data }, state.writers ++ [⟨call, size, false⟩]⟩
  | .index position =>
      match state.writers[position]? with
      | none => none
      | some writer =>
          if writer.registered then none
          else
            (indexSection bucket key state.backend writer.metadata
                writer.call.operation).map
              fun backend =>
                ⟨backend,
                  state.writers.set position { writer with registered := true }⟩

/-- Any number of calls on one object, over any backend. -/
def machine : Machine Writers Section where
  initial state := state.writers = []
  step := step bucket key

/-- The object is as some order of the same calls, one after the other, leaves
it. -/
def Serialisable (start : CompositeBackend) (state : Writers) : Prop :=
  ∃ order final,
    order.Perm state.calls ∧
      serial bucket key start order = some final ∧
        final.data.bodies.lookup (makeKey bucket key) =
            state.backend.data.bodies.lookup (makeKey bucket key) ∧
          final.head bucket key = state.backend.head bucket key

/-! ## The order of the data sections -/

/-- One more call after calls that succeed. -/
theorem serial_append_singleton
    {start middle next : CompositeBackend}
    {calls : List Call}
    {call : Call}
    {metadata : ObjectMetadata}
    (before : serial bucket key start calls = some middle)
    (answer : call.run bucket key middle = (.ok metadata, next)) :
    serial bucket key start (calls ++ [call]) = some next := by
  induction calls generalizing start with
  | nil =>
      cases before
      rw [List.nil_append, serial, answer]
      rfl
  | cons head tail inductionHypothesis =>
      rw [List.cons_append, serial]
      rw [serial] at before
      split at before
      · cases before
      · exact inductionHypothesis before

/-- A backend is left by the calls so far, one after the other: it has the bytes
and the staging of the run, the uploads that no call completes, and the metadata
of the last call. -/
structure Follows
    (start : CompositeBackend)
    (state : Writers)
    (final : CompositeBackend) : Prop where
  run : serial bucket key start state.calls = some final
  data : final.data = state.backend.data
  spared : ∀ uploadId,
    (∀ call ∈ state.calls, call.operation.completes ≠ some uploadId) →
      final.mpuTargets.lookup uploadId = start.mpuTargets.lookup uploadId ∧
        final.index.mpu.lookup uploadId = start.index.mpu.lookup uploadId
  head : ∀ metadata,
    (state.writers.map Writer.metadata).getLast? = some metadata →
      final.head bucket key = .ok metadata

/-- The uploads that calls complete are open in the index at the start. -/
def Opened (start : CompositeBackend) (state : Writers) : Prop :=
  ∀ call ∈ state.calls, ∀ uploadId,
    call.operation.completes = some uploadId →
      start.index.mpu.lookup uploadId ≠ none

/-- What holds while the calls register in order: when all have returned, the
index has the metadata of the call that wrote last. -/
structure Ordered (start : CompositeBackend) (state : Writers) : Prop where
  began : state.writers = [] → state.backend = start
  taken : ∀ call ∈ state.calls, ∀ uploadId,
    call.operation.completes = some uploadId →
      state.backend.data.mpu.lookup uploadId = none
  targets : ∀ uploadId, state.backend.mpuTargets.lookup uploadId ≠ none →
    state.backend.mpuTargets.lookup uploadId =
      start.mpuTargets.lookup uploadId
  records : ∀ uploadId, state.backend.index.mpu.lookup uploadId ≠ none →
    start.index.mpu.lookup uploadId ≠ none
  opened : ∀ writer ∈ state.writers, writer.registered = true →
    ∀ uploadId, writer.call.operation.completes = some uploadId →
      start.index.mpu.lookup uploadId ≠ none
  latest : state.Finished → ∀ metadata,
    (state.writers.map Writer.metadata).getLast? = some metadata →
      state.backend.head bucket key = .ok metadata
  follows : Opened start state → ∃ final, Follows bucket key start state final

variable {bucket key}

/-- A data section of one more call. -/
theorem Ordered.data
    {start : CompositeBackend}
    {state : Writers}
    {call : Call}
    {size : Nat}
    {data : MemoryDataStore}
    (ordered : Ordered bucket key start state)
    (written : dataSection bucket key state.backend call.operation =
      some (size, data)) :
    Ordered bucket key start
      ⟨{ state.backend with data }, state.writers ++ [⟨call, size, false⟩]⟩ := by
  obtain ⟨own, others⟩ := staging_of_dataSection bucket key written
  have calls : Writers.calls
      ⟨{ state.backend with data }, state.writers ++ [⟨call, size, false⟩]⟩ =
        state.calls ++ [call] := by
    simp [Writers.calls]
  constructor
  · intro empty
    simp at empty
  · intro other listed uploadId completes
    rw [calls] at listed
    rcases List.mem_append.mp listed with older | newest
    · exact others uploadId (ordered.taken other older uploadId completes)
    · obtain rfl := List.mem_singleton.mp newest
      exact (own uploadId completes).2.2
  · exact ordered.targets
  · exact ordered.records
  · intro writer listed registered uploadId completes
    rcases List.mem_append.mp listed with older | newest
    · exact ordered.opened writer older registered uploadId completes
    · obtain rfl := List.mem_singleton.mp newest
      cases registered
  · intro finished
    have returned := finished ⟨call, size, false⟩ (by simp)
    cases returned
  · intro opened
    rw [Opened, calls] at opened
    obtain ⟨final, follows⟩ := ordered.follows fun other older =>
      opened other (List.mem_append_left _ older)
    -- the upload the call completes is still open after the earlier calls
    have untouched : ∀ uploadId, call.operation.completes = some uploadId →
        ∀ other ∈ state.calls,
          other.operation.completes ≠ some uploadId := by
      intro uploadId completes other older again
      exact (own uploadId completes).2.1
        (ordered.taken other older uploadId again)
    have again : dataSection bucket key final call.operation =
        some (size, data) := by
      rw [← written]
      apply dataSection_congr bucket key follows.data
      intro uploadId completes
      rw [(follows.spared uploadId (untouched uploadId completes)).1]
      exact (ordered.targets uploadId (own uploadId completes).1).symm
    obtain ⟨next, registered⟩ := @indexSection_isSome bucket key
      { final with data } call.operation (makeMeta size call.now) (by
        intro uploadId completes
        dsimp only
        rw [(follows.spared uploadId (untouched uploadId completes)).2]
        exact opened call (by simp) uploadId completes)
    have answer := Call.run_of_sections bucket key again registered
    obtain ⟨sameData, head, spared, -⟩ :=
      registers_of_indexSection bucket key registered
    refine ⟨next, ?_, sameData, ?_, ?_⟩
    · rw [calls]
      exact serial_append_singleton bucket key follows.run answer
    · intro uploadId none
      rw [calls] at none
      have kept := spared uploadId (none call (by simp))
      have before := follows.spared uploadId fun other older =>
        none other (List.mem_append_left _ older)
      exact ⟨kept.1.trans before.1, kept.2.trans before.2⟩
    · intro metadata last
      simp only [List.map_append, List.map_cons, List.map_nil,
        List.getLast?_append, List.getLast?_singleton, Option.some_or,
        Option.some.injEq] at last
      rw [← last]
      exact head

/-- The index section of a call, in the order of the data sections. -/
theorem Ordered.index
    {start backend : CompositeBackend}
    {state : Writers}
    {position : Nat}
    {writer : Writer}
    (ordered : Ordered bucket key start state)
    (found : state.writers[position]? = some writer)
    (inOrder : InOrder state (.index position))
    (registered : indexSection bucket key state.backend writer.metadata
      writer.call.operation = some backend) :
    Ordered bucket key start
      ⟨backend,
        state.writers.set position { writer with registered := true }⟩ := by
  obtain ⟨data, head, spared, closed⟩ :=
    registers_of_indexSection bucket key registered
  have calls : Writers.calls
      ⟨backend, state.writers.set position { writer with registered := true }⟩ =
        state.calls := History.map_set_of_same found Writer.call rfl
  have registers : (state.writers.set position
        { writer with registered := true }).map Writer.metadata =
      state.writers.map Writer.metadata :=
    History.map_set_of_same found Writer.metadata rfl
  have keeps : ∀ uploadId,
      (backend.mpuTargets.lookup uploadId ≠ none →
        backend.mpuTargets.lookup uploadId =
          state.backend.mpuTargets.lookup uploadId) ∧
      (backend.index.mpu.lookup uploadId ≠ none →
        backend.index.mpu.lookup uploadId =
          state.backend.index.mpu.lookup uploadId) := by
    intro uploadId
    by_cases own : writer.call.operation.completes = some uploadId
    · obtain ⟨-, forgotten, removed⟩ := closed uploadId own
      exact ⟨fun known => absurd forgotten known,
        fun known => absurd removed known⟩
    · obtain ⟨sameTarget, sameRecord⟩ := spared uploadId own
      exact ⟨fun _ => sameTarget, fun _ => sameRecord⟩
  constructor
  · intro empty
    dsimp only at empty
    have none : state.writers = [] := by simpa using empty
    rw [none] at found
    cases found
  · intro call listed uploadId completes
    rw [calls] at listed
    dsimp only
    rw [data]
    exact ordered.taken call listed uploadId completes
  · intro uploadId known
    dsimp only at known ⊢
    have same := (keeps uploadId).1 known
    rw [same] at known ⊢
    exact ordered.targets uploadId known
  · intro uploadId known
    dsimp only at known
    rw [(keeps uploadId).2 known] at known
    exact ordered.records uploadId known
  · intro other listed before uploadId completes
    rcases List.mem_or_eq_of_mem_set listed with older | rfl
    · exact ordered.opened other older before uploadId completes
    · exact ordered.records uploadId (closed uploadId completes).1
  · intro finished metadata last
    rcases inOrder with final | ⟨later, member, pending⟩
    · dsimp only at last ⊢
      rw [registers, List.getLast?_eq_getElem?, List.length_map, ← final,
        Nat.add_sub_cancel, List.getElem?_map, found, Option.map_some] at last
      rw [head, Option.some.inj last]
    · -- the call that wrote later has not registered now either
      obtain ⟨other, place⟩ := List.mem_iff_getElem?.mp member
      rw [List.getElem?_drop] at place
      have returned := finished later (by
        dsimp only
        rw [← List.getElem?_set_ne (by omega : position ≠ position + 1 + other)]
          at place
        exact List.mem_of_getElem? place)
      rw [pending] at returned
      cases returned
  · intro opened
    rw [Opened, calls] at opened
    obtain ⟨final, follows⟩ := ordered.follows opened
    refine ⟨final, ?_, ?_, ?_, ?_⟩
    · rw [calls]
      exact follows.run
    · rw [follows.data]
      exact data.symm
    · rw [calls]
      exact follows.spared
    · intro metadata last
      apply follows.head
      rw [← registers]
      exact last

/-- A step in order keeps what holds. -/
theorem Ordered.step
    {start : CompositeBackend}
    {state next : Writers}
    {label : Section}
    (ordered : Ordered bucket key start state)
    (inOrder : InOrder state label)
    (stepped : step bucket key state label = some next) :
    Ordered bucket key start next := by
  cases label with
  | data call =>
      rw [ConcurrentWrites.step] at stepped
      obtain ⟨⟨size, data⟩, written, rfl⟩ := Option.map_eq_some_iff.mp stepped
      exact ordered.data written
  | index position =>
      rw [ConcurrentWrites.step] at stepped
      split at stepped
      · cases stepped
      · next writer found =>
          split at stepped
          · cases stepped
          · obtain ⟨backend, registered, rfl⟩ :=
              Option.map_eq_some_iff.mp stepped
            exact ordered.index found inOrder registered

/-- Nothing has happened at the start. -/
theorem Ordered.start (backend : CompositeBackend) :
    Ordered bucket key backend ⟨backend, []⟩ where
  began := fun _ => rfl
  taken := nofun
  targets := fun _ _ => rfl
  records := fun _ known => known
  opened := nofun
  latest := fun _ _ last => by simp at last
  follows := fun _ => ⟨backend, rfl, rfl, fun _ _ => ⟨rfl, rfl⟩, nofun⟩

end Object

/-- In every run in which the calls register in order, the object is left as by the
same calls one after the other. -/
theorem serialisable_of_inOrder
    (bucket key : String)
    {start : CompositeBackend}
    {labels : List Section}
    {state : Writers}
    (path : (machine bucket key).Path InOrder ⟨start, []⟩ labels state)
    (finished : state.Finished) :
    Serialisable bucket key start state := by
  have ordered : Ordered bucket key start state :=
    path.preserves
      (fun _ _ _ ordered inOrder stepped => ordered.step inOrder stepped)
      (Ordered.start start)
  have opened : Opened start state := by
    intro call listed uploadId completes
    obtain ⟨writer, member, rfl⟩ := List.mem_map.mp listed
    exact ordered.opened writer member (finished writer member) uploadId
      completes
  obtain ⟨final, follows⟩ := ordered.follows opened
  refine ⟨state.calls, final, List.Perm.refl _, follows.run, ?_, ?_⟩
  · rw [follows.data]
  · cases latest : (state.writers.map Writer.metadata).getLast? with
    | none =>
        have none : state.writers = [] := by simpa using latest
        have run := follows.run
        rw [Writers.calls, none] at run
        cases run
        rw [ordered.began none]
    | some metadata =>
        rw [follows.head metadata latest]
        exact (ordered.latest finished metadata latest).symm

/-- Two writes of different sizes. -/
def shortWrite : Call := ⟨.write [1], 0⟩

def longWrite : Call := ⟨.write [2, 2], 1⟩

/-- The second write overtakes the first in the index. -/
def overtaken : List Section :=
  [.data shortWrite, .data longWrite, .index 1, .index 0]

/-- What is seen of a run: whether each call has returned, the calls, and the
bytes and the metadata of the object. -/
def observe (state : Writers) :
    List Bool × List Call × Option Bytes × Result ObjectMetadata :=
  (state.writers.map Writer.registered, state.calls,
    state.backend.data.bodies.lookup (makeKey "bucket" "key"),
    state.backend.head "bucket" "key")

theorem finished_of_returned
    {state : Writers}
    (returned : state.writers.map Writer.registered = [true, true]) :
    state.Finished := by
  intro writer member
  have known := List.mem_map_of_mem (f := Writer.registered) member
  rw [returned] at known
  simpa using known

/-- Two calls have two orders. -/
theorem eq_or_eq_of_perm_pair
    {α : Type}
    {order : List α}
    {first second : α}
    (perm : order.Perm [first, second]) :
    order = [first, second] ∨ order = [second, first] := by
  obtain ⟨left, right, rfl⟩ := List.length_eq_two.mp perm.length_eq
  have member : left ∈ [first, second] := perm.mem_iff.mp List.mem_cons_self
  rcases List.mem_cons.mp member with rfl | later
  · left
    have rest := List.perm_singleton.mp (List.Perm.cons_inv perm)
    rw [rest]
  · obtain rfl := List.mem_singleton.mp later
    right
    have swapped := perm.trans (List.Perm.swap _ _ _)
    have rest := List.perm_singleton.mp (List.Perm.cons_inv swapped)
    rw [rest]

/-- Of two concurrent writes one leaves its bytes, and the other its
metadata. -/
theorem not_serialisable_overtaken :
    ¬ ∀ labels state,
      (machine "bucket" "key").Path Machine.always ⟨.init 8, []⟩ labels state →
        state.Finished → Serialisable "bucket" "key" (.init 8) state := by
  intro claimed
  have finished : ((machine "bucket" "key").run Machine.always
      ⟨.init 8, []⟩ overtaken).map observe =
        some ([true, true], [shortWrite, longWrite], some [2, 2],
          .ok (makeMeta 1 0)) := by decide
  obtain ⟨state, executed, observed⟩ := Option.map_eq_some_iff.mp finished
  simp only [observe, Prod.mk.injEq] at observed
  obtain ⟨returned, calls, body, head⟩ := observed
  obtain ⟨order, final, perm, run, sameBody, sameHead⟩ :=
    claimed overtaken state (Machine.path_of_run executed)
      (finished_of_returned returned)
  rw [calls] at perm
  rw [body] at sameBody
  rw [head] at sameHead
  -- the bytes of the long write never come with the size of the short one
  have mixed : (serial "bucket" "key" (.init 8) order).map (fun final =>
      (final.data.bodies.lookup (makeKey "bucket" "key"),
        final.head "bucket" "key")) =
      some (some [2, 2], .ok (makeMeta 1 0)) := by
    rw [run, Option.map_some, sameBody, sameHead]
  rcases eq_or_eq_of_perm_pair perm with rfl | rfl
  · revert mixed
    decide
  · revert mixed
    decide

/-- The theorem at two writes that register in order. -/
theorem serialisable_of_inOrder_two :
    ∃ state, (machine "bucket" "key").Path InOrder ⟨.init 8, []⟩
        [.data shortWrite, .data longWrite, .index 0, .index 1] state ∧
      Serialisable "bucket" "key" (.init 8) state := by
  have finished : ((machine "bucket" "key").run InOrder ⟨.init 8, []⟩
      [.data shortWrite, .data longWrite, .index 0, .index 1]).map observe =
        some ([true, true], [shortWrite, longWrite], some [2, 2],
          .ok (makeMeta 2 1)) := by decide
  obtain ⟨state, executed, observed⟩ := Option.map_eq_some_iff.mp finished
  simp only [observe, Prod.mk.injEq] at observed
  have path := Machine.path_of_run executed
  exact ⟨state, path, serialisable_of_inOrder "bucket" "key" path
    (finished_of_returned observed.1)⟩

end ConcurrentWrites
end Gateway
end TurboAccess
