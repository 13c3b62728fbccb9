import TurboAccess.Client.Gds.TransferPath
import TurboAccess.Gateway.Backend.Agreement
import TurboAccess.Gateway.Gds.Executor
import TurboAccess.Lib.History

/-!
# The version a read delivers

A read is served by its sub-requests, and the gateway serves each of them in two
sections: it looks the metadata up, and then reads the range and pushes it to
the client.  The client takes the bytes of all sub-requests, and the first entity
tag that is not empty.  A write of the object changes the data store in one
section and the index in a later one.

The read delivers one version of the object, with its tag, when no write comes
to the data store while the read is between its sections, and the first
sub-request looks up the metadata of the version that is stored.
-/

namespace TurboAccess
namespace Client
namespace Gds
namespace Versions

open Gateway (CompositeBackend ObjectMetadata makeKey makeMeta)

/-! ## Versions -/

/-- A version of an object: its bytes, and the metadata registered for them. -/
structure Version where
  bytes : Bytes
  metadata : ObjectMetadata
  deriving DecidableEq

/-- A range of a version; it ends with the object. -/
def Version.slice (version : Version) (offset size : Nat) : Bytes :=
  (version.bytes.drop offset).take (min (version.bytes.length - offset) size)

/-- A write that has executed its section in the data store, and whether it has
executed its section in the index. -/
structure Put where
  source : Bytes
  now : Nat
  registered : Bool
  deriving DecidableEq

/-- The version a write stores. -/
def Put.version (put : Put) : Version :=
  ⟨put.source, makeMeta put.source.length put.now⟩

/-! ## The machine -/

/-- How far a sub-request has got. -/
inductive Progress
  | waiting
  | headed (head : ObjectMetadata)
  | served (head : ObjectMetadata) (bytes : Bytes)
  | failed
  deriving DecidableEq

/-- The metadata a sub-request has looked up. -/
def Progress.head? : Progress → Option ObjectMetadata
  | .headed head => some head
  | .served head _ => some head
  | _ => none

/-- The backend, the writes in the order of their sections in the data store,
the write that registered last, counted from one, and the sub-requests. -/
structure State where
  backend : CompositeBackend
  puts : List Put
  indexed : Nat
  progress : Nat → Progress

namespace State

/-- The versions that have been written. -/
def written (state : State) : List Version := state.puts.map Put.version

/-- Change the progress of a sub-request. -/
def setProgress (state : State) (index : Nat) (value : Progress) : State :=
  { state with progress := Function.update state.progress index value }

end State

/-! ## What the client takes -/

/-- The state in which a read begins. -/
def State.beginning (start : CompositeBackend) : State :=
  ⟨start, [], 0, fun _ => .waiting⟩

/-- Every sub-request has been served. -/
def State.Succeeded (subs : List SubGet) (state : State) : Prop :=
  ∀ index, index < subs.length →
    ∃ head bytes, state.progress index = .served head bytes

/-- The tag in the answer to a sub-request. -/
def Progress.etag (progress : Progress) : String :=
  match progress.head? with
  | none => ""
  | some head => head.etag

/-- The first text that is not empty. -/
def firstNonEmpty : List String → String
  | [] => ""
  | text :: rest => if text = "" then firstNonEmpty rest else text

/-- The tag that the client takes from the answers. -/
def State.etag (subs : List SubGet) (state : State) : String :=
  firstNonEmpty ((List.range subs.length).map fun index =>
    (state.progress index).etag)

/-! ## Sections -/

/-- A section of a write or of a sub-request. -/
inductive Label
  | put (source : Bytes) (now : Nat)
  | register (position : Nat)
  | head (index : Nat)
  | read (index : Nat) (pushed : Bool)

section Read

variable (bucket key : String) (subs : List SubGet)

/-- The range of a sub-request as the gateway reads and pushes it.  Whatever can
go wrong on the way of bytes to the client is a flag. -/
def serve
    (backend : CompositeBackend)
    (head : ObjectMetadata)
    (sub : SubGet)
    (pushed : Bool) : Progress :=
  match backend.read bucket key sub.1.offset (requestedBytes sub) with
  | .error _ => .failed
  | .ok bytes => if bytes = [] ∨ pushed then .served head bytes else .failed

/-- Execute a section. -/
def step (state : State) : Label → Option State
  | .put source now =>
      match state.backend.data.writeRange bucket key 0 source
          (some source.length) with
      | (.error _, data) =>
          some { state with backend := { state.backend with data } }
      | (.ok _, data) =>
          some { state with
            backend := { state.backend with data }
            puts := state.puts ++ [⟨source, now, false⟩] }
  | .register position =>
      match state.puts[position]? with
      | none => none
      | some put =>
          if put.registered then none
          else
            some { state with
              backend := { state.backend with
                index := state.backend.index.putObjectIndex bucket key
                  put.version.metadata }
              puts := state.puts.set position { put with registered := true }
              indexed := position + 1 }
  | .head index =>
      match subs[index]?, state.progress index with
      | some _, .waiting =>
          match state.backend.head bucket key with
          | .error _ => some (state.setProgress index .failed)
          | .ok head => some (state.setProgress index (.headed head))
      | _, _ => none
  | .read index pushed =>
      match subs[index]?, state.progress index with
      | some sub, .headed head =>
          some (state.setProgress index
            (serve bucket key state.backend head sub pushed))
      | _, _ => none

/-- Any writes of one object, and the sub-requests of one read of it. -/
def machine : Machine State Label where
  initial state := ∃ start, state = .beginning start
  step := step bucket key subs

/-! ## The property and its condition -/

/-- The version at the start. -/
def startVersion (start : CompositeBackend) : Option Version :=
  match start.head bucket key with
  | .error _ => none
  | .ok metadata => some ⟨start.data.body (makeKey bucket key), metadata⟩

/-- The versions the object has had. -/
def versions (start : CompositeBackend) (state : State) : List Version :=
  (startVersion bucket key start).toList ++ state.written

/-- All bytes come from one version, and the tag is that of the version. -/
def OneVersion (start : CompositeBackend) (state : State) : Prop :=
  ∃ version ∈ versions bucket key start state,
    (∀ index sub, subs[index]? = some sub →
      ∃ head, state.progress index =
        .served head (version.slice sub.1.offset (requestedBytes sub))) ∧
    state.etag subs = version.metadata.etag

/-- A sub-request has failed, and with it the read. -/
def State.Failed (state : State) : Prop :=
  ∃ index, index < subs.length ∧ state.progress index = .failed

/-- No range has been read, and the first sub-request has not looked the
metadata up. -/
def State.Untouched (state : State) : Prop :=
  state.progress 0 = .waiting ∧
    ∀ index head bytes, state.progress index ≠ .served head bytes

/-- A write that fits comes to the data store before the read or after it, and
the first sub-request looks the metadata up when the write that registered last
is the one that was stored last.  Nothing is asked of a read that has failed. -/
def Undisturbed (state : State) (label : Label) : Prop :=
  state.Failed subs ∨
    match label with
    | .put source _ =>
        state.backend.data.Fits (makeKey bucket key) source.length →
          state.Untouched ∨ state.Succeeded subs
    | .head index => index = 0 → state.indexed = state.puts.length
    | _ => True

end Read

/-! ## Sections of a chunk -/

/-- A chunk that the gateway answers with success has been served. -/
theorem serve_of_getChunk
    {options : Gateway.Gds.GdsOptions}
    {backend : CompositeBackend}
    {session : Gateway.Session}
    {sub : SubGet}
    {answers : Gateway.Gds.CuObjAnswers}
    {chunk : Gateway.Gds.GetChunkOutcome}
    {call : Option Gateway.Gds.BackendCall}
    (head : ObjectMetadata)
    (positive : requestedBytes sub ≠ 0)
    (answer : Gateway.Gds.getChunk options backend session sub.1.offset
      (requestedBytes sub) answers = (.ok chunk, call)) :
    ∃ bytes,
      backend.read session.bucket session.objectKey sub.1.offset
          (requestedBytes sub) = .ok bytes ∧
        serve session.bucket session.objectKey backend head sub true =
          .served head bytes := by
  unfold serve
  cases read : backend.read session.bucket session.objectKey sub.1.offset
    (requestedBytes sub) with
  | ok bytes => exact ⟨bytes, rfl, by simp⟩
  | error error =>
      rw [Gateway.Gds.getChunk, if_neg positive, read] at answer
      dsimp only at answer
      split_ifs at answer <;> cases answer

/-- What the backend reads of a version. -/
theorem read_eq_ok
    {bucket key : String}
    {backend : CompositeBackend}
    {offset size : Nat}
    {bytes : Bytes}
    (read : backend.read bucket key offset size = .ok bytes) :
    ∃ body, backend.data.bodies.lookup (makeKey bucket key) = some body ∧
      bytes = (body.drop offset).take (min (body.length - offset) size) := by
  unfold CompositeBackend.read Gateway.MemoryDataStore.read at read
  split at read
  · cases read
  · next body found =>
      split at read
      · cases read
      · cases read
        exact ⟨body, found, rfl⟩

/-- A range that begins inside the object is served. -/
theorem serve_eq_served
    {bucket key : String}
    {backend : CompositeBackend}
    {body : Bytes}
    {sub : SubGet}
    (found : backend.data.bodies.lookup (makeKey bucket key) = some body)
    (inside : sub.1.offset ≤ body.length)
    (head : ObjectMetadata) :
    serve bucket key backend head sub true =
      .served head
        (Version.slice ⟨body, head⟩ sub.1.offset (requestedBytes sub)) := by
  unfold serve CompositeBackend.read Gateway.MemoryDataStore.read
  rw [found]
  dsimp only
  rw [if_neg (by omega)]
  dsimp only
  rw [if_pos (Or.inr rfl)]
  rfl

/-- Writing a whole object stores it, or is refused and changes the bytes of an
object at most by dropping an empty body. -/
theorem bodies_of_writeRange
    (store : Gateway.MemoryDataStore)
    (bucket key : String)
    (source : Bytes) :
    (∃ written,
      store.writeRange bucket key 0 source (some source.length) =
          (.ok true, written) ∧
        store.Fits (makeKey bucket key) source.length ∧
          written.bodies.lookup (makeKey bucket key) = some source) ∨
      ∃ error refused,
        store.writeRange bucket key 0 source (some source.length) =
            (.error error, refused) ∧
          ¬ store.Fits (makeKey bucket key) source.length ∧ ∀ body,
            refused.bodies.lookup (makeKey bucket key) = some body →
              store.bodies.lookup (makeKey bucket key) = some body := by
  have whole : source.length = max ((some source.length).getD
      (addWord 0 source.length)) (addWord 0 source.length) := by
    rw [Option.getD_some, addWord, Nat.zero_add]
    exact (max_eq_left (Nat.mod_le _ _)).symm
  rcases store.writeRange_cases bucket key 0 source (some source.length)
      whole with
    ⟨written, bytes, answer, fits, length, stored⟩ |
      ⟨refused, answer, unfit, stored⟩
  · left
    refine ⟨written, answer, fits, ?_⟩
    rw [stored, Finmap.lookup_insert,
      Bytes.overwrite_zero_of_length_le (by rw [length])]
  · right
    refine ⟨_, refused, answer, unfit, ?_⟩
    intro body found
    rw [stored] at found
    split at found
    · rw [Finmap.lookup_erase] at found
      cases found
    · exact found

/-! ## The invariant -/

section Invariant

variable (bucket key : String) (subs : List SubGet)

/-- The version stored last. -/
def current (start : CompositeBackend) (state : State) : Option Version :=
  match state.written.getLast? with
  | some version => some version
  | none => startVersion bucket key start

/-- What has been read is of one version; the first sub-request has looked its
metadata up, and all have when it has no tag.  Until the read ends it is the
version stored last. -/
structure Window
    (start : CompositeBackend)
    (state : State)
    (version : Version) : Prop where
  listed : version ∈ versions bucket key start state
  stored : ¬ state.Succeeded subs → current bucket key start state = some version
  slices : ∀ index sub head bytes, subs[index]? = some sub →
    state.progress index = .served head bytes →
      bytes = version.slice sub.1.offset (requestedBytes sub)
  first : ∀ head, (state.progress 0).head? = some head →
    head = version.metadata
  untagged : version.metadata.etag = "" →
    ∀ index head, (state.progress index).head? = some head →
      head = version.metadata

/-- What holds in every state of a run that meets the condition. -/
structure Consistent (start : CompositeBackend) (state : State) : Prop where
  bodies : ∀ body,
    state.backend.data.bodies.lookup (makeKey bucket key) = some body →
      match state.written.getLast? with
      | some version => body = version.bytes
      | none => body = start.data.body (makeKey bucket key)
  indexed_le : state.indexed ≤ state.puts.length
  index : state.indexed = state.puts.length →
    match state.written.getLast? with
    | some version => state.backend.head bucket key = .ok version.metadata
    | none => state.backend.head bucket key = start.head bucket key
  headed : state.puts = [] → ∀ index head,
    (state.progress index).head? = some head →
      start.head bucket key = .ok head
  window : state.Failed subs ∨ state.Untouched ∨
    ∃ version, Window bucket key subs start state version

variable {bucket key} {subs}

/-- A version that was written has a tag. -/
theorem etag_ne_empty
    {state : State}
    {version : Version}
    (listed : version ∈ state.written) :
    version.metadata.etag ≠ "" := by
  obtain ⟨put, -, rfl⟩ := List.mem_map.mp listed
  intro empty
  have texts := congrArg String.toList empty
  simp [Put.version, makeMeta] at texts

/-- The version stored last is one of the versions. -/
theorem mem_versions_of_current
    {start : CompositeBackend}
    {state : State}
    {version : Version}
    (stored : current bucket key start state = some version) :
    version ∈ versions bucket key start state := by
  unfold current at stored
  unfold versions
  split at stored
  · next last =>
      cases stored
      exact List.mem_append_right _ (List.mem_of_getLast? last)
  · exact List.mem_append_left _ (by rw [stored]; simp)

/-- A read begins consistent. -/
theorem Consistent.beginning (start : CompositeBackend) :
    Consistent bucket key subs start (State.beginning start) where
  bodies := by
    intro body found
    show body = start.data.body (makeKey bucket key)
    rw [Gateway.MemoryDataStore.body]
    exact (congrArg (Option.getD · []) found).symm
  indexed_le := Nat.le_refl 0
  index := fun _ => rfl
  headed := by
    intro _ index head looked
    cases looked
  window := .inr (.inl ⟨rfl, nofun⟩)

/-- Nothing of a read depends on the backend and on what has registered. -/
theorem window_congr
    {start : CompositeBackend}
    {state next : State}
    (window : state.Failed subs ∨ state.Untouched ∨
      ∃ version, Window bucket key subs start state version)
    (progress : next.progress = state.progress)
    (written : next.written = state.written) :
    next.Failed subs ∨ next.Untouched ∨
      ∃ version, Window bucket key subs start next version := by
  rcases window with failed | untouched | ⟨version, window⟩
  · left
    unfold State.Failed at failed ⊢
    rwa [progress]
  · right
    left
    unfold State.Untouched at untouched ⊢
    rwa [progress]
  · right
    right
    refine ⟨version, ?_, ?_, ?_, ?_, ?_⟩
    · have listed := window.listed
      unfold versions at listed ⊢
      rwa [written]
    · have stored := window.stored
      unfold current State.Succeeded at stored ⊢
      rwa [progress, written]
    · rw [progress]
      exact window.slices
    · rw [progress]
      exact window.first
    · rw [progress]
      exact window.untagged

/-- A write in the data store. -/
theorem Consistent.put
    {start : CompositeBackend}
    {state next : State}
    {source : Bytes}
    {now : Nat}
    (consistent : Consistent bucket key subs start state)
    (undisturbed : Undisturbed bucket key subs state (.put source now))
    (stepped : step bucket key subs state (.put source now) = some next) :
    Consistent bucket key subs start next := by
  rw [step] at stepped
  rcases bodies_of_writeRange state.backend.data bucket key source with
    ⟨data, answer, fits, stored⟩ | ⟨error, data, answer, -, kept⟩
  · rw [answer] at stepped
    cases stepped
    have written : State.written
        { state with
          backend := { state.backend with data }
          puts := state.puts ++ [⟨source, now, false⟩] } =
        state.written ++ [Put.version ⟨source, now, false⟩] := by
      simp [State.written]
    constructor
    · intro body found
      rw [written, List.getLast?_append, List.getLast?_singleton,
        Option.some_or]
      dsimp only at found ⊢
      rw [stored] at found
      exact (Option.some.inj found).symm
    · have le := consistent.indexed_le
      dsimp only
      rw [List.length_append, List.length_singleton]
      omega
    · intro equal
      have le := consistent.indexed_le
      dsimp only at equal
      rw [List.length_append, List.length_singleton] at equal
      omega
    · intro empty
      simp at empty
    · rcases undisturbed with failed | allowed
      · exact .inl failed
      · rcases allowed fits with untouched | succeeded
        · exact .inr (.inl untouched)
        · rcases consistent.window with failed | untouched | ⟨version, window⟩
          · exact .inl failed
          · exact .inr (.inl untouched)
          · right
            right
            refine ⟨version, ?_, fun unfinished => absurd succeeded unfinished,
              window.slices, window.first, window.untagged⟩
            unfold versions
            rw [written, ← List.append_assoc]
            exact List.mem_append_left _ window.listed
  · rw [answer] at stepped
    cases stepped
    exact
      { bodies := fun body found => consistent.bodies body (kept body found)
        indexed_le := consistent.indexed_le
        index := consistent.index
        headed := consistent.headed
        window := window_congr consistent.window rfl rfl }

/-- A write in the index. -/
theorem Consistent.register
    {start : CompositeBackend}
    {state next : State}
    {position : Nat}
    (consistent : Consistent bucket key subs start state)
    (stepped : step bucket key subs state (.register position) = some next) :
    Consistent bucket key subs start next := by
  rw [step] at stepped
  split at stepped
  · cases stepped
  · next put found =>
      split at stepped
      · cases stepped
      · cases stepped
        have inside : position < state.puts.length :=
          (List.getElem?_eq_some_iff.mp found).1
        have written : (state.puts.set position
              { put with registered := true }).map Put.version =
            state.written := History.map_set_of_same found Put.version rfl
        constructor
        · intro body known
          have same := consistent.bodies body known
          unfold State.written
          rwa [written]
        · dsimp only
          rw [List.length_set]
          omega
        · intro last
          dsimp only at last
          rw [List.length_set] at last
          have newest : state.written.getLast? = some put.version := by
            unfold State.written
            rw [List.getLast?_eq_getElem?, List.length_map, ← last,
              Nat.add_sub_cancel, List.getElem?_map, found, Option.map_some]
          rw [State.written, written, newest]
          simp [CompositeBackend.head, Gateway.MemoryIndexStore.head,
            Gateway.MemoryIndexStore.putObjectIndex]
        · intro empty
          have length := congrArg List.length empty
          dsimp only at length
          rw [List.length_set, List.length_nil] at length
          omega
        · exact window_congr consistent.window rfl written

/-- A sub-request that fails fails the read. -/
theorem Consistent.fail
    {start : CompositeBackend}
    {state : State}
    {index : Nat}
    (consistent : Consistent bucket key subs start state)
    (inside : index < subs.length) :
    Consistent bucket key subs start (state.setProgress index .failed) where
  bodies := consistent.bodies
  indexed_le := consistent.indexed_le
  index := consistent.index
  headed := by
    intro empty other head looked
    by_cases own : other = index
    · subst own
      simp [State.setProgress, Progress.head?] at looked
    · rw [State.setProgress] at looked
      dsimp only at looked
      rw [Function.update_of_ne own] at looked
      exact consistent.headed empty other head looked
  window := .inl ⟨index, inside, by simp [State.setProgress]⟩

/-- A failed sub-request stays failed. -/
theorem Failed.setProgress
    {state : State}
    {index : Nat}
    {value : Progress}
    (failed : state.Failed subs)
    (going : state.progress index ≠ .failed) :
    (state.setProgress index value).Failed subs := by
  obtain ⟨other, inside, ended⟩ := failed
  have distinct : other ≠ index := by
    rintro rfl
    exact going ended
  exact ⟨other, inside, by simp [State.setProgress, distinct, ended]⟩

/-- The metadata that are looked up when the write that registered last is the
one stored last. -/
theorem Consistent.current_of_head
    {start : CompositeBackend}
    {state : State}
    {head : ObjectMetadata}
    (consistent : Consistent bucket key subs start state)
    (settled : state.indexed = state.puts.length)
    (looked : state.backend.head bucket key = .ok head) :
    ∃ version, current bucket key start state = some version ∧
      head = version.metadata := by
  have index := consistent.index settled
  unfold current
  split at index
  · next version last =>
      rw [looked] at index
      exact ⟨version, rfl, Except.ok.inj index⟩
  · rw [startVersion, ← index, looked]
    exact ⟨_, rfl, rfl⟩

/-- Something is stored when a sub-request has looked metadata up. -/
theorem Consistent.current_of_headed
    {start : CompositeBackend}
    {state : State}
    {index : Nat}
    {head : ObjectMetadata}
    (consistent : Consistent bucket key subs start state)
    (looked : (state.progress index).head? = some head) :
    ∃ version, current bucket key start state = some version := by
  unfold current
  split
  · exact ⟨_, rfl⟩
  · next none =>
      have empty : state.puts = [] := by simpa [State.written] using none
      rw [startVersion, consistent.headed empty index head looked]
      exact ⟨_, rfl⟩

/-- The bytes of the store are those of the version stored last. -/
theorem Consistent.bytes_of_current
    {start : CompositeBackend}
    {state : State}
    {version : Version}
    {body : Bytes}
    (consistent : Consistent bucket key subs start state)
    (stored : current bucket key start state = some version)
    (found : state.backend.data.bodies.lookup (makeKey bucket key) =
      some body) :
    body = version.bytes := by
  have bytes := consistent.bodies body found
  unfold current at stored
  split at stored
  · next last =>
      cases stored
      rwa [last] at bytes
  · next none =>
      rw [none] at bytes
      unfold startVersion at stored
      split at stored <;> cases stored
      exact bytes

/-- When the version stored last has no tag, nothing was written, and all
metadata that were looked up are its own. -/
theorem heads_of_untagged
    {start : CompositeBackend}
    {state : State}
    {version : Version}
    (headed : state.puts = [] → ∀ index head,
      (state.progress index).head? = some head →
        start.head bucket key = .ok head)
    (stored : current bucket key start state = some version)
    (untagged : version.metadata.etag = "")
    (index : Nat)
    (head : ObjectMetadata)
    (looked : (state.progress index).head? = some head) :
    head = version.metadata := by
  unfold current at stored
  split at stored
  · next last =>
      cases stored
      exact absurd untagged (etag_ne_empty (List.mem_of_getLast? last))
  · next none =>
      have empty : state.puts = [] := by simpa [State.written] using none
      have known := headed empty index head looked
      rw [startVersion, known] at stored
      cases stored
      rfl

/-- A sub-request that goes on. -/
theorem Consistent.setProgress
    {start : CompositeBackend}
    {state : State}
    {index : Nat}
    {value : Progress}
    (consistent : Consistent bucket key subs start state)
    (headed : state.puts = [] → ∀ head, value.head? = some head →
      start.head bucket key = .ok head)
    (window : (∀ other head, ((state.setProgress index value).progress
          other).head? = some head → state.puts = [] →
            start.head bucket key = .ok head) →
      (state.setProgress index value).Failed subs ∨
        (state.setProgress index value).Untouched ∨
          ∃ version, Window bucket key subs start
            (state.setProgress index value) version) :
    Consistent bucket key subs start (state.setProgress index value) := by
  have known : ∀ other head,
      ((state.setProgress index value).progress other).head? = some head →
        state.puts = [] → start.head bucket key = .ok head := by
    intro other head looked empty
    by_cases own : other = index
    · subst own
      simp only [State.setProgress, Function.update_self] at looked
      exact headed empty head looked
    · simp only [State.setProgress, Function.update_of_ne own] at looked
      exact consistent.headed empty other head looked
  exact
    { bodies := consistent.bodies
      indexed_le := consistent.indexed_le
      index := consistent.index
      headed := fun empty other head looked => known other head looked empty
      window := window known }

/-- A sub-request that looks the metadata up has not been served. -/
theorem served_of_headed
    {state : State}
    {index other : Nat}
    {head old : ObjectMetadata}
    {bytes : Bytes}
    (served : (state.setProgress index (.headed head)).progress other =
      .served old bytes) :
    state.progress other = .served old bytes := by
  by_cases own : other = index
  · subst own
    simp [State.setProgress] at served
  · simpa [State.setProgress, own] using served

/-- What has been read is still of the version stored last when a sub-request has
looked the metadata up, and the first one has looked up those of this version. -/
theorem Consistent.window_of_head
    {start : CompositeBackend}
    {state : State}
    {version : Version}
    {index : Nat}
    {head : ObjectMetadata}
    (consistent : Consistent bucket key subs start state)
    (settled : index = 0 → state.indexed = state.puts.length)
    (looked : state.backend.head bucket key = .ok head)
    (known : ∀ other old,
      ((state.setProgress index (.headed head)).progress other).head? =
          some old →
        state.puts = [] → start.head bucket key = .ok old)
    (stored : current bucket key start state = some version)
    (slices : ∀ other sub old bytes, subs[other]? = some sub →
      state.progress other = .served old bytes →
        bytes = version.slice sub.1.offset (requestedBytes sub))
    (first : index ≠ 0 → ∀ old, (state.progress 0).head? = some old →
      old = version.metadata) :
    Window bucket key subs start (state.setProgress index (.headed head))
      version := by
  refine ⟨mem_versions_of_current stored, fun _ => stored, ?_, ?_, ?_⟩
  · intro other sub old bytes found served
    exact slices other sub old bytes found (served_of_headed served)
  · intro old found
    by_cases own : index = 0
    · subst own
      obtain ⟨same, again, named⟩ :=
        consistent.current_of_head (settled rfl) looked
      cases stored.symm.trans again
      simp only [State.setProgress, Function.update_self, Progress.head?,
        Option.some.injEq] at found
      rw [← found, named]
    · simp only [State.setProgress,
        Function.update_of_ne (Ne.symm own)] at found
      exact first own old found
  · intro untagged other old found
    exact heads_of_untagged
      (fun empty other head found => known other head found empty)
      (show current bucket key start (state.setProgress index _) = _
        from stored) untagged other old found

/-- A sub-request looks the metadata up. -/
theorem Consistent.head
    {start : CompositeBackend}
    {state : State}
    {index : Nat}
    {head : ObjectMetadata}
    (consistent : Consistent bucket key subs start state)
    (undisturbed : Undisturbed bucket key subs state (.head index))
    (inside : index < subs.length)
    (waiting : state.progress index = .waiting)
    (looked : state.backend.head bucket key = .ok head) :
    Consistent bucket key subs start
      (state.setProgress index (.headed head)) := by
  apply consistent.setProgress
  · intro empty found same
    obtain rfl := Option.some.inj same
    have le := consistent.indexed_le
    have settled : state.indexed = state.puts.length := by
      rw [empty] at le ⊢
      exact Nat.le_zero.mp le
    have unchanged := consistent.index settled
    rw [State.written, empty] at unchanged
    exact unchanged.symm.trans looked
  · intro known
    have goes : state.progress index ≠ .failed := by
      rw [waiting]
      exact nofun
    rcases undisturbed with failed | settled
    · exact .inl (Failed.setProgress failed goes)
    rcases consistent.window with failed | ⟨idle, unread⟩ | ⟨version, window⟩
    · exact .inl (Failed.setProgress failed goes)
    · right
      by_cases own : index = 0
      · subst own
        obtain ⟨version, stored, -⟩ :=
          consistent.current_of_head (settled rfl) looked
        right
        refine ⟨version, consistent.window_of_head settled looked known stored
          ?_ fun other => absurd rfl other⟩
        intro other sub old bytes _ served
        exact absurd served (unread other old bytes)
      · left
        constructor
        · simpa [State.setProgress, Ne.symm own] using idle
        · intro other old bytes served
          exact unread other old bytes (served_of_headed served)
    · right
      right
      have unfinished : ¬ state.Succeeded subs := by
        intro all
        obtain ⟨old, bytes, served⟩ := all index inside
        rw [waiting] at served
        cases served
      exact ⟨version, consistent.window_of_head settled looked known
        (window.stored unfinished) window.slices fun _ => window.first⟩

/-- A sub-request reads its range. -/
theorem Consistent.serve
    {start : CompositeBackend}
    {state : State}
    {index : Nat}
    {sub : SubGet}
    {head : ObjectMetadata}
    {bytes : Bytes}
    (consistent : Consistent bucket key subs start state)
    (found : subs[index]? = some sub)
    (looked : state.progress index = .headed head)
    (read : state.backend.read bucket key sub.1.offset (requestedBytes sub) =
      .ok bytes) :
    Consistent bucket key subs start
      (state.setProgress index (.served head bytes)) := by
  have inside : index < subs.length := (List.getElem?_eq_some_iff.mp found).1
  have own : (state.progress index).head? = some head := by
    rw [looked]
    rfl
  have same : ∀ other,
      ((state.setProgress index (.served head bytes)).progress other).head? =
        (state.progress other).head? := by
    intro other
    by_cases equal : other = index
    · subst equal
      rw [own]
      simp [State.setProgress, Progress.head?]
    · simp [State.setProgress, equal]
  apply consistent.setProgress
  · intro empty known equal
    obtain rfl := Option.some.inj equal
    exact consistent.headed empty index head own
  · intro known
    -- what follows when the version stored last is the one of the window
    have opened : ∀ version, current bucket key start state = some version →
        (∀ other sub old bytes, subs[other]? = some sub →
          state.progress other = .served old bytes →
            bytes = version.slice sub.1.offset (requestedBytes sub)) →
        (∀ old, (state.progress 0).head? = some old →
          old = version.metadata) →
        ∃ version, Window bucket key subs start
          (state.setProgress index (.served head bytes)) version := by
      intro version stored slices first
      refine ⟨version, mem_versions_of_current stored, fun _ => stored, ?_, ?_,
        ?_⟩
      · intro other otherSub old piece otherFound served
        by_cases equal : other = index
        · subst equal
          cases found.symm.trans otherFound
          simp only [State.setProgress, Function.update_self,
            Progress.served.injEq] at served
          obtain ⟨body, present, slice⟩ := read_eq_ok read
          rw [← served.2, slice, consistent.bytes_of_current stored present]
          rfl
        · simp only [State.setProgress, Function.update_of_ne equal] at served
          exact slices other otherSub old piece otherFound served
      · intro old known
        rw [same] at known
        exact first old known
      · intro untagged other old known
        rw [same] at known
        exact heads_of_untagged consistent.headed stored untagged other old
          known
    rcases consistent.window with failed | ⟨idle, unread⟩ | ⟨version, window⟩
    · exact .inl (Failed.setProgress failed (by rw [looked]; exact nofun))
    · right
      right
      obtain ⟨version, stored⟩ := consistent.current_of_headed own
      refine opened version stored ?_ ?_
      · intro other sub old piece _ served
        exact absurd served (unread other old piece)
      · intro old known
        rw [idle] at known
        cases known
    · right
      right
      have unfinished : ¬ state.Succeeded subs := by
        intro all
        obtain ⟨old, piece, served⟩ := all index inside
        rw [looked] at served
        cases served
      exact opened version (window.stored unfinished) window.slices
        window.first

/-- A step that meets the condition keeps a run consistent. -/
theorem Consistent.step
    {start : CompositeBackend}
    {state next : State}
    {label : Label}
    (consistent : Consistent bucket key subs start state)
    (undisturbed : Undisturbed bucket key subs state label)
    (stepped : step bucket key subs state label = some next) :
    Consistent bucket key subs start next := by
  cases label with
  | put source now => exact consistent.put undisturbed stepped
  | register position => exact consistent.register stepped
  | head index =>
      rw [Versions.step] at stepped
      split at stepped
      · next found waiting =>
          have inside := (List.getElem?_eq_some_iff.mp found).1
          split at stepped
          · cases stepped
            exact consistent.fail inside
          · next looked =>
              cases stepped
              exact consistent.head undisturbed inside waiting looked
      · cases stepped
  | read index pushed =>
      rw [Versions.step] at stepped
      split at stepped
      · next sub head found looked =>
          have inside := (List.getElem?_eq_some_iff.mp found).1
          cases stepped
          rw [Versions.serve]
          split
          · exact consistent.fail inside
          · next read =>
              split
              · exact consistent.serve found looked read
              · exact consistent.fail inside
      · cases stepped

end Invariant

/-! ## The sub-requests of a read -/

/-- Ranges that are all left out are empty. -/
theorem rangeLength_of_rangesFrom_nil
    {total count cursor : Nat}
    {indices : List Nat}
    (none : rangesFrom total count cursor indices = [])
    {index : Nat}
    (member : index ∈ indices) :
    rangeLength total count index = 0 := by
  induction indices with
  | nil => cases member
  | cons first rest inductionHypothesis =>
      rw [rangesFrom] at none
      split at none
      · next empty =>
          rcases List.mem_cons.mp member with rfl | later
          · exact empty
          · exact inductionHypothesis none later
      · cases none

/-- A read has at least one sub-request. -/
theorem getObject_ne_nil
    {available : Bool}
    {options : GdsClientOptions}
    {executor : Bool}
    {request : GetObjectRequest}
    {buffer : BufferView}
    {subs : List SubGet}
    (split : getObject available options executor request buffer = .ok subs) :
    subs ≠ [] := by
  unfold getObject at split
  split at split
  · cases split
  · split at split
    · cases split
      unfold getObjectParallel
      dsimp only
      split
      · exact List.cons_ne_nil _ _
      · next several =>
          intro empty
          generalize request.length.getD 0 = total at several empty
          generalize countEq : min options.parallelGetChunks total = count
            at several empty
          have none := List.map_eq_nil_iff.mp empty
          have last := rangeLength_of_rangesFrom_nil none
            (List.mem_range.mpr (by omega : count - 1 < count))
          unfold rangeLength at last
          rw [if_pos (by omega)] at last
          have base : baseAligned total count = 0 := by omega
          rw [base] at last
          omega
    · cases split
      exact List.cons_ne_nil _ _

/-- The first text that is not empty is the first one, when it is not. -/
theorem firstNonEmpty_range
    {count : Nat}
    {text : Nat → String}
    (positive : 0 < count)
    (named : text 0 ≠ "" ∨ ∀ index, index < count → text index = "") :
    firstNonEmpty ((List.range count).map text) = text 0 := by
  rcases named with first | blank
  · obtain ⟨rest, rfl⟩ := Nat.exists_eq_succ_of_ne_zero positive.ne'
    rw [List.range_succ_eq_map, List.map_cons, firstNonEmpty, if_neg first]
  · have all : ∀ texts : List String, (∀ text ∈ texts, text = "") →
        firstNonEmpty texts = "" := by
      intro texts
      induction texts with
      | nil => exact fun _ => rfl
      | cons first rest inductionHypothesis =>
          intro blank
          rw [firstNonEmpty, if_pos (blank first List.mem_cons_self)]
          exact inductionHypothesis fun text member =>
            blank text (List.mem_cons_of_mem _ member)
    rw [blank 0 positive]
    apply all
    intro text member
    obtain ⟨index, below, rfl⟩ := List.mem_map.mp member
    exact blank index (List.mem_range.mp below)

/-- In every run that meets the condition, a read that succeeds delivers one
version of the object, with its tag. -/
theorem oneVersion_of_undisturbed
    {available : Bool}
    {options : GdsClientOptions}
    {executor : Bool}
    {request : GetObjectRequest}
    {buffer : BufferView}
    {subs : List SubGet}
    (split : getObject available options executor request buffer = .ok subs)
    {start : CompositeBackend}
    {labels : List Label}
    {state : State}
    (path : (machine request.bucket request.key subs).Path
      (Undisturbed request.bucket request.key subs) (State.beginning start)
      labels state)
    (succeeded : state.Succeeded subs) :
    OneVersion request.bucket request.key subs start state := by
  have consistent : Consistent request.bucket request.key subs start state :=
    path.preserves
      (fun _ _ _ consistent undisturbed stepped =>
        consistent.step undisturbed stepped)
      (Consistent.beginning start)
  have positive : 0 < subs.length :=
    List.length_pos_iff.mpr (getObject_ne_nil split)
  obtain ⟨head, bytes, first⟩ := succeeded 0 positive
  rcases consistent.window with ⟨index, inside, failed⟩ | ⟨idle, -⟩ |
      ⟨version, window⟩
  · obtain ⟨_, _, served⟩ := succeeded index inside
    rw [failed] at served
    cases served
  · rw [first] at idle
    cases idle
  · refine ⟨version, window.listed, ?_, ?_⟩
    · intro index sub found
      obtain ⟨own, piece, served⟩ :=
        succeeded index (List.getElem?_eq_some_iff.mp found).1
      rw [window.slices index sub own piece found served] at served
      exact ⟨own, served⟩
    · have tag : (state.progress 0).etag = version.metadata.etag := by
        rw [← window.first head (by rw [first]; rfl), first]
        rfl
      rw [State.etag, ← tag]
      apply firstNonEmpty_range positive
      by_cases untagged : version.metadata.etag = ""
      · right
        intro index inside
        obtain ⟨own, piece, served⟩ := succeeded index inside
        rw [served]
        show own.etag = ""
        rw [window.untagged untagged index own (by rw [served]; rfl), untagged]
      · left
        rw [tag]
        exact untagged

/-! ## A torn read -/

section Torn

variable {bucket key : String} {subs : List SubGet}

/-- A write between the reads of two sub-requests tears the read. -/
theorem torn_of_put
    {start : CompositeBackend}
    {metadata : ObjectMetadata}
    {first second : SubGet}
    {old new : Bytes}
    (stored : start.data.bodies.lookup (makeKey bucket key) = some old)
    (registered : start.head bucket key = .ok metadata)
    (length : new.length = old.length)
    (inside : first.1.offset ≤ old.length ∧ second.1.offset ≤ old.length)
    (now : Nat) :
    ∃ labels state,
      (machine bucket key [first, second]).Path Machine.always
          (State.beginning start) labels state ∧
        state.Succeeded [first, second] ∧
        state.written = [⟨new, makeMeta new.length now⟩] ∧
        state.progress 0 = .served metadata
          (Version.slice ⟨old, metadata⟩ first.1.offset
            (requestedBytes first)) ∧
        state.progress 1 = .served metadata
          (Version.slice ⟨new, metadata⟩ second.1.offset
            (requestedBytes second)) := by
  have fits : start.data.Fits (makeKey bucket key) new.length := by
    left
    rw [Gateway.MemoryDataStore.body, stored, Option.getD_some, length]
  rcases bodies_of_writeRange start.data bucket key new with
    ⟨data, answer, -, replaced⟩ | ⟨error, data, answer, unfit, -⟩
  · have firstServed := serve_eq_served stored inside.1 metadata
    have secondServed := @serve_eq_served bucket key { start with data } new
      second replaced (by rw [length]; exact inside.2) metadata
    let headed := (State.beginning start).setProgress 0 (.headed metadata)
    let read := headed.setProgress 0
      (serve bucket key start metadata first true)
    let put : State :=
      { read with backend := { start with data }, puts := [⟨new, now, false⟩] }
    let again := put.setProgress 1 (.headed metadata)
    let finish := again.setProgress 1
      (serve bucket key { start with data } metadata second true)
    have headStep : step bucket key [first, second] (State.beginning start)
        (.head 0) = some headed := by
      simp only [step, State.beginning, List.getElem?_cons_zero, registered]
      rfl
    have readStep : step bucket key [first, second] headed (.read 0 true) =
        some read := rfl
    have putStep : step bucket key [first, second] read (.put new now) =
        some put := by
      have same : read.backend.data.writeRange bucket key 0 new
          (some new.length) = (.ok true, data) := answer
      simp only [step, same]
      rfl
    have againStep : step bucket key [first, second] put (.head 1) =
        some again := by
      have known : put.backend.head bucket key = .ok metadata := registered
      have waiting : put.progress 1 = .waiting := rfl
      simp only [step, List.getElem?_cons_succ, List.getElem?_cons_zero,
        waiting, known]
      rfl
    have finishStep : step bucket key [first, second] again (.read 1 true) =
        some finish := rfl
    refine ⟨[.head 0, .read 0 true, .put new now, .head 1, .read 1 true],
      finish, ?_, ?_, rfl, firstServed, secondServed⟩
    · exact .cons trivial headStep (.cons trivial readStep
        (.cons trivial putStep (.cons trivial againStep
          (.cons trivial finishStep .nil))))
    · intro index below
      rcases index with _ | _ | index
      · exact ⟨_, _, firstServed⟩
      · exact ⟨_, _, secondServed⟩
      · exact absurd below (by simp)
  · exact absurd fits unfit

end Torn

/-- An object of two pages, and another one. -/
def oldBytes : Bytes := List.replicate 8192 1

def newBytes : Bytes := List.replicate 8192 2

theorem length_oldBytes : oldBytes.length = 8192 := List.length_replicate

theorem length_newBytes : newBytes.length = 8192 := List.length_replicate

/-- A backend that has stored the object. -/
def twoPages : CompositeBackend :=
  ((CompositeBackend.init 8192).write "bucket" "key" oldBytes 0).2

/-- A read of the object in two halves. -/
def readTwoPages : GetObjectRequest := ⟨"bucket", "key", 0, some 8192, 30000⟩

def splitInTwo : GdsClientOptions where
  parallelGetThreshold := 8192
  parallelGetChunks := 2

def firstHalf : SubGet :=
  subGet readTwoPages ⟨4096, 8192, .cudaDevice⟩ (0, 4096)

def lastHalf : SubGet :=
  subGet readTwoPages ⟨4096, 8192, .cudaDevice⟩ (4096, 4096)

theorem twoPages_stored :
    twoPages.data.bodies.lookup (makeKey "bucket" "key") = some oldBytes ∧
      twoPages.head "bucket" "key" = .ok (makeMeta 8192 0) := by
  unfold twoPages CompositeBackend.write CompositeBackend.writeRange
  rcases bodies_of_writeRange (CompositeBackend.init 8192).data "bucket" "key"
      oldBytes with
    ⟨data, answer, -, stored⟩ | ⟨error, data, -, unfit, -⟩
  · rw [answer]
    refine ⟨stored, ?_⟩
    simp [CompositeBackend.head, Gateway.MemoryIndexStore.head,
      Gateway.MemoryIndexStore.putObjectIndex, CompositeBackend.writtenSize,
      length_oldBytes]
  · rw [length_oldBytes] at unfit
    exact absurd (by decide) unfit

/-- No range of the one object is a range of the other. -/
theorem slice_ne
    {offset size : Nat}
    (inside : offset < 8192)
    (positive : 0 < size)
    (left right : ObjectMetadata) :
    Version.slice ⟨oldBytes, left⟩ offset size ≠
      Version.slice ⟨newBytes, right⟩ offset size := by
  unfold Version.slice
  dsimp only
  rw [length_oldBytes, length_newBytes, oldBytes, newBytes,
    List.drop_replicate, List.take_replicate, List.drop_replicate,
    List.take_replicate]
  intro equal
  obtain ⟨-, empty | same⟩ := List.replicate_inj.mp equal
  · omega
  · exact absurd same (by decide)

/-- A parallel read delivers the first half of one version and the second half
of another. -/
theorem not_oneVersion_torn :
    ¬ ∀ subs,
      getObject true splitInTwo true readTwoPages ⟨4096, 8192, .cudaDevice⟩ =
          .ok subs →
        ∀ labels state,
          (machine "bucket" "key" subs).Path Machine.always
              (State.beginning twoPages) labels state →
            state.Succeeded subs →
              OneVersion "bucket" "key" subs twoPages state := by
  intro claimed
  obtain ⟨stored, registered⟩ := twoPages_stored
  have halves : getObject true splitInTwo true readTwoPages
      ⟨4096, 8192, .cudaDevice⟩ = .ok [firstHalf, lastHalf] := by decide
  obtain ⟨labels, state, path, succeeded, written, old, new⟩ :=
    @torn_of_put "bucket" "key" twoPages _ firstHalf lastHalf _ _ stored
      registered (length_newBytes.trans length_oldBytes.symm)
      (by rw [length_oldBytes]; decide) 1
  obtain ⟨version, listed, slices, -⟩ :=
    claimed _ halves labels state path succeeded
  obtain ⟨_, first⟩ := slices 0 _ rfl
  obtain ⟨_, second⟩ := slices 1 _ rfl
  rw [old, Progress.served.injEq] at first
  rw [new, Progress.served.injEq] at second
  unfold versions at listed
  rcases List.mem_append.mp listed with atStart | later
  · -- the bytes of the second half are not those of the old object
    have bytes : version.bytes = oldBytes := by
      rw [startVersion, registered, Option.mem_toList,
        Option.some.injEq] at atStart
      rw [← atStart, Gateway.MemoryDataStore.body, stored, Option.getD_some]
    obtain ⟨versionBytes, metadata⟩ := version
    dsimp only at bytes
    subst bytes
    exact slice_ne (by decide) (by decide) _ _ second.2.symm
  · rw [written] at later
    obtain rfl := List.mem_singleton.mp later
    exact slice_ne (by decide) (by decide) _ _ first.2

/-- A read of one byte. -/
def readOneByte : SubGet :=
  (⟨"bucket", "key", 0, none, 30000⟩, ⟨4096, 1, .cudaDevice⟩)

/-- The theorem at a read of one byte after a write has registered. -/
theorem oneVersion_of_undisturbed_one_byte :
    ∃ labels state,
      (machine "bucket" "key" [readOneByte]).Path
          (Undisturbed "bucket" "key" [readOneByte])
          (State.beginning (.init 8)) labels state ∧
        state.progress 0 = .served (makeMeta 1 1) [7] ∧
          OneVersion "bucket" "key" [readOneByte] (.init 8) state := by
  obtain ⟨labels, state, path, served⟩ : ∃ labels state,
      (machine "bucket" "key" [readOneByte]).Path
          (Undisturbed "bucket" "key" [readOneByte])
          (State.beginning (.init 8)) labels state ∧
        state.progress 0 = .served (makeMeta 1 1) [7] :=
    ⟨[.put [7] 1, .register 0, .head 0, .read 0 true], _,
      .cons (.inr fun _ => .inl ⟨rfl, nofun⟩) rfl
        (.cons (.inr trivial) rfl
          (.cons (.inr fun _ => rfl) rfl
            (.cons (.inr trivial) rfl .nil))), rfl⟩
  refine ⟨labels, state, path, served, ?_⟩
  apply @oneVersion_of_undisturbed true {} false readOneByte.1 readOneByte.2
    [readOneByte] rfl _ labels state path
  intro index below
  obtain rfl : index = 0 := by simpa using below
  exact ⟨_, _, served⟩

end Versions
end Gds
end Client
end TurboAccess
