import TurboAccess.Client.Gds.TransferPath
import TurboAccess.Lib.History
import TurboAccess.Lib.Machine

/-!
# Registered device buffers

The process holds one descriptor for every pointer that was registered, by the
application or by a transfer that found its pointer without one.  The table is
keyed by the pointer alone: two entries can overlap, and removing one leaves the
other.

A call of the machine is an operation of the application, or a sub-request of a
read that comes to the registry; a sub-request of a split read can run after the
read has returned.  The calls of the object library succeed, a session may or
may not be opened.
-/

namespace TurboAccess
namespace Client
namespace Gds

/-- Sizes of the registered regions by their pointers. -/
abbrev Descriptors := Table Nat Nat

def makeTransportFailure (message : String) (retryable : Bool) : Error where
  code := .transportError
  message := message
  retryable := retryable
  failedPath := DataFlow.toText .gpuDirect
  requestId := ""

/-- Register a pointer unless it is registered, whatever its size was. -/
def registerUnderLock
    (registered : Descriptors)
    (ptr size : Nat)
    (gotDescriptor : Bool) : Result Unit × Descriptors :=
  match registered.lookup ptr with
  | some _ => (.ok (), registered)
  | none =>
      if gotDescriptor = false then
        (.error (makeTransportFailure "cuMemObjGetDescriptor 注册失败" true),
          registered)
      else (.ok (), registered.emplace ptr size)

def registerBuffer
    (registered : Descriptors)
    (ptr size : Nat)
    (gotDescriptor : Bool) : Result Unit × Descriptors :=
  if ptr = 0 ∨ size = 0 then
    (.error (makeInvalidArgument
      "RegisterDeviceBuffer requires non-null ptr and positive size"),
      registered)
  else registerUnderLock registered ptr size gotDescriptor

/-- Give the descriptor of a pointer back; a pointer without one is fine. -/
def unregisterBuffer
    (registered : Descriptors)
    (ptr : Nat)
    (putDescriptor : Bool) : Result Unit × Descriptors :=
  if ptr = 0 then
    (.error (makeInvalidArgument
      "UnregisterDeviceBuffer requires non-null ptr"), registered)
  else
    match registered.lookup ptr with
    | none => (.ok (), registered)
    | some _ =>
        if putDescriptor = false then
          (.error (makeTransportFailure "cuMemObjPutDescriptor 释放失败" true),
            registered.erase ptr)
        else (.ok (), registered.erase ptr)

/-- A token for a transfer from or to a pointer, which is registered first if it
is not. -/
def acquireToken
    (registered : Descriptors)
    (ptr size offset : Nat)
    (gotDescriptor gotToken : Bool) : Result Unit × Descriptors :=
  if ptr = 0 ∨ size = 0 then
    (.error (makeInvalidArgument
      "AcquireToken requires non-null ptr and positive size"), registered)
  else
    match registerUnderLock registered ptr (size + offset) gotDescriptor with
    | (.error error, registered) => (.error error, registered)
    | (.ok (), registered) =>
        if gotToken = false then
          (.error (makeTransportFailure "cuMemObjGetRDMAToken 获取失败" true),
            registered)
        else (.ok (), registered)

/-! ## Transfers -/

/-- What a sub-request does at the registry, once its session is opened. -/
def executeGet
    (registered : Descriptors)
    (sub : SubGet) : Result Unit × Descriptors :=
  if sub.2.data = 0 ∨ sub.2.size = 0 then
    (.error (makeInvalidArgument
      "GDS transfer requires non-null buffer and positive size"), registered)
  else if requestedBytes sub = 0 then
    (.error (makeInvalidArgument "Requested transfer length is zero"),
      registered)
  else acquireToken registered sub.2.data (requestedBytes sub) 0 true true

/-- What a write does at the registry, once its session is opened. -/
def executePut
    (registered : Descriptors)
    (buffer : BufferView) : Result Unit × Descriptors :=
  if buffer.data = 0 ∨ buffer.size = 0 then
    (.error (makeInvalidArgument
      "GDS transfer requires non-null buffer and positive size"), registered)
  else acquireToken registered buffer.data buffer.size 0 true true

/-! ## Calls -/

inductive Call
  | registerDeviceBuffer (ptr size : Nat)
  | unregisterDeviceBuffer (ptr : Nat)
  | putObject (buffer : BufferView) (opened : Bool)
  | getObject (request : GetObjectRequest) (buffer : BufferView)
  | subRequest (sub : SubGet) (opened : Bool)
  deriving DecidableEq

/-- The descriptors, and the sub-requests that have not come to them yet. -/
structure Registry where
  registered : Descriptors
  running : List SubGet

section Calls

variable (available : Bool) (options : GdsClientOptions) (executor : Bool)

/-- The sub-requests that a read is served by; none if it is refused. -/
def servedBy (request : GetObjectRequest) (buffer : BufferView) : List SubGet :=
  match getObject available options executor request buffer with
  | .ok subs => subs
  | .error _ => []

def step (registry : Registry) : Call → Option Registry
  | .registerDeviceBuffer ptr size =>
      some { registry with
        registered := (registerBuffer registry.registered ptr size true).2 }
  | .unregisterDeviceBuffer ptr =>
      some { registry with
        registered := (unregisterBuffer registry.registered ptr true).2 }
  | .putObject buffer opened =>
      match checkPutObject available options buffer, validateBuffer buffer with
      | .ok (), .ok () =>
          some { registry with
            registered :=
              if opened then (executePut registry.registered buffer).2
              else registry.registered }
      | _, _ => some registry
  | .getObject request buffer =>
      some { registry with
        running := registry.running ++
          servedBy available options executor request buffer }
  | .subRequest sub opened =>
      if sub ∈ registry.running then
        some
          { registered :=
              match validateBuffer sub.2 with
              | .ok () =>
                  if opened then (executeGet registry.registered sub).2
                  else registry.registered
              | .error _ => registry.registered
            running := registry.running.erase sub }
      else none

/-- The registry of a process, which starts without descriptors. -/
def machine : Machine Registry Call where
  initial := fun registry => registry = ⟨∅, []⟩
  step := step available options executor

/-- The pointer that a call hands to the table, with the size of its region. -/
def pinOf : Call → Option (Nat × Nat)
  | .registerDeviceBuffer ptr size =>
      if ptr = 0 ∨ size = 0 then none else some (ptr, size)
  | .unregisterDeviceBuffer _ => none
  | .putObject buffer opened =>
      match checkPutObject available options buffer, validateBuffer buffer with
      | .ok (), .ok () =>
          if opened then some (buffer.data, buffer.size) else none
      | _, _ => none
  | .getObject _ _ => none
  | .subRequest sub opened =>
      match validateBuffer sub.2 with
      | .ok () =>
          if opened ∧ requestedBytes sub ≠ 0 then
            some (sub.2.data, requestedBytes sub)
          else none
      | .error _ => none

/-- Whether a call hands a pointer to the table. -/
def Pins (ptr : Nat) (call : Call) : Prop :=
  ∃ size, pinOf available options call = some (ptr, size)

/-- Whether a call takes a pointer out of the table. -/
def Releases (ptr : Nat) (call : Call) : Prop :=
  ptr ≠ 0 ∧ call = .unregisterDeviceBuffer ptr

end Calls

/-! ## What a call does to the table -/

theorem registerUnderLock_registered
    (registered : Descriptors)
    (ptr size : Nat) :
    (registerUnderLock registered ptr size true).2 =
      registered.emplace ptr size := by
  cases found : registered.lookup ptr <;>
    simp [registerUnderLock, Table.emplace, found]

theorem registerBuffer_registered
    (registered : Descriptors)
    (ptr size : Nat) :
    (registerBuffer registered ptr size true).2 =
      if ptr = 0 ∨ size = 0 then registered
      else registered.emplace ptr size := by
  unfold registerBuffer
  split
  · rfl
  · exact registerUnderLock_registered registered ptr size

theorem unregisterBuffer_registered
    (registered : Descriptors)
    {ptr : Nat}
    (nonnull : ptr ≠ 0) :
    (unregisterBuffer registered ptr true).2 = registered.erase ptr := by
  rw [unregisterBuffer, if_neg nonnull]
  split
  · next absent => exact (Table.erase_of_lookup_none absent).symm
  · rfl

theorem acquireToken_registered
    (registered : Descriptors)
    {ptr size : Nat}
    (nonnull : ptr ≠ 0)
    (nonempty : size ≠ 0) :
    (acquireToken registered ptr size 0 true true).2 =
      registered.emplace ptr size := by
  have accepted : ¬ (ptr = 0 ∨ size = 0) := by
    rintro (null | empty)
    · exact nonnull null
    · exact nonempty empty
  have stored := registerUnderLock_registered registered ptr size
  rw [acquireToken, if_neg accepted, Nat.add_zero]
  split
  · next error registered' failed =>
      rw [failed] at stored
      exact stored
  · next registered' held =>
      rw [held] at stored
      exact stored

theorem validateBuffer_eq_ok
    {buffer : BufferView}
    (valid : validateBuffer buffer = .ok ()) :
    buffer.data ≠ 0 ∧ buffer.size ≠ 0 := by
  unfold validateBuffer at valid
  split at valid
  · cases valid
  · split at valid
    · cases valid
    · next accepted => exact not_or.mp accepted

theorem executePut_registered
    (registered : Descriptors)
    {buffer : BufferView}
    (valid : validateBuffer buffer = .ok ()) :
    (executePut registered buffer).2 =
      registered.emplace buffer.data buffer.size := by
  obtain ⟨nonnull, nonempty⟩ := validateBuffer_eq_ok valid
  rw [executePut, if_neg (not_or.mpr ⟨nonnull, nonempty⟩),
    acquireToken_registered registered nonnull nonempty]

theorem executeGet_registered
    (registered : Descriptors)
    {sub : SubGet}
    (valid : validateBuffer sub.2 = .ok ()) :
    (executeGet registered sub).2 =
      if requestedBytes sub = 0 then registered
      else registered.emplace sub.2.data (requestedBytes sub) := by
  obtain ⟨nonnull, nonempty⟩ := validateBuffer_eq_ok valid
  rw [executeGet, if_neg (not_or.mpr ⟨nonnull, nonempty⟩)]
  split
  · rfl
  · next some => exact acquireToken_registered registered nonnull some

section Effects

variable {available : Bool} {options : GdsClientOptions} {executor : Bool}

/-- What a call does to the table: it hands a pointer to it, takes one out, or
leaves it alone. -/
inductive Effect
    (available : Bool)
    (options : GdsClientOptions)
    (call : Call)
    (registered : Descriptors) : Descriptors → Prop
  | pins {ptr size : Nat}
      (pin : pinOf available options call = some (ptr, size))
      (nonempty : size ≠ 0)
      (keeps : ∀ other, ¬ Releases other call) :
      Effect available options call registered (registered.emplace ptr size)
  | releases {ptr : Nat}
      (nonnull : ptr ≠ 0)
      (release : call = .unregisterDeviceBuffer ptr) :
      Effect available options call registered (registered.erase ptr)
  | keeps
      (noPin : pinOf available options call = none)
      (keeps : ∀ other, ¬ Releases other call) :
      Effect available options call registered registered

/-- Every step has one of these effects. -/
theorem step_effect
    {registry next : Registry}
    {call : Call}
    (stepped : step available options executor registry call = some next) :
    Effect available options call registry.registered next.registered := by
  cases call with
  | registerDeviceBuffer ptr size =>
      obtain rfl := Option.some.inj stepped
      have keeps : ∀ other,
          ¬ Releases other (.registerDeviceBuffer ptr size) :=
        fun other release => nomatch release.2
      dsimp only
      rw [registerBuffer_registered]
      split
      · next refused => exact .keeps (if_pos refused) keeps
      · next accepted =>
          exact .pins (if_neg accepted) (not_or.mp accepted).2 keeps
  | unregisterDeviceBuffer ptr =>
      obtain rfl := Option.some.inj stepped
      by_cases null : ptr = 0
      · have unchanged :
            (unregisterBuffer registry.registered ptr true).2 =
              registry.registered := by
          rw [unregisterBuffer, if_pos null]
        dsimp only
        rw [unchanged]
        refine .keeps rfl ?_
        rintro other ⟨nonnull, same⟩
        cases same
        exact nonnull null
      · dsimp only
        rw [unregisterBuffer_registered _ null]
        exact .releases null rfl
  | putObject buffer opened =>
      have keeps : ∀ other, ¬ Releases other (.putObject buffer opened) :=
        fun other release => nomatch release.2
      simp only [step] at stepped
      split at stepped
      · next checked valid =>
          obtain rfl := Option.some.inj stepped
          cases opened with
          | false =>
              refine .keeps ?_ keeps
              simp [pinOf, checked, valid]
          | true =>
              simp only [if_true]
              rw [executePut_registered _ valid]
              refine .pins ?_ (validateBuffer_eq_ok valid).2 keeps
              simp [pinOf, checked, valid]
      · next refused =>
          obtain rfl := Option.some.inj stepped
          refine .keeps ?_ keeps
          simp only [pinOf]
  | getObject request buffer =>
      have keeps : ∀ other, ¬ Releases other (.getObject request buffer) :=
        fun other release => nomatch release.2
      obtain rfl := Option.some.inj stepped
      exact .keeps rfl keeps
  | subRequest sub opened =>
      have keeps : ∀ other, ¬ Releases other (.subRequest sub opened) :=
        fun other release => nomatch release.2
      simp only [step, Option.ite_none_right_eq_some,
        Option.some.injEq] at stepped
      obtain ⟨-, rfl⟩ := stepped
      dsimp only
      split
      · next valid =>
          cases opened with
          | false =>
              refine .keeps ?_ keeps
              simp [pinOf, valid]
          | true =>
              rw [if_pos rfl, executeGet_registered _ valid]
              split
              · next empty =>
                  refine .keeps ?_ keeps
                  simp [pinOf, valid, empty]
              · next nonempty =>
                  refine .pins ?_ nonempty keeps
                  simp [pinOf, valid, nonempty]
      · next error invalid =>
          refine .keeps ?_ keeps
          simp [pinOf, invalid]

/-! ## Runs inside one region -/

/-- A region lies inside another. -/
def Within (start length ptr size : Nat) : Prop :=
  start ≤ ptr ∧ ptr + size ≤ start + length

/-- Two regions have a byte in common. -/
def Overlaps (start length ptr size : Nat) : Prop :=
  ptr < start + length ∧ start < ptr + size

/-- The buffers of a call, and the parts of a buffer that is split, lie inside
a region. -/
def Inside
    (available : Bool)
    (options : GdsClientOptions)
    (executor : Bool)
    (start length : Nat)
    (_ : Registry) : Call → Prop
  | .registerDeviceBuffer ptr size => Within start length ptr size
  | .putObject buffer _ => Within start length buffer.data buffer.size
  | .getObject request buffer =>
      ∀ sub ∈ servedBy available options executor request buffer,
        Within start length sub.2.data sub.2.size
  | .unregisterDeviceBuffer _ => True
  | .subRequest _ _ => True

/-- What the table has after a history: the pointers that stand in it, each with
a region inside the given one, as have the sub-requests to come. -/
structure Records
    (available : Bool)
    (options : GdsClientOptions)
    (start length : Nat)
    (history : List Call)
    (registry : Registry) : Prop where
  standing : ∀ ptr, (registry.registered.lookup ptr).isSome ↔
    History.Standing (Pins available options ptr) (Releases ptr) history
  inside : ∀ ptr size, registry.registered.lookup ptr = some size →
    Within start length ptr size ∧ size ≠ 0
  running : ∀ sub ∈ registry.running,
    Within start length sub.2.data sub.2.size

variable {start length : Nat}

theorem records_initial :
    Records available options start length [] ⟨∅, []⟩ where
  standing := by
    intro ptr
    simp [History.not_standing_nil]
  inside := by simp
  running := by simp

/-- A pointer that a call hands to the table has its region inside the given
one. -/
theorem within_of_pinOf
    {registry next : Registry}
    {call : Call}
    (running : ∀ sub ∈ registry.running,
      Within start length sub.2.data sub.2.size)
    (inside : Inside available options executor start length registry call)
    (stepped : step available options executor registry call = some next)
    {ptr size : Nat}
    (pin : pinOf available options call = some (ptr, size)) :
    Within start length ptr size := by
  cases call with
  | registerDeviceBuffer other count =>
      simp only [pinOf, Option.ite_none_left_eq_some, Option.some.injEq,
        Prod.mk.injEq] at pin
      obtain ⟨-, rfl, rfl⟩ := pin
      exact inside
  | unregisterDeviceBuffer other => cases pin
  | putObject buffer opened =>
      simp only [pinOf] at pin
      split at pin
      · simp only [Option.ite_none_right_eq_some, Option.some.injEq,
          Prod.mk.injEq] at pin
        obtain ⟨-, rfl, rfl⟩ := pin
        exact inside
      · cases pin
  | getObject request buffer => cases pin
  | subRequest sub opened =>
      simp only [step, Option.ite_none_right_eq_some] at stepped
      have placed := running sub stepped.1
      simp only [pinOf] at pin
      split at pin
      · simp only [Option.ite_none_right_eq_some, Option.some.injEq,
          Prod.mk.injEq] at pin
        obtain ⟨-, rfl, rfl⟩ := pin
        -- A sub-request reads no more than its part of the buffer holds.
        have smaller : requestedBytes sub ≤ sub.2.size := min_le_right _ _
        exact ⟨placed.1, by have := placed.2; omega⟩
      · cases pin

/-- The sub-requests to come stay inside the region. -/
theorem running_step
    {registry next : Registry}
    {call : Call}
    (running : ∀ sub ∈ registry.running,
      Within start length sub.2.data sub.2.size)
    (inside : Inside available options executor start length registry call)
    (stepped : step available options executor registry call = some next) :
    ∀ sub ∈ next.running, Within start length sub.2.data sub.2.size := by
  cases call with
  | registerDeviceBuffer ptr size =>
      obtain rfl := Option.some.inj stepped
      exact running
  | unregisterDeviceBuffer ptr =>
      obtain rfl := Option.some.inj stepped
      exact running
  | putObject buffer opened =>
      simp only [step] at stepped
      split at stepped <;> obtain rfl := Option.some.inj stepped <;>
        exact running
  | getObject request buffer =>
      obtain rfl := Option.some.inj stepped
      intro sub member
      rcases List.mem_append.mp member with member | member
      · exact running sub member
      · exact inside sub member
  | subRequest sub opened =>
      simp only [step, Option.ite_none_right_eq_some,
        Option.some.injEq] at stepped
      obtain ⟨-, rfl⟩ := stepped
      intro other member
      exact running other (List.mem_of_mem_erase member)

/-- The pointers that stand after one more call. -/
theorem standing_effect
    {history : List Call}
    {call : Call}
    {registered after : Descriptors}
    (standing : ∀ ptr, (registered.lookup ptr).isSome ↔
      History.Standing (Pins available options ptr) (Releases ptr) history)
    (effect : Effect available options call registered after)
    (ptr : Nat) :
    (after.lookup ptr).isSome ↔
      History.Standing (Pins available options ptr) (Releases ptr)
        (history ++ [call]) := by
  rw [History.standing_append_iff, ← standing]
  cases effect with
  | @pins pinned size pin nonempty keeps =>
      have same : Pins available options ptr call ↔ ptr = pinned := by
        simp only [Pins, pin, Option.some.injEq, Prod.mk.injEq]
        exact ⟨fun ⟨_, equal, _⟩ => equal.symm, fun equal => ⟨size, equal.symm, rfl⟩⟩
      rw [Table.lookup_emplace_eq, same]
      by_cases equal : ptr = pinned <;> simp [equal, keeps]
  | @releases released nonnull release =>
      have unpinned : ¬ Pins available options ptr call := by
        rintro ⟨size, pin⟩
        rw [release] at pin
        cases pin
      have same : Releases ptr call ↔ ptr = released := by
        simp only [Releases, release, Call.unregisterDeviceBuffer.injEq]
        exact ⟨fun both => both.2.symm, fun equal => ⟨equal ▸ nonnull, equal.symm⟩⟩
      rw [Table.lookup_erase_eq, same]
      by_cases equal : ptr = released <;> simp [equal, unpinned]
      rw [← equal]
      exact unpinned
  | keeps noPin keeps =>
      have unpinned : ¬ Pins available options ptr call := by
        rintro ⟨size, pin⟩
        rw [noPin] at pin
        cases pin
      simp [unpinned, keeps]

/-- The regions of the table stay inside when those a call adds are. -/
theorem inside_effect
    {call : Call}
    {registered after : Descriptors}
    (inside : ∀ ptr size, registered.lookup ptr = some size →
      Within start length ptr size ∧ size ≠ 0)
    (within : ∀ ptr size, pinOf available options call = some (ptr, size) →
      Within start length ptr size)
    (effect : Effect available options call registered after)
    (ptr size : Nat)
    (found : after.lookup ptr = some size) :
    Within start length ptr size ∧ size ≠ 0 := by
  cases effect with
  | @pins pinned count pin nonempty keeps =>
      rw [Table.lookup_emplace_eq] at found
      split at found
      · next equal =>
          subst equal
          cases held : registered.lookup ptr with
          | none =>
              rw [held] at found
              obtain rfl := Option.some.inj found
              exact ⟨within ptr count pin, nonempty⟩
          | some old =>
              rw [held] at found
              obtain rfl := Option.some.inj found
              exact inside ptr old held
      · exact inside ptr size found
  | releases nonnull release =>
      rw [Table.lookup_erase_eq] at found
      split at found
      · cases found
      · exact inside ptr size found
  | keeps noPin keeps => exact inside ptr size found

/-- What one call adds to the history. -/
theorem Records.step
    {history : List Call}
    {registry next : Registry}
    {call : Call}
    (records : Records available options start length history registry)
    (inside : Inside available options executor start length registry call)
    (stepped : step available options executor registry call = some next) :
    Records available options start length (history ++ [call]) next where
  standing := standing_effect records.standing (step_effect stepped)
  inside := inside_effect records.inside
    (fun _ _ pin => within_of_pinOf records.running inside stepped pin)
    (step_effect stepped)
  running := running_step records.running inside stepped

/-- What a run records. -/
theorem records_of_path
    {labels : List Call}
    {registry : Registry}
    (path : (machine available options executor).Path
      (Inside available options executor start length) ⟨∅, []⟩ labels
      registry) :
    Records available options start length labels registry := by
  have recorded := @Machine.Path.history _ _ _ _
    (Records available options start length) _ _ [] _ path
    (fun _ _ _ _ records inside stepped => records.step inside stepped)
    records_initial
  exact recorded

/-- Unregistering a region leaves no descriptor that overlaps it exactly when
every other pointer that was handed to the table, by a registration, a write, a
read or a part of a read, was unregistered since. -/
theorem unregister_unpins_iff
    {labels : List Call}
    {registry : Registry}
    (path : (machine available options executor).Path
      (Inside available options executor start length) ⟨∅, []⟩ labels
      registry)
    (nonnull : start ≠ 0) :
    (∀ ptr size,
      (unregisterBuffer registry.registered start true).2.lookup ptr =
          some size → ¬ Overlaps start length ptr size) ↔
      ∀ ptr, ptr ≠ start →
        ¬ History.Standing (Pins available options ptr) (Releases ptr)
          labels := by
  have records := records_of_path path
  simp only [unregisterBuffer_registered registry.registered nonnull,
    Table.lookup_erase_eq]
  constructor
  · intro clear ptr different standing
    obtain ⟨size, found⟩ :=
      Option.isSome_iff_exists.mp ((records.standing ptr).mpr standing)
    obtain ⟨⟨lower, upper⟩, nonempty⟩ := records.inside ptr size found
    apply clear ptr size
    · rw [if_neg different, found]
    · exact ⟨by omega, by omega⟩
  · intro released ptr size found
    split at found
    · cases found
    · next different =>
        have standing := (records.standing ptr).mp (by rw [found]; rfl)
        exact absurd standing (released ptr different)

end Effects

/-! ## A split read -/

/-- A read of 64 MiB into a buffer of that size. -/
def wholeGet : GetObjectRequest :=
  ⟨"bucket", "key", 0, some (64 * 1024 * 1024), 30000⟩

def wholeBuffer : BufferView := ⟨65536, 64 * 1024 * 1024, .cudaDevice⟩

/-- Registering the buffer, a split read into it, and its four parts. -/
def splitGetCalls : List Call :=
  .registerDeviceBuffer 65536 (64 * 1024 * 1024) ::
    .getObject wholeGet wholeBuffer ::
      (getObjectParallel {} wholeGet wholeBuffer).map (.subRequest · true)

instance (start length : Nat) (registry : Registry) :
    DecidablePred (Inside true {} true start length registry) := by
  intro call
  cases call <;> unfold Inside Within <;> infer_instance

/-- After a split read three descriptors inside the buffer are left when it is
unregistered. -/
theorem unregister_after_split_get :
    ∃ registry,
      (machine true {} true).Path
          (Inside true {} true 65536 (64 * 1024 * 1024)) ⟨∅, []⟩ splitGetCalls
          registry ∧
        ∀ part ∈ [1, 2, 3],
          (unregisterBuffer registry.registered 65536 true).2.lookup
              (65536 + part * (16 * 1024 * 1024)) =
            some (16 * 1024 * 1024) ∧
          Overlaps 65536 (64 * 1024 * 1024)
            (65536 + part * (16 * 1024 * 1024)) (16 * 1024 * 1024) := by
  have left : ((machine true {} true).run
        (Inside true {} true 65536 (64 * 1024 * 1024)) ⟨∅, []⟩
        splitGetCalls).map (fun registry => decide (∀ part ∈ [1, 2, 3],
          (unregisterBuffer registry.registered 65536 true).2.lookup
              (65536 + part * (16 * 1024 * 1024)) =
            some (16 * 1024 * 1024))) = some true := by
    decide
  obtain ⟨registry, executed, found⟩ := Option.map_eq_some_iff.mp left
  refine ⟨registry, Machine.path_of_run executed, ?_⟩
  intro part member
  refine ⟨of_decide_eq_true found part member, ?_⟩
  have bounded : 1 ≤ part ∧ part ≤ 3 := by
    simp only [List.mem_cons, List.not_mem_nil, or_false] at member
    omega
  exact ⟨by omega, by omega⟩

/-- The theorem at the calls of a split read. -/
theorem unregister_unpins_iff_split_get :
    ∃ registry : Registry,
      ((∀ ptr size,
        (unregisterBuffer registry.registered 65536 true).2.lookup ptr =
            some size → ¬ Overlaps 65536 (64 * 1024 * 1024) ptr size) ↔
        ∀ ptr, ptr ≠ 65536 →
          ¬ History.Standing (Pins true {} ptr) (Releases ptr)
            splitGetCalls) := by
  have ends : ((machine true {} true).run
      (Inside true {} true 65536 (64 * 1024 * 1024)) ⟨∅, []⟩
      splitGetCalls).isSome = true := by
    decide
  obtain ⟨registry, executed⟩ := Option.isSome_iff_exists.mp ends
  exact ⟨registry,
    unregister_unpins_iff (Machine.path_of_run executed) (by decide)⟩

end Gds
end Client
end TurboAccess
