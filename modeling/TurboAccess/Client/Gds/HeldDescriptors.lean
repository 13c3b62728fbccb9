import TurboAccess.Client.Gds.MemoryRegistry

/-!
# Descriptors that the library holds

The table of registered pointers mirrors what the object library holds: a
descriptor is taken from it before its pointer is stored, and a pointer is removed
when its descriptor was handed back.  Every call of the library can fail, and
then leaves what it holds as it was.

An entry is removed also when the library has failed to take its descriptor back.
So the table has exactly the pointers with a descriptor, and none of them two,
throughout a run in which the library takes back what it is handed.
-/

namespace TurboAccess
namespace Client
namespace Gds

/-- The table, and the number of descriptors that the library holds for each
pointer. -/
structure Books where
  registered : Descriptors
  held : Nat → Nat

namespace Books

/-- Nothing is registered, and nothing is held. -/
def init : Books := ⟨∅, fun _ => 0⟩

/-! ## Calls of the library -/

def getDescriptor (books : Books) (ptr : Nat) (success : Bool) : Books :=
  if success then
    { books with held := Function.update books.held ptr (books.held ptr + 1) }
  else books

def putDescriptor (books : Books) (ptr : Nat) (success : Bool) : Books :=
  if success then
    { books with held := Function.update books.held ptr (books.held ptr - 1) }
  else books

/-! ## Operations -/

def registerUnderLock
    (books : Books)
    (ptr size : Nat)
    (gotDescriptor : Bool) : Result Unit × Books :=
  match books.registered.lookup ptr with
  | some _ => (.ok (), books)
  | none =>
      let books := books.getDescriptor ptr gotDescriptor
      if gotDescriptor = false then
        (.error (makeTransportFailure "cuMemObjGetDescriptor 注册失败" true),
          books)
      else
        (.ok (), { books with registered := books.registered.emplace ptr size })

def registerBuffer
    (books : Books)
    (ptr size : Nat)
    (gotDescriptor : Bool) : Result Unit × Books :=
  if ptr = 0 ∨ size = 0 then
    (.error (makeInvalidArgument
      "RegisterDeviceBuffer requires non-null ptr and positive size"), books)
  else books.registerUnderLock ptr size gotDescriptor

def unregisterBuffer
    (books : Books)
    (ptr : Nat)
    (putDescriptor : Bool) : Result Unit × Books :=
  if ptr = 0 then
    (.error (makeInvalidArgument
      "UnregisterDeviceBuffer requires non-null ptr"), books)
  else
    match books.registered.lookup ptr with
    | none => (.ok (), books)
    | some _ =>
        let books := books.putDescriptor ptr putDescriptor
        let books := { books with registered := books.registered.erase ptr }
        if putDescriptor = false then
          (.error (makeTransportFailure "cuMemObjPutDescriptor 释放失败" true),
            books)
        else (.ok (), books)

def acquireToken
    (books : Books)
    (ptr size offset : Nat)
    (gotDescriptor gotToken : Bool) : Result Unit × Books :=
  if ptr = 0 ∨ size = 0 then
    (.error (makeInvalidArgument
      "AcquireToken requires non-null ptr and positive size"), books)
  else
    match books.registerUnderLock ptr (size + offset) gotDescriptor with
    | (.error error, books) => (.error error, books)
    | (.ok (), books) =>
        if gotToken = false then
          (.error (makeTransportFailure "cuMemObjGetRDMAToken 获取失败" true),
            books)
        else (.ok (), books)

/-! ## The table alone -/

@[simp] theorem registered_getDescriptor
    (books : Books)
    (ptr : Nat)
    (success : Bool) :
    (books.getDescriptor ptr success).registered = books.registered := by
  cases success <;> rfl

@[simp] theorem registered_putDescriptor
    (books : Books)
    (ptr : Nat)
    (success : Bool) :
    (books.putDescriptor ptr success).registered = books.registered := by
  cases success <;> rfl

theorem registerUnderLock_table
    (books : Books)
    (ptr size : Nat)
    (gotDescriptor : Bool) :
    ((books.registerUnderLock ptr size gotDescriptor).1,
        (books.registerUnderLock ptr size gotDescriptor).2.registered) =
      Gds.registerUnderLock books.registered ptr size gotDescriptor := by
  unfold registerUnderLock Gds.registerUnderLock
  cases books.registered.lookup ptr with
  | some _ => rfl
  | none => cases gotDescriptor <;> rfl

/-- What the operations answer and do to the table does not depend on what the
library holds. -/
theorem operations_table
    (books : Books)
    (ptr size offset : Nat)
    (first second : Bool) :
    ((books.registerBuffer ptr size first).1,
        (books.registerBuffer ptr size first).2.registered) =
      Gds.registerBuffer books.registered ptr size first ∧
    ((books.unregisterBuffer ptr first).1,
        (books.unregisterBuffer ptr first).2.registered) =
      Gds.unregisterBuffer books.registered ptr first ∧
    ((books.acquireToken ptr size offset first second).1,
        (books.acquireToken ptr size offset first second).2.registered) =
      Gds.acquireToken books.registered ptr size offset first second := by
  refine ⟨?_, ?_, ?_⟩
  · unfold registerBuffer Gds.registerBuffer
    split
    · rfl
    · exact registerUnderLock_table books ptr size first
  · unfold unregisterBuffer Gds.unregisterBuffer
    split
    · rfl
    · cases books.registered.lookup ptr with
      | none => rfl
      | some _ => cases first <;> rfl
  · unfold acquireToken Gds.acquireToken
    split
    · rfl
    · rw [← registerUnderLock_table]
      cases books.registerUnderLock ptr (size + offset) first with
      | mk result after =>
          cases result with
          | error error => rfl
          | ok done => cases second <;> rfl

/-! ## Runs -/

inductive Call
  | registerBuffer (ptr size : Nat) (gotDescriptor : Bool)
  | acquireToken (ptr size offset : Nat) (gotDescriptor gotToken : Bool)
  | unregisterBuffer (ptr : Nat) (putDescriptor : Bool)
  deriving DecidableEq

/-- What a call answers and leaves. -/
def call (books : Books) : Call → Result Unit × Books
  | .registerBuffer ptr size gotDescriptor =>
      books.registerBuffer ptr size gotDescriptor
  | .acquireToken ptr size offset gotDescriptor gotToken =>
      books.acquireToken ptr size offset gotDescriptor gotToken
  | .unregisterBuffer ptr putDescriptor =>
      books.unregisterBuffer ptr putDescriptor

/-- The operations of a process, in the order of its lock. -/
def machine : Machine Books Call where
  initial := fun books => books = init
  step := fun books label => some (books.call label).2

/-- The table has the pointers whose descriptor is held, and none of them two;
so a pointer that was unregistered with success has none. -/
structure Mirrors (books : Books) : Prop where
  keys : ∀ ptr, (books.registered.lookup ptr).isSome ↔ books.held ptr ≠ 0
  once : ∀ ptr, books.held ptr ≤ 1
  released : ∀ ptr putDescriptor,
    (books.unregisterBuffer ptr putDescriptor).1 = .ok () →
      (books.unregisterBuffer ptr putDescriptor).2.held ptr = 0

/-- The library takes back the descriptor that a call hands it. -/
def TakenBack (books : Books) : Call → Prop
  | .unregisterBuffer ptr putDescriptor =>
      (books.registered.lookup ptr).isSome → putDescriptor = true
  | .registerBuffer _ _ _ => True
  | .acquireToken _ _ _ _ _ => True

/-! ## What a call does -/

/-- A call leaves everything as it is, takes a descriptor for a pointer that has
none, hands one back, or forgets one. -/
inductive Effect (books : Books) : Call → Books → Prop
  | keeps {label : Call}
      (taken : books.TakenBack label) :
      Effect books label books
  | takes {label : Call} {ptr size : Nat}
      (taken : books.TakenBack label)
      (nonnull : ptr ≠ 0)
      (absent : books.registered.lookup ptr = none) :
      Effect books label
        ⟨books.registered.emplace ptr size,
          Function.update books.held ptr (books.held ptr + 1)⟩
  | returns {ptr : Nat}
      (present : (books.registered.lookup ptr).isSome) :
      Effect books (.unregisterBuffer ptr true)
        ⟨books.registered.erase ptr,
          Function.update books.held ptr (books.held ptr - 1)⟩
  | forgets {ptr : Nat}
      (present : (books.registered.lookup ptr).isSome) :
      Effect books (.unregisterBuffer ptr false)
        ⟨books.registered.erase ptr, books.held⟩

/-- The null pointer is not registered. -/
def NoNull (books : Books) : Prop := books.registered.lookup 0 = none

/-- A registration keeps everything, or takes a descriptor. -/
theorem registerUnderLock_effect
    (books : Books)
    {label : Call}
    (taken : books.TakenBack label)
    {ptr : Nat}
    (nonnull : ptr ≠ 0)
    (size : Nat)
    (gotDescriptor : Bool) :
    Effect books label (books.registerUnderLock ptr size gotDescriptor).2 := by
  unfold registerUnderLock
  cases absent : books.registered.lookup ptr with
  | some _ => exact .keeps taken
  | none =>
      cases gotDescriptor with
      | false => exact .keeps taken
      | true => exact .takes taken nonnull absent

/-- Every call has one of these effects. -/
theorem call_effect
    {books : Books}
    (noNull : books.NoNull)
    (label : Call) :
    Effect books label (books.call label).2 := by
  cases label with
  | registerBuffer ptr size gotDescriptor =>
      simp only [call, registerBuffer]
      split
      · exact .keeps trivial
      · next accepted =>
          exact @registerUnderLock_effect books
            (.registerBuffer ptr size gotDescriptor) trivial ptr
            (not_or.mp accepted).1 size gotDescriptor
  | acquireToken ptr size offset gotDescriptor gotToken =>
      simp only [call, acquireToken]
      split
      · exact .keeps trivial
      · next accepted =>
          have effect := @registerUnderLock_effect books
            (.acquireToken ptr size offset gotDescriptor gotToken) trivial ptr
            (not_or.mp accepted).1 (size + offset) gotDescriptor
          split
          · next failed =>
              rw [failed] at effect
              exact effect
          · next registered =>
              rw [registered] at effect
              cases gotToken <;> exact effect
  | unregisterBuffer ptr putDescriptor =>
      simp only [call, unregisterBuffer]
      split
      · next null =>
          refine .keeps fun present => ?_
          rw [null, noNull] at present
          cases present
      · split
        · next absent =>
            refine .keeps fun present => ?_
            rw [absent] at present
            cases present
        · next present =>
            have stored : (books.registered.lookup ptr).isSome := by
              rw [present]
              rfl
            cases putDescriptor with
            | true => exact .returns stored
            | false => exact .forgets stored

/-! ## The mirror -/

/-- A pointer that was unregistered with success has no descriptor, where the
table has the pointers with one. -/
theorem held_of_unregisterBuffer
    {books : Books}
    (keys : ∀ ptr, (books.registered.lookup ptr).isSome ↔ books.held ptr ≠ 0)
    (once : ∀ ptr, books.held ptr ≤ 1)
    {ptr : Nat}
    {putDescriptor : Bool}
    (success : (books.unregisterBuffer ptr putDescriptor).1 = .ok ()) :
    (books.unregisterBuffer ptr putDescriptor).2.held ptr = 0 := by
  have ofPtr := keys ptr
  have atMost := once ptr
  revert success
  unfold unregisterBuffer
  split
  · nofun
  · split
    · next absent =>
        intro _
        rw [absent] at ofPtr
        simpa using ofPtr
    · cases putDescriptor with
      | false => nofun
      | true =>
          intro _
          change Function.update books.held ptr (books.held ptr - 1) ptr = 0
          rw [Function.update_self]
          omega

theorem mirrors_of
    {books : Books}
    (keys : ∀ ptr, (books.registered.lookup ptr).isSome ↔ books.held ptr ≠ 0)
    (once : ∀ ptr, books.held ptr ≤ 1) :
    books.Mirrors :=
  ⟨keys, once, fun _ _ => held_of_unregisterBuffer keys once⟩

theorem mirrors_init : init.Mirrors := by
  apply mirrors_of
  · intro ptr
    simp [init]
  · intro ptr
    exact Nat.zero_le 1

theorem noNull_effect
    {books next : Books}
    {label : Call}
    (noNull : books.NoNull)
    (effect : Effect books label next) :
    next.NoNull := by
  unfold NoNull at noNull ⊢
  cases effect with
  | keeps => exact noNull
  | takes taken nonnull absent =>
      dsimp only
      rw [Table.lookup_emplace_eq, if_neg nonnull.symm, noNull]
  | returns present =>
      dsimp only
      rw [Table.lookup_erase_eq, noNull, ite_self]
  | forgets present =>
      dsimp only
      rw [Table.lookup_erase_eq, noNull, ite_self]

/-- The table mirrors the library after a call exactly if the library has taken
back what it was handed. -/
theorem mirrors_effect_iff
    {books next : Books}
    {label : Call}
    (mirrors : books.Mirrors)
    (effect : Effect books label next) :
    next.Mirrors ↔ books.TakenBack label := by
  cases effect with
  | keeps taken => exact iff_of_true mirrors taken
  | @takes _ ptr size taken nonnull absent =>
      refine iff_of_true (mirrors_of ?_ ?_) taken
      · intro other
        dsimp only
        rw [Table.lookup_emplace_eq]
        by_cases same : other = ptr
        · rw [if_pos same, same, Function.update_self]
          simp
        · rw [if_neg same, Function.update_of_ne same]
          exact mirrors.keys other
      · intro other
        dsimp only
        by_cases same : other = ptr
        · have none_ := mirrors.keys ptr
          rw [absent] at none_
          rw [same, Function.update_self]
          simp at none_
          omega
        · rw [Function.update_of_ne same]
          exact mirrors.once other
  | @returns ptr present =>
      refine iff_of_true (mirrors_of ?_ ?_) fun _ => rfl
      · intro other
        dsimp only
        rw [Table.lookup_erase_eq]
        by_cases same : other = ptr
        · have atMost := mirrors.once ptr
          rw [if_pos same, same, Function.update_self]
          simp
          omega
        · rw [if_neg same, Function.update_of_ne same]
          exact mirrors.keys other
      · intro other
        dsimp only
        have atMost := mirrors.once other
        by_cases same : other = ptr
        · rw [same] at atMost ⊢
          rw [Function.update_self]
          omega
        · rw [Function.update_of_ne same]
          exact atMost
  | @forgets ptr present =>
      refine iff_of_false ?_ fun taken => Bool.false_ne_true (taken present)
      intro after
      have held := (mirrors.keys ptr).mp present
      have listed := (after.keys ptr).mpr held
      rw [Table.lookup_erase_eq, if_pos rfl] at listed
      cases listed

/-- Throughout a run the table mirrors the library, exactly if the library takes
back every descriptor that it is handed. -/
theorem mirrors_throughout_iff
    {calls : List Call}
    {finish : Books}
    (path : machine.Path Machine.always init calls finish) :
    (∀ first middle, first <+: calls →
        machine.Path Machine.always init first middle → middle.Mirrors) ↔
      machine.Path TakenBack init calls finish := by
  have noNull : init.NoNull := rfl
  refine path.throughout_iff ?_ ?_ noNull mirrors_init
  · rintro books label next noNull ⟨⟩
    exact noNull_effect noNull (call_effect noNull label)
  · rintro books label next noNull mirrors ⟨⟩
    exact mirrors_effect_iff mirrors (call_effect noNull label)

/-- A pointer is registered and unregistered. -/
theorem mirrors_throughout_iff_register :
    ∃ finish, (∀ first middle,
        first <+: [.registerBuffer 4096 16 true, .unregisterBuffer 4096 true] →
          machine.Path Machine.always init first middle → middle.Mirrors) ↔
      machine.Path TakenBack init
        [.registerBuffer 4096 16 true, .unregisterBuffer 4096 true] finish :=
  ⟨_, mirrors_throughout_iff
    (.cons trivial rfl (.cons trivial rfl .nil))⟩

/-- A pointer is registered, and the library does not take its descriptor
back. -/
theorem descriptor_forgotten :
    ¬∀ calls finish, machine.Path Machine.always init calls finish →
      finish.Mirrors := by
  intro mirrors
  have after := mirrors
    [.registerBuffer 4096 16 true, .unregisterBuffer 4096 false] _
    (.cons trivial rfl (.cons trivial rfl .nil))
  have success : (((init.call (.registerBuffer 4096 16 true)).2.call
      (.unregisterBuffer 4096 false)).2.unregisterBuffer 4096 true).1 =
        .ok () := by decide
  exact absurd (after.released 4096 true success) (by decide)

end Books

end Gds
end Client
end TurboAccess
