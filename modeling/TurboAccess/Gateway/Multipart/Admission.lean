import TurboAccess.Gateway.Multipart.Coordinator

/-!
# Which completions reach the backend

A completion claims its upload, validates its parts against a snapshot of the
recorded ones, and only then calls the backend.  The validation sorts the parts
and compares them with their positions; what it accepts is stated here without
an order: the numbers are a permutation of `1..N`, and each part is right by
itself.
-/

namespace TurboAccess
namespace Gateway

/-- A part of a completion is recorded under the tag it is listed with, and is
large enough unless it is the last one. -/
structure Acceptable
    (options : CoordinatorOptions)
    (recorded : Table Nat PartProgress)
    (count : Nat)
    (part : PartRecord) : Prop where
  named : part.etag ≠ ""
  matches_ : ∃ progress, recorded.lookup part.partNumber = some progress ∧
    progress.etag = part.etag ∧
      (part.partNumber ≠ count → options.minPartSize ≠ 0 →
        options.minPartSize ≤ progress.size)

/-- The parts of a completion are numbered from one, in any order, without a gap
or a duplicate, and each is acceptable. -/
structure WellFormedParts
    (options : CoordinatorOptions)
    (recorded : Table Nat PartProgress)
    (parts : List PartRecord) : Prop where
  numbers : (parts.map PartRecord.partNumber).Perm
    (List.range' 1 parts.length)
  acceptable : ∀ part ∈ parts,
    Acceptable options recorded parts.length part

/-! ## The checks -/

/-- A part passes its check when it has the number of its position and is
acceptable. -/
theorem checkPart_eq_ok_iff
    {options : CoordinatorOptions}
    {recorded : Table Nat PartProgress}
    {count index : Nat}
    {part : PartRecord}
    (position : part.partNumber = index + 1)
    (word : part.partNumber < 2 ^ 32) :
    checkPart options recorded count index part = .ok () ↔
      Acceptable options recorded count part := by
  have expected : ¬ part.partNumber ≠ (index + 1) % 2 ^ 32 := by
    rw [Nat.mod_eq_of_lt (by omega)]
    exact not_not.mpr position
  rw [checkPart, if_neg expected]
  constructor
  · intro passed
    split at passed
    · cases passed
    · next named =>
        split at passed
        · cases passed
        · next progress found =>
            split at passed
            · cases passed
            · next matching =>
                split at passed
                · cases passed
                · next large =>
                    refine ⟨named, progress, found, not_not.mp matching, ?_⟩
                    intro notLast limited
                    by_contra small
                    exact large ⟨by omega, limited, by omega⟩
  · rintro ⟨named, progress, found, matching, large⟩
    rw [if_neg named, found]
    dsimp only
    rw [if_neg (not_not.mpr matching), if_neg]
    rintro ⟨notLast, limited, small⟩
    have enough := large (by omega) limited
    omega

/-- A list passes when every part passes at its position. -/
theorem checkParts_eq_ok_iff
    {options : CoordinatorOptions}
    {recorded : Table Nat PartProgress}
    {count index : Nat}
    {parts : List PartRecord} :
    checkParts options recorded count index parts = .ok () ↔
      ∀ position part, parts[position]? = some part →
        checkPart options recorded count (index + position) part = .ok () := by
  induction parts generalizing index with
  | nil => simp [checkParts]
  | cons head tail inductionHypothesis =>
      rw [checkParts]
      constructor
      · intro passed position part found
        split at passed
        · cases passed
        · next headPassed =>
            cases position with
            | zero =>
                obtain rfl := Option.some.inj found
                exact headPassed
            | succ position =>
                have later := inductionHypothesis.mp passed position part found
                rwa [Nat.add_right_comm] at later
      · intro passes
        have headPassed := passes 0 head rfl
        rw [Nat.add_zero] at headPassed
        rw [headPassed]
        apply inductionHypothesis.mpr
        intro position part found
        have later := passes (position + 1) part found
        rwa [Nat.add_right_comm]

/-- Numbers that are a permutation of `1..N` are sorted to it. -/
theorem orderedNumbers_eq_range_iff (parts : List PartRecord) :
    CompositeBackend.orderedNumbers parts = List.range' 1 parts.length ↔
      (parts.map PartRecord.partNumber).Perm
        (List.range' 1 parts.length) := by
  have sorted : (CompositeBackend.orderedNumbers parts).Perm
      (parts.map PartRecord.partNumber) := List.perm_insertionSort _ _
  constructor
  · intro equal
    rw [← equal]
    exact sorted.symm
  · intro listed
    have ascending :
        (CompositeBackend.orderedNumbers parts).Pairwise (· ≤ ·) :=
      List.pairwise_insertionSort _ _
    have counting : (List.range' 1 parts.length).Pairwise (· ≤ ·) :=
      (List.pairwise_lt_range').imp Nat.le_of_lt
    exact (sorted.trans listed).eq_of_pairwise
      (fun _ _ _ _ => Nat.le_antisymm) ascending counting

/-- The sorted parts have the number of their position when the numbers are a
permutation of `1..N`. -/
theorem partNumber_of_sortedParts
    {parts : List PartRecord}
    (numbers : CompositeBackend.orderedNumbers parts =
      List.range' 1 parts.length)
    {position : Nat}
    {part : PartRecord}
    (found : (sortedParts parts)[position]? = some part) :
    part.partNumber = position + 1 := by
  have mapped : ((sortedParts parts).map PartRecord.partNumber)[position]? =
      some part.partNumber := by
    rw [List.getElem?_map, found, Option.map_some]
  have short : position < parts.length := by
    have inside := (List.getElem?_eq_some_iff.mp found).1
    have same : (sortedParts parts).length = parts.length :=
      (List.perm_insertionSort _ parts).length_eq
    omega
  rw [map_sortedParts, numbers, List.getElem?_range' short] at mapped
  have number := Option.some.inj mapped
  omega

/-- The validation accepts exactly the well-formed lists of parts. -/
theorem validateParts_eq_ok_iff
    {options : CoordinatorOptions}
    {recorded : Table Nat PartProgress}
    {parts : List PartRecord}
    (words : ∀ part ∈ parts, part.partNumber < 2 ^ 32) :
    validateParts options recorded parts = .ok () ↔
      WellFormedParts options recorded parts := by
  have same := List.perm_insertionSort
    (fun left right : PartRecord => left.partNumber ≤ right.partNumber) parts
  have checks : CompositeBackend.orderedNumbers parts =
        List.range' 1 parts.length →
      (validateParts options recorded parts = .ok () ↔
        ∀ part ∈ parts, Acceptable options recorded parts.length part) := by
    intro numbers
    have count : (sortedParts parts).length = parts.length := same.length_eq
    rw [validateParts, count, checkParts_eq_ok_iff]
    constructor
    · intro passes part listed
      obtain ⟨position, found⟩ :=
        List.mem_iff_getElem?.mp (same.mem_iff.mpr listed)
      have number := partNumber_of_sortedParts numbers found
      have passed := passes position part found
      rw [Nat.zero_add] at passed
      exact (checkPart_eq_ok_iff number (words part listed)).mp passed
    · intro acceptable position part found
      have listed : part ∈ parts :=
        same.mem_iff.mp (List.mem_of_getElem? found)
      have number := partNumber_of_sortedParts numbers found
      rw [Nat.zero_add]
      exact (checkPart_eq_ok_iff number (words part listed)).mpr
        (acceptable part listed)
  constructor
  · intro valid
    have numbers := orderedNumbers_of_validateParts valid
    exact ⟨(orderedNumbers_eq_range_iff parts).mp numbers,
      (checks numbers).mp valid⟩
  · rintro ⟨numbers, acceptable⟩
    exact (checks ((orderedNumbers_eq_range_iff parts).mpr numbers)).mpr
      acceptable

/-! ## Admission -/

namespace State

/-- The sections of a completion before the backend is called: the upload, and
the state in which it is claimed. -/
def admission
    (options : CoordinatorOptions)
    (state : State)
    (request : CompleteRequest) : Result (UploadPtr × State) :=
  if request.parts.isEmpty then .error noParts
  else
    match state.store.find request.uploadId with
    | none => .error uploadIdNotFound
    | some upload =>
        match state.claim upload request with
        | .error error => .error error
        | .ok claimed =>
            match validateParts options (state.store.objects upload).parts
                request.parts with
            | .error error => .error error
            | .ok () => .ok (upload, claimed)

/-- A completion reaches `CompleteMultipart` of the backend. -/
def Admitted
    (options : CoordinatorOptions)
    (state : State)
    (request : CompleteRequest) : Prop :=
  ∃ upload claimed, state.admission options request = .ok (upload, claimed)

/-- A completion is for an active upload of its data flow, and lists at least
one part, all well formed. -/
def WellFormed
    (options : CoordinatorOptions)
    (state : State)
    (request : CompleteRequest) : Prop :=
  ∃ upload, state.store.find request.uploadId = some upload ∧
    (state.store.objects upload).dataFlow = request.dataPath ∧
      (state.store.objects upload).state = .active ∧
        request.parts ≠ [] ∧
          WellFormedParts options (state.store.objects upload).parts
            request.parts

/-- Giving a claimed upload back restores the registry. -/
theorem setState_setState_active
    {store : MultipartStore}
    {upload : UploadPtr}
    (active : (store.objects upload).state = .active)
    (state : UploadState) :
    (store.setState upload state).setState upload .active = store := by
  have restored : { store.objects upload with state := .active } =
      store.objects upload := by
    rw [← active]
  simp only [MultipartStore.setState, MultipartStore.modify,
    Function.update_self, Function.update_idem, restored,
    Function.update_eq_self]

/-- An upload is claimed when it has the data flow of the request and is
active. -/
theorem claim_eq_ok_iff
    {state claimed : State}
    {upload : UploadPtr}
    {request : CompleteRequest} :
    state.claim upload request = .ok claimed ↔
      (state.store.objects upload).dataFlow = request.dataPath ∧
        (state.store.objects upload).state = .active ∧
          claimed =
            { state with store := state.store.setState upload .completing } := by
  unfold claim
  dsimp only
  constructor
  · intro owned
    split at owned
    · cases owned
    · next flow =>
        split at owned
        · cases owned
        · next active =>
            exact ⟨not_not.mp flow, not_not.mp active,
              (Except.ok.inj owned).symm⟩
  · rintro ⟨flow, active, rfl⟩
    rw [if_neg (not_not.mpr flow), if_neg (not_not.mpr active)]

/-- What an admitted completion has found. -/
theorem admission_eq_ok_iff
    {options : CoordinatorOptions}
    {state claimed : State}
    {request : CompleteRequest}
    {upload : UploadPtr} :
    state.admission options request = .ok (upload, claimed) ↔
      request.parts.isEmpty = false ∧
        state.store.find request.uploadId = some upload ∧
          state.claim upload request = .ok claimed ∧
            validateParts options (state.store.objects upload).parts
              request.parts = .ok () := by
  constructor
  · intro admitted
    unfold admission at admitted
    split at admitted
    · cases admitted
    · next nonempty =>
        split at admitted
        · cases admitted
        · next found =>
            split at admitted
            · cases admitted
            · next owned =>
                split at admitted
                · cases admitted
                · next valid =>
                    cases admitted
                    exact ⟨by simpa using nonempty, found, owned, valid⟩
  · rintro ⟨nonempty, found, owned, valid⟩
    rw [admission, nonempty, if_neg Bool.false_ne_true, found]
    dsimp only
    rw [owned]
    dsimp only
    rw [valid]

/-- A completion that is not admitted fails and changes nothing. -/
theorem completeUpload_of_refused
    {options : CoordinatorOptions}
    {state : State}
    {request : CompleteRequest}
    {error : Error}
    (refused : state.admission options request = .error error)
    (now : Nat) :
    state.completeUpload options request now = (.error error, state) := by
  unfold admission at refused
  unfold completeUpload
  by_cases empty : request.parts.isEmpty
  · rw [if_pos empty] at refused ⊢
    cases refused
    rfl
  · rw [if_neg empty] at refused ⊢
    cases found : state.store.find request.uploadId with
    | none =>
        rw [found] at refused
        cases refused
        rfl
    | some upload =>
        rw [found] at refused
        dsimp only at refused ⊢
        cases owned : state.claim upload request with
        | error failed =>
            rw [owned] at refused
            cases refused
            rfl
        | ok claimed =>
            obtain ⟨-, active, rfl⟩ := claim_eq_ok_iff.mp owned
            rw [owned] at refused
            dsimp only at refused ⊢
            cases valid : validateParts options
                (state.store.objects upload).parts request.parts with
            | error invalid =>
                rw [valid] at refused
                cases refused
                dsimp only
                rw [setState_setState_active active]
            | ok =>
                rw [valid] at refused
                cases refused

/-- A completion that is admitted calls the backend, and answers what the
backend answers. -/
theorem completeUpload_of_admitted
    {options : CoordinatorOptions}
    {state claimed : State}
    {request : CompleteRequest}
    {upload : UploadPtr}
    (admitted : state.admission options request = .ok (upload, claimed))
    (now : Nat) :
    (state.completeUpload options request now).1 =
        (state.backend.completeMultipart
          (state.store.objects upload).backendUploadId request.parts now).1 ∧
      (state.completeUpload options request now).2.backend =
        (state.backend.completeMultipart
          (state.store.objects upload).backendUploadId request.parts
          now).2 := by
  obtain ⟨nonempty, found, owned, valid⟩ := admission_eq_ok_iff.mp admitted
  obtain ⟨-, -, rfl⟩ := claim_eq_ok_iff.mp owned
  rw [completeUpload, nonempty, if_neg Bool.false_ne_true, found]
  dsimp only
  rw [owned]
  dsimp only
  rw [valid]
  dsimp only
  rcases state.backend.completeMultipart
    (state.store.objects upload).backendUploadId request.parts now with
    ⟨error | metadata, backend⟩
  · exact ⟨rfl, rfl⟩
  · exact ⟨rfl, rfl⟩

/-- A completion is admitted exactly when it is well formed. -/
theorem admitted_iff_wellFormed
    {options : CoordinatorOptions}
    {state : State}
    {request : CompleteRequest}
    (words : ∀ part ∈ request.parts, part.partNumber < 2 ^ 32) :
    state.Admitted options request ↔ state.WellFormed options request := by
  constructor
  · rintro ⟨upload, claimed, admitted⟩
    obtain ⟨nonempty, found, owned, valid⟩ := admission_eq_ok_iff.mp admitted
    obtain ⟨flow, active, -⟩ := claim_eq_ok_iff.mp owned
    exact ⟨upload, found, flow, active, List.isEmpty_eq_false_iff.mp nonempty,
      (validateParts_eq_ok_iff words).mp valid⟩
  · rintro ⟨upload, found, flow, active, nonempty, wellFormed⟩
    exact ⟨upload, _, admission_eq_ok_iff.mpr
      ⟨List.isEmpty_eq_false_iff.mpr nonempty, found,
        claim_eq_ok_iff.mpr ⟨flow, active, rfl⟩,
        (validateParts_eq_ok_iff words).mpr wellFormed⟩⟩

/-- A completion reaches the backend exactly when it is well formed; any other
one fails and leaves registry and backend as they are. -/
theorem completeUpload_admits_wellFormed
    (options : CoordinatorOptions)
    (state : State)
    (request : CompleteRequest)
    (now : Nat)
    (words : ∀ part ∈ request.parts, part.partNumber < 2 ^ 32) :
    (state.Admitted options request ↔ state.WellFormed options request) ∧
      (∀ upload claimed,
        state.admission options request = .ok (upload, claimed) →
          (state.completeUpload options request now).1 =
            (state.backend.completeMultipart
              (state.store.objects upload).backendUploadId request.parts
              now).1 ∧
          (state.completeUpload options request now).2.backend =
            (state.backend.completeMultipart
              (state.store.objects upload).backendUploadId request.parts
              now).2) ∧
      (¬ state.WellFormed options request →
        ∃ error, state.completeUpload options request now =
          (.error error, state)) := by
  have admits := @admitted_iff_wellFormed options state request words
  refine ⟨admits, ?_, ?_⟩
  · intro upload claimed admitted
    exact completeUpload_of_admitted admitted now
  · intro malformed
    cases decided : state.admission options request with
    | error error => exact ⟨error, completeUpload_of_refused decided now⟩
    | ok admitted =>
        exact absurd (admits.mp ⟨admitted.1, admitted.2, decided⟩) malformed

/-- A gateway with one upload that has one part of one byte. -/
def onePart : State :=
  let created := (State.init 8 10).createUpload ⟨8, 4⟩
    ⟨"bucket", "key", none, "gpu-direct", ""⟩ 0 0
  (created.2.uploadPart created.1.1 1 0 [7] 0 0).2

/-- The completion of its upload. -/
def completeOnePart : CompleteRequest :=
  ⟨mpuId 1 0, [⟨1, makePartEtag 1 1 0⟩], "gpu-direct"⟩

/-- The theorem at the completion of an upload of one part. -/
theorem completeUpload_admits_wellFormed_one_part :
    (onePart.Admitted ⟨8, 4⟩ completeOnePart ↔
        onePart.WellFormed ⟨8, 4⟩ completeOnePart) ∧
      (∀ upload claimed,
        onePart.admission ⟨8, 4⟩ completeOnePart = .ok (upload, claimed) →
          (onePart.completeUpload ⟨8, 4⟩ completeOnePart 0).1 =
            (onePart.backend.completeMultipart
              (onePart.store.objects upload).backendUploadId
              completeOnePart.parts 0).1 ∧
          (onePart.completeUpload ⟨8, 4⟩ completeOnePart 0).2.backend =
            (onePart.backend.completeMultipart
              (onePart.store.objects upload).backendUploadId
              completeOnePart.parts 0).2) ∧
      (¬ onePart.WellFormed ⟨8, 4⟩ completeOnePart →
        ∃ error, onePart.completeUpload ⟨8, 4⟩ completeOnePart 0 =
          (.error error, onePart)) :=
  completeUpload_admits_wellFormed ⟨8, 4⟩ onePart completeOnePart 0 (by decide)

/-- The upload of one part can be completed. -/
example : (onePart.admission ⟨8, 4⟩ completeOnePart).success = true := by decide

end State
end Gateway
end TurboAccess
