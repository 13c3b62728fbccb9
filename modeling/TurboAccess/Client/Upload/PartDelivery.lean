import TurboAccess.Client.Upload.EtagAgreement
import TurboAccess.Gateway.Backend.Assembly
import TurboAccess.Gateway.Multipart.Concatenation
import TurboAccess.Gateway.Multipart.Sequential

/-!
# What the uploads of the parts deliver

The application uploads the parts of an upload of which nothing is staged yet.
When every attempt pulls the buffer of its part, the gateway stages the whole
part or refuses it, however often it is attempted; and a completion that
succeeds installs the parts in the order of their numbers.
-/

namespace TurboAccess
namespace Client

open Gateway (CoordinatorOptions ObjectMetadata UploadPtr makeKey)
open Gateway.Gds (Media stagePart)
open Gateway.Multipart (Covers stagedPart)

/-- An attempt whose bytes are staged. -/
def Attempt.HasStaged : Attempt → Prop
  | .written _ _ => True
  | .tagged _ _ => True
  | .finished (.ok _) => True
  | .unsent | .sent | .found _ | .finished (.error _) => False

namespace PartUploads

/-- What an attempt pulls is the buffer of its part. -/
def Delivers (content : Nat → Bytes) (_ : PartUploads) : Action → Prop
  | .write name (.ok bytes) _ => bytes = content name.1
  | _ => True

/-- An upload that is found and has a destination, and of which no part is
staged. -/
structure Fresh
    (uploads : Gateway.State)
    (uploadId : String)
    (upload : UploadPtr)
    (bucket key : String) : Prop where
  located : uploads.store.find uploadId = some upload
  target : uploads.backend.mpuTargets.lookup (uploads.backendId upload) =
    some (bucket, key)
  unstaged : ∀ part, stagedPart uploads upload part = none

variable
  {md5 : Bytes → Bytes}
  {policy : RetryPolicy}
  {plan : PartsPlan}
  {state next : PartUploads}
  {action : Action}
  {content : Nat → Bytes}
  {upload : UploadPtr}
  {bucket key : String}

/-! ## A part alone -/

/-- A part whose tag is not a digest is uploaded in one attempt, from the call to
its return. -/
theorem part_alone
    {part now : Nat}
    {etag : String}
    {media : Media}
    {call : Option Gateway.Gds.BackendCall}
    (first : 1 ≤ part)
    (last : part ≤ plan.count)
    (waiting : state.calls part = .waiting)
    (unsent : state.attempts (part, 0) = .unsent)
    (passed : state.handle.checkPart (plan.size part) = none)
    (located : state.media.uploads.lookup plan.uploadId = .ok upload)
    (plain : ¬plan.Digests part)
    (staged : stagePart state.media
      (state.media.uploads.store.objects upload).backendUploadId part 0
      (content part) now = (.ok etag, media, call)) :
    ∃ labels final,
      (machine md5 policy plan).Path (Delivers content) state labels final ∧
        final.handle =
          state.handle.recordUploadedPart part etag (plan.size part) ∧
        final.calls = Function.update state.calls part (.succeeded 0 etag) ∧
        final.media =
          { media with
            uploads := media.uploads.registerPart upload part 0
              (plan.size part) etag now } := by
  let called := state.setCall part (.trying 0)
  let sent := called.setAttempt (part, 0) .sent
  let found := sent.setAttempt (part, 0) (.found upload)
  let tagged := { found with media }.setAttempt (part, 0) (.tagged upload etag)
  let finished := { tagged with
    media := { tagged.media with
      uploads := tagged.media.uploads.registerPart upload part 0
        (plan.size part) etag now } }.setAttempt (part, 0)
          (.finished (.ok etag))
  let final := { finished with
    handle := finished.handle.recordUploadedPart part etag
      (plan.size part) }.setCall part (.succeeded 0 etag)
  have sends : (machine md5 policy plan).step called (.send part) = some sent :=
    step_send (Function.update_self _ _ _) unsent
  have receives : (machine md5 policy plan).step sent (.receive (part, 0)) =
      some found :=
    step_receive (Function.update_self _ _ _) located
  have writes : (machine md5 policy plan).step found
      (.write (part, 0) (.ok (content part)) now) = some tagged := by
    have written : (machine md5 policy plan).step found _ = _ :=
      step_write (Function.update_self _ _ _) staged
    rwa [afterStaging, if_neg plain] at written
  have registers : (machine md5 policy plan).step tagged
      (.register (part, 0) now) = some finished :=
    step_register now (Function.update_self _ _ _)
  have accepts : (machine md5 policy plan).step finished (.accept part) =
      some final :=
    step_accept (Function.update_self _ _ _) (Function.update_self _ _ _)
  refine ⟨[.uploadPart part, .send part, .receive (part, 0),
    .write (part, 0) (.ok (content part)) now, .register (part, 0) now,
    .accept part], final, ?_, rfl, ?_, rfl⟩
  · exact .cons trivial (step_uploadPart first last waiting passed)
      (.cons trivial sends (.cons trivial receives (.cons rfl writes
        (.cons trivial registers (.cons trivial accepts .nil)))))
  · exact Function.update_idem _ _ _

/-! ## Staging bytes -/

/-- What is staged of a part after the whole part was written, or refused. -/
def afterWrite (source : Bytes) (before : Option Bytes) :
    Gateway.Result String → Option Bytes
  | .ok _ => some source
  | .error _ => some (before.getD [])

/-- Staging a whole part over nothing longer stages it as it is, or refuses it
and leaves what was staged; other parts stay as they are. -/
theorem stagedPart_of_stagePart
    {media after : Media}
    {number now : Nat}
    {source : Bytes}
    {outcome : Gateway.Result String}
    {call : Option Gateway.Gds.BackendCall}
    (staged : stagePart media (media.uploads.backendId upload) number 0 source
      now = (outcome, after, call))
    (bounded : source.length < wordModulus)
    (covers : ((stagedPart media.uploads upload number).getD []).length ≤
      source.length) :
    after.uploads.backend.mpuTargets = media.uploads.backend.mpuTargets ∧
      after.uploads.backendId upload = media.uploads.backendId upload ∧
      ∀ other, stagedPart after.uploads upload other =
        if other = number then
          afterWrite source (stagedPart media.uploads upload other) outcome
        else stagedPart media.uploads upload other := by
  rcases written : media.uploads.backend.writePart
    (media.uploads.backendId upload) number 0 source now with ⟨result, backend⟩
  rw [stagePart, written] at staged
  cases staged
  cases outcome with
  | error error =>
      obtain ⟨refused, rfl⟩ := Gateway.CompositeBackend.writePart_eq_error written
      exact ⟨rfl, rfl, @Gateway.Multipart.stagedPart_refused media.uploads upload
        ⟨number, 0, source⟩ error refused⟩
  | ok etag =>
      obtain ⟨⟨reply, succeeded⟩, -, rfl⟩ :=
        Gateway.CompositeBackend.writePart_eq_ok written
      have whole : Covers media.uploads
          (.partFound upload ⟨number, 0, source⟩) := by
        rintro other part ⟨⟩
        exact ⟨rfl, bounded, covers⟩
      exact ⟨rfl, rfl, @Gateway.Multipart.stagedPart_written media.uploads upload
        ⟨number, 0, source⟩ reply whole succeeded⟩

/-! ## The invariant -/

/-- The upload keeps its destination, a part is staged whole or is the empty one
that a refused write has left, and an attempt whose bytes are staged has staged
the buffer of its part. -/
structure Delivered
    (content : Nat → Bytes)
    (upload : UploadPtr)
    (bucket key : String)
    (state : PartUploads) : Prop where
  target : state.media.uploads.backend.mpuTargets.lookup
    (state.media.uploads.backendId upload) = some (bucket, key)
  whole : ∀ part bytes, stagedPart state.media.uploads upload part =
    some bytes → bytes = [] ∨ bytes = content part
  staged : ∀ name, (state.attempts name).HasStaged →
    stagedPart state.media.uploads upload name.1 = some (content name.1)

theorem Fresh.delivered
    {media : Media}
    {uploadId : String}
    (fresh : Fresh media.uploads uploadId upload bucket key)
    (content : Nat → Bytes)
    (maxPartSize : Nat) :
    Delivered content upload bucket key (init media maxPartSize) where
  target := fresh.target
  whole := by
    intro part bytes staged
    rw [init, fresh.unstaged part] at staged
    cases staged
  staged := fun _ staged => absurd staged id

/-- What the client does to its calls and to the handle stages nothing. -/
theorem Delivered.setCall
    (delivered : Delivered content upload bucket key state)
    (handle : MultipartUpload)
    (part : Nat)
    (call : UploadCall) :
    Delivered content upload bucket key
      ({ state with handle }.setCall part call) :=
  ⟨delivered.target, delivered.whole, delivered.staged⟩

/-- An attempt goes on without staging anything. -/
theorem Delivered.advance
    (delivered : Delivered content upload bucket key state)
    {name : Nat × Nat}
    {attempt : Attempt}
    {media : Media}
    (target : media.uploads.backend.mpuTargets =
      state.media.uploads.backend.mpuTargets)
    (key_eq : media.uploads.backendId upload =
      state.media.uploads.backendId upload)
    (kept : ∀ part, stagedPart media.uploads upload part =
      stagedPart state.media.uploads upload part)
    (carried : attempt.HasStaged → (state.attempts name).HasStaged) :
    Delivered content upload bucket key
      ({ state with media }.setAttempt name attempt) where
  target := by
    rw [setAttempt_media, target, key_eq]
    exact delivered.target
  whole := by
    intro part bytes staged
    rw [setAttempt_media, kept] at staged
    exact delivered.whole part bytes staged
  staged := by
    intro other staged
    rw [setAttempt_media, kept]
    by_cases same : other = name
    · subst same
      rw [setAttempt_attempts, Function.update_self] at staged
      exact delivered.staged other (carried staged)
    · rw [setAttempt_attempts, Function.update_of_ne same] at staged
      exact delivered.staged other staged

/-- An attempt stages the buffer of its part, or is refused. -/
theorem Delivered.write
    (delivered : Delivered content upload bucket key state)
    {name : Nat × Nat}
    {attempt : Attempt}
    {media : Media}
    {now : Nat}
    {outcome : Gateway.Result String}
    {call : Option Gateway.Gds.BackendCall}
    (written : stagePart state.media (state.media.uploads.backendId upload)
      name.1 0 (content name.1) now = (outcome, media, call))
    (bounded : (content name.1).length < wordModulus)
    (carried : attempt.HasStaged → ∃ etag, outcome = .ok etag) :
    Delivered content upload bucket key
      ({ state with media }.setAttempt name attempt) := by
  have covers : ((stagedPart state.media.uploads upload name.1).getD []).length ≤
      (content name.1).length := by
    cases found : stagedPart state.media.uploads upload name.1 with
    | none => exact Nat.zero_le _
    | some bytes =>
        rcases delivered.whole name.1 bytes found with rfl | rfl
        · exact Nat.zero_le _
        · exact le_rfl
  obtain ⟨target, key_eq, after⟩ :=
    stagedPart_of_stagePart written bounded covers
  refine ⟨?_, ?_, ?_⟩
  · rw [setAttempt_media, target, key_eq]
    exact delivered.target
  · intro part bytes staged
    rw [setAttempt_media, after] at staged
    split at staged
    · next same =>
        subst same
        cases outcome with
        | ok etag => exact .inr (Option.some.inj staged).symm
        | error error =>
            obtain rfl := Option.some.inj staged
            cases found : stagedPart state.media.uploads upload name.1 with
            | none => exact .inl rfl
            | some bytes => exact delivered.whole name.1 bytes found
    · exact delivered.whole part bytes staged
  · intro other staged
    rw [setAttempt_media, after]
    by_cases same : other = name
    · subst same
      rw [setAttempt_attempts, Function.update_self] at staged
      obtain ⟨etag, rfl⟩ := carried staged
      rw [if_pos rfl, afterWrite]
    · rw [setAttempt_attempts, Function.update_of_ne same] at staged
      have before := delivered.staged other staged
      split
      · next part =>
          -- another attempt of the part has staged it already
          rw [part] at before ⊢
          cases outcome with
          | ok etag => rfl
          | error error => rw [afterWrite, before, Option.getD_some]
      · exact before

/-- An attempt that was made is one of a part of the plan. -/
theorem Sound.inRange
    (sound : Sound plan upload state)
    {name : Nat × Nat}
    (made : state.attempts name ≠ .unsent) :
    1 ≤ name.1 ∧ name.1 ≤ plan.count := by
  apply sound.ranged name.1
  intro waiting
  refine made (sound.unmade name.1 name.2 ?_)
  rw [waiting]
  trivial

/-- The bytes of an attempt arrive at the gateway. -/
theorem Delivered.step_write
    (delivered : Delivered content upload bucket key state)
    (sound : Sound plan upload state)
    (bounded : ∀ part, 1 ≤ part → part ≤ plan.count →
      (content part).length < wordModulus)
    {name : Nat × Nat}
    {pulled : Gateway.Result Bytes}
    {now : Nat}
    (allowed : Delivers content state (.write name pulled now))
    (stepped : PartUploads.write plan state name pulled now = some next) :
    Delivered content upload bucket key next := by
  have located : ∀ other, state.attempts name = .found other →
      other = upload ∧ (content name.1).length < wordModulus := by
    intro other found
    have proper := sound.proper name
    have made : state.attempts name ≠ .unsent := by
      rw [found]
      intro unsent
      cases unsent
    have range := sound.inRange made
    rw [found] at proper
    exact ⟨proper, bounded name.1 range.1 range.2⟩
  revert stepped
  fun_cases PartUploads.write plan state name pulled now <;> intro stepped <;>
    cases stepped
  case case1 other found error =>
    exact delivered.advance rfl rfl (fun _ => rfl) False.elim
  case case2 other found bytes error media call refused =>
    obtain ⟨rfl, short⟩ := located other found
    obtain rfl : bytes = content name.1 := allowed
    exact delivered.write refused short False.elim
  case case3 other found bytes etag media call staged =>
    obtain ⟨rfl, short⟩ := located other found
    obtain rfl : bytes = content name.1 := allowed
    exact delivered.write staged short fun _ => ⟨etag, rfl⟩

/-- A step of a run in which attempts deliver what they should. -/
theorem Delivered.step
    (delivered : Delivered content upload bucket key state)
    (sound : Sound plan upload state)
    (bounded : ∀ part, 1 ≤ part → part ≤ plan.count →
      (content part).length < wordModulus)
    (allowed : Delivers content state action)
    (stepped : step md5 policy plan state action = some next) :
    Delivered content upload bucket key next := by
  cases action with
  | uploadPart part =>
      revert stepped
      rw [step]
      fun_cases uploadPart plan state part <;> intro stepped <;> cases stepped
      all_goals exact delivered.setCall _ _ _
  | send part =>
      revert stepped
      rw [step]
      fun_cases send state part <;> intro stepped <;> cases stepped
      exact delivered.advance rfl rfl (fun _ => rfl) False.elim
  | accept part =>
      revert stepped
      rw [step]
      fun_cases accept plan state part <;> intro stepped <;> cases stepped
      exact delivered.setCall _ _ _
  | giveUp part error =>
      revert stepped
      rw [step]
      fun_cases giveUp policy state part error <;> intro stepped <;>
        cases stepped
      all_goals exact delivered.setCall _ _ _
  | refuse name error =>
      revert stepped
      rw [step]
      fun_cases refuse state name error <;> intro stepped <;> cases stepped
      exact delivered.advance rfl rfl (fun _ => rfl) False.elim
  | receive name =>
      revert stepped
      rw [step]
      fun_cases receive plan state name <;> intro stepped <;> cases stepped
      all_goals exact delivered.advance rfl rfl (fun _ => rfl) False.elim
  | write name pulled now =>
      exact delivered.step_write sound bounded allowed stepped
  | digest name =>
      revert stepped
      rw [step]
      fun_cases digest md5 state name <;> intro stepped <;> cases stepped
      next other bytes written fed media =>
        refine delivered.advance rfl rfl (fun _ => rfl) ?_
        rw [written]
        exact id
  | register name now =>
      revert stepped
      rw [step]
      fun_cases register plan state name now <;> intro stepped <;>
        cases stepped
      next other etag tagged media =>
        obtain rfl := sound.upload_eq tagged
        refine delivered.advance rfl ?_ ?_ ?_
        · simp [media, Gateway.State.registerPart, Gateway.State.backendId,
            Gateway.MultipartStore.modify]
        · intro part
          exact Gateway.Multipart.stagedPart_registerPart _ _ _ _ _ _ _ _ _
        · rw [tagged]
          exact fun _ => trivial

/-! ## Runs -/

/-- Attempts and handle are as they should be at the end of a run, and the
gateway has what it should. -/
theorem delivered_of_path
    {media : Media}
    {maxPartSize : Nat}
    {labels : List Action}
    (fresh : Fresh media.uploads plan.uploadId upload bucket key)
    (bounded : ∀ part, 1 ≤ part → part ≤ plan.count →
      (content part).length < wordModulus)
    (path : (machine md5 policy plan).Path (Delivers content)
      (init media maxPartSize) labels state) :
    Sound plan upload state ∧ Delivered content upload bucket key state := by
  let property : PartUploads → Prop := fun state =>
    Sound plan upload state ∧ Delivered content upload bucket key state
  have holds : property state := by
    refine path.preserves ?_
      ⟨sound_init fresh.located, fresh.delivered content maxPartSize⟩
    rintro before action after ⟨sound, delivered⟩ allowed stepped
    exact ⟨sound.step (moves_of_step stepped),
      delivered.step sound bounded allowed stepped⟩
  exact holds

/-- When all calls have succeeded, all parts are staged. -/
theorem stagedPart_of_succeeded
    (sound : Sound plan upload state)
    (delivered : Delivered content upload bucket key state)
    (succeeded : AllSucceeded plan state) :
    ∀ part ∈ List.range' 1 plan.count,
      stagedPart state.media.uploads upload part = some (content part) := by
  intro part member
  rw [List.mem_range'_1] at member
  obtain ⟨attempt, etag, taken⟩ := succeeded part (by omega) (by omega)
  apply delivered.staged (part, attempt)
  rw [sound.answered part attempt etag taken]
  trivial

/-- A completion that succeeds after all calls have succeeded installs the parts
in the order of their numbers. -/
theorem body_of_completeUpload
    {options : CoordinatorOptions}
    {parts : List PartRef}
    {dataPath : String}
    {now : Nat}
    {metadata : ObjectMetadata}
    {after : Gateway.State}
    (sound : Sound plan upload state)
    (delivered : Delivered content upload bucket key state)
    (succeeded : AllSucceeded plan state)
    (snapshot : state.handle.snapshotPartsForComplete = .ok parts)
    (completed : state.media.uploads.completeUpload options
      ⟨plan.uploadId, partRecords parts, dataPath⟩ now =
        (.ok metadata, after)) :
    after.backend.data.body (makeKey bucket key) =
      (List.range' 1 plan.count).flatMap content := by
  rw [MultipartUpload.snapshotPartsForComplete, sound.unfinished] at snapshot
  cases snapshot
  cases admitted : state.media.uploads.admission options
      ⟨plan.uploadId, partRecords state.handle.parts, dataPath⟩ with
  | error error =>
      rw [Gateway.State.completeUpload_of_refused admitted now] at completed
      cases completed
  | ok outcome =>
      obtain ⟨other, claimed⟩ := outcome
      obtain ⟨-, found, -, -⟩ :=
        Gateway.State.admission_eq_ok_iff.mp admitted
      have located := sound.located
      rw [found] at located
      obtain rfl := Option.some.inj located
      obtain ⟨answer, backend⟩ :=
        Gateway.State.completeUpload_of_admitted admitted now
      rw [completed] at answer backend
      obtain ⟨staging, staged, -, bodies, -⟩ :=
        Gateway.CompositeBackend.installed_of_completeMultipart delivered.target
          (Prod.ext answer.symm backend.symm)
      have pieces : ∀ part ∈ List.range' 1 plan.count,
          staging.parts.lookup part = some (content part) := by
        intro part member
        have present := stagedPart_of_succeeded sound delivered succeeded part
          member
        rw [stagedPart, staged] at present
        exact present
      rw [Gateway.MemoryDataStore.body, bodies, Finmap.lookup_insert,
        Option.getD_some, Gateway.Multipart.orderedNumbers_of_perm
          (sound.partRecords_perm succeeded),
        Gateway.MemoryDataStore.assembledBytes_eq pieces]

end PartUploads
end Client
end TurboAccess
