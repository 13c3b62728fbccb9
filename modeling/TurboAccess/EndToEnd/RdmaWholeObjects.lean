import TurboAccess.EndToEnd.RdmaBytes
import TurboAccess.EndToEnd.RdmaWriters

/-!
# Objects are written whole on the CPU path

However calls, remote writes and active messages are delayed, repeated and lost,
and however the handlers of the gateway interleave, an object that clients write
has the bytes that it had at first, or exactly those of one of the writes; and
from the moment a client reports success on, it has those of a write, and is
registered with the length of one.

The invariant ties what is on its way to the jobs of the clients: an identifier
of a session is of one client, so that what arrives under it is about the object
of that client, and brings its bytes.
-/

namespace TurboAccess
namespace EndToEnd
namespace Rdma

open Client.Gds (TransferOutcome)
open Client.RdmaTransferPath (PutCall RdmaClientOptions)
open Gateway (CompositeBackend Draw OpenSessionParams SessionPtr SessionStore
  makeKey)
open Gateway.Gds (Extends SameObject)
open Gateway.Rdma (Frame Input State Steps openHook openHook_cases
  steps_of_advance)
open Gateway.Ucx (UcxExecutor UcxOptions overComposite)

/-! ## The invariant -/

section Invariant

variable
  (jobs : Nat → Option PutJob)
  (owner : String → Option Nat)

/-- Every session is of the object of the client whose identifier it bears. -/
def SessionsSound (sessions : SessionStore) : Prop :=
  ∀ ptr < sessions.allocated,
    Suits jobs (owner (sessions.objects ptr).sessionId)
      (objectOf (sessions.objects ptr))

/-- The session that a handler has in hand. -/
def session : Frame → Option SessionPtr
  | .call frame => frame.session
  | frame => opened frame

/-- A handler that works for a client has a session under an identifier of that
client. -/
def FrameSound
    (sessions : SessionStore)
    (serving : Option (Nat × PutCall))
    (frame : Frame) : Prop :=
  ∀ ptr, session frame = some ptr →
    ptr < sessions.allocated ∧
      ∀ client opening, serving = some (client, .openSession opening) →
        owner (sessions.objects ptr).sessionId = some client

/-- What is on its way from a client. -/
def CallSound (client : Nat) : PutCall → Prop
  | .openSession opening => ∃ job, jobs client = some job ∧ Opens job opening
  | .prepareTransfer sessionId _ => owner sessionId = some client
  | .putAndNotify _ data size _ _ sessionId _ =>
      owner sessionId = some client ∧
        ∃ job, jobs client = some job ∧ data = job.buffer.data ∧
          size = job.buffer.size
  | .commitObject request =>
      owner request.sessionId = some client ∧
        ∃ job, jobs client = some job ∧
          request.bytesTransferred = job.payload.length
  | .commitPart _ => False
  | .abortSession sessionId => owner sessionId = some client
  | _ => True

/-- What a client was given. -/
structure PositionSound
    (backend : CompositeBackend)
    (client : Nat)
    (position : Position) : Prop where
  sessions : ∀ sessionId ∈ position.sessions, owner sessionId = some client
  stored : position.stored = true → ∀ job, jobs client = some job →
    Written jobs backend job.object ∧ Registered jobs backend job.object

/-- The invariant of the network. -/
structure Sound
    (first : CompositeBackend)
    (host : Host)
    (sent : List (Nat × PutCall))
    (positions : Nat → Position) : Prop where
  pool : Gateway.Rdma.Sound host.pool
  sessions : SessionsSound jobs owner host.pool.shared.sessions
  ucx : UcxSound jobs owner host.landed host.pool.shared.ucx
  frames : ∀ thread, FrameSound owner host.pool.shared.sessions
    (host.serving thread) (host.pool.threads thread)
  sent : ∀ client call, (client, call) ∈ sent →
    CallSound jobs owner client call
  positions : ∀ client, PositionSound jobs owner
    host.pool.shared.ucx.backend.1 client (positions client)
  whole : ∀ id, Target jobs id →
    host.pool.shared.ucx.backend.1.data.body id = first.data.body id ∨
      Written jobs host.pool.shared.ucx.backend.1 id

end Invariant

section Preservation

variable
  {jobs : Nat → Option PutJob}
  {owner : String → Option Nat}
  {options : UcxOptions}

/-! ### Sessions -/

theorem SessionsSound.of_extends
    {sessions later : SessionStore}
    (sound : SessionsSound jobs owner sessions)
    (extends_ : Extends sessions later)
    (allocated : later.allocated = sessions.allocated) :
    SessionsSound jobs owner later := by
  intro ptr exists_
  rw [allocated] at exists_
  obtain ⟨state, same⟩ := extends_.objects ptr exists_
  rw [same]
  exact sound ptr exists_

/-- A section of the session store keeps every session of the object of its
client, when a new one is. -/
theorem SessionsSound.moves
    {sessions later : SessionStore}
    {before after : Gateway.SessionPool.Frame}
    {input : Gateway.SessionPool.Input}
    {who : Option Nat}
    (sound : SessionsSound jobs owner sessions)
    (moved : Gateway.SessionPool.advance sessions before input =
      some (later, after))
    (creates : ∀ req draw, input = .create req draw →
      Named owner who sessions req draw ∧
        Suits jobs who (makeKey req.bucket req.objectKey)) :
    SessionsSound jobs owner later := by
  have moves := Gateway.SessionPool.moves_of_advance moved
  rcases moves.allocated_cases with same | ⟨req, _, _, rfl, -, rfl⟩
  · exact sound.of_extends (.of_moves moves) same
  · obtain ⟨draw, rfl, missed⟩ := Gateway.SessionPool.advance_eq_made moved
    have allocates : (sessions.allocate req draw).2 = later := by
      rw [Gateway.SessionPool.advance, missed] at moved
      cases moved
      rfl
    obtain ⟨named, suits⟩ := creates req draw rfl
    rw [Named, missed] at named
    rw [← allocates]
    intro ptr exists_
    rcases Nat.lt_or_eq_of_le (Nat.le_of_lt_succ exists_) with older | rfl
    · have kept : (sessions.allocate req draw).2.objects ptr =
          sessions.objects ptr := Function.update_of_ne older.ne _ _
      rw [kept]
      exact sound ptr older
    · have own : (sessions.allocate req draw).2.objects sessions.allocated =
          sessions.newSession req draw := Function.update_self _ _ _
      rw [own, named]
      exact suits

theorem FrameSound.of_none
    {sessions : SessionStore}
    {serving : Option (Nat × PutCall)}
    {frame : Frame}
    (absent : session frame = none) :
    FrameSound owner sessions serving frame := by
  intro ptr known
  rw [absent] at known
  cases known

theorem FrameSound.of_extends
    {sessions later : SessionStore}
    {serving : Option (Nat × PutCall)}
    {frame : Frame}
    (sound : FrameSound owner sessions serving frame)
    (extends_ : Extends sessions later) :
    FrameSound owner later serving frame := by
  intro ptr isSession
  obtain ⟨exists_, own⟩ := sound ptr isSession
  rw [(extends_.objects ptr exists_).sessionId]
  exact ⟨exists_.trans_le extends_.allocated, own⟩

/-- A handler that begins to work for a client works for the one whose
identifiers it is asked for. -/
def Works (who : Option Nat) (serving : Option (Nat × PutCall)) : Prop :=
  ∀ client opening, serving = some (client, .openSession opening) →
    who = some client

/-- A handler that opens a session has one that bears an identifier of the
client it works for. -/
theorem FrameSound.moves
    {sessions later : SessionStore}
    {before after : Gateway.SessionPool.Frame}
    {input : Gateway.SessionPool.Input}
    {who : Option Nat}
    {serving : Option (Nat × PutCall)}
    (hand : FrameSound owner sessions serving (.call before))
    (stored : sessions.Named)
    (moved : Gateway.SessionPool.advance sessions before input =
      some (later, after))
    (creates : ∀ req draw, input = .create req draw →
      Named owner who sessions req draw)
    (works : before = .idle → Works who serving) :
    FrameSound owner later serving (.call after) := by
  have grows : Extends sessions later :=
    .of_moves (Gateway.SessionPool.moves_of_advance moved)
  revert moved
  fun_cases Gateway.SessionPool.advance sessions before input
  all_goals
    intro moved
    simp only [Option.some.injEq, Prod.mk.injEq, reduceCtorEq] at moved
  all_goals obtain ⟨rfl, rfl⟩ := moved
  case case1 req draw answer known =>
    cases answer with
    | error error => exact .of_none rfl
    | ok ptr =>
        rintro _ ⟨⟩
        have exists_ := (stored.byIdempotency _ ptr
          (SessionStore.lookupKey_eq_ok known)).1
        have named := creates req draw rfl
        rw [Named, known] at named
        exact ⟨exists_, fun client opening serves =>
          named.trans (works rfl client opening serves)⟩
  case case2 req draw missed ptr made allocated =>
    cases allocated
    rintro _ ⟨⟩
    have named := creates req draw rfl
    rw [Named, missed] at named
    refine ⟨Nat.lt_succ_self _, fun client opening serves => ?_⟩
    change owner (Function.update sessions.objects _ _ _).sessionId = _
    rw [Function.update_self]
    exact named.trans (works rfl client opening serves)
  case case6 | case7 | case8 =>
    intro ptr isSession
    exact (FrameSound.of_extends hand grows) ptr isSession
  all_goals exact .of_none rfl

/-! ### The sections of a handler -/

/-- What is known of what drives a handler, for a client or for nobody. -/
def Drives
    (jobs : Nat → Option PutJob)
    (owner : String → Option Nat)
    (host : Host)
    (who : Option Nat)
    (new : List (String × Nat)) : Input Backend → Prop
  | .session (.create req draw) =>
      new = [] ∧ Named owner who host.pool.shared.sessions req draw ∧
        Suits jobs who (makeKey req.bucket req.objectKey)
  | .ucx event =>
      Gateway.Rdma.isOpening event = false → Asks jobs owner host who new event
  | .backend backend =>
      new = [] ∧ ∀ id, Target jobs id →
        SameObject id host.pool.shared.ucx.backend.1 backend.1
  | _ => new = []

/-- What a section of a handler does: sessions stay those of the objects of
their clients, the executor stays sound, objects are left alone or written, and
the handler knows what it has in hand. -/
structure Does
    (jobs : Nat → Option PutJob)
    (owner : String → Option Nat)
    (host : Host)
    (landed : List (String × Nat))
    (next : State Backend)
    (serving : Option (Nat × PutCall))
    (after : Frame) : Prop where
  extends_ : Extends host.pool.shared.sessions next.sessions
  sessions : SessionsSound jobs owner next.sessions
  ucx : UcxSound jobs owner landed next.ucx
  progress : Progress jobs host.pool.shared.ucx.backend.1 next.ucx.backend.1
  hand : FrameSound owner next.sessions serving after

section Does

variable
  {host : Host}
  {first : CompositeBackend}
  {sent : List (Nat × PutCall)}
  {positions : Nat → Position}
  {who : Option Nat}
  {serving : Option (Nat × PutCall)}
  {new : List (String × Nat)}

/-- The hook enters a session for its object. -/
theorem SessionsSound.asks_of_view
    {ptr : SessionPtr}
    {view : Gateway.Ucx.Session}
    (sound : SessionsSound jobs owner host.pool.shared.sessions)
    (exists_ : ptr < host.pool.shared.sessions.allocated)
    (viewed : Gateway.Rdma.ucxSession
      (host.pool.shared.sessions.objects ptr) = some view) :
    Asks jobs owner host
      (owner (host.pool.shared.sessions.objects ptr).sessionId) []
      (.sessionOpened view) := by
  unfold Gateway.Rdma.ucxSession at viewed
  split at viewed <;> cases viewed
  exact
    { named := by rintro _ ⟨⟩; rfl
      opens := by rintro _ ⟨⟩; exact sound ptr exists_
      writes := by rintro _ _ ⟨⟩
      announces := by rintro _ ⟨⟩
      commits := by rintro _ ⟨⟩
      reaches := by rintro _ _ ⟨⟩ }

/-- The hook of a handler that works for a client. -/
theorem Sound.hook
    {req : OpenSessionParams}
    {ptr : SessionPtr}
    (sound : Sound jobs owner first host sent positions)
    (gds : Option (Gateway.Result Bool))
    (hand : FrameSound owner host.pool.shared.sessions serving
      (.call (.created req (.ok ptr)))) :
    Does jobs owner host host.landed (openHook host.pool.shared ptr gds).2
      serving (.opened (openHook host.pool.shared ptr gds).1) := by
  obtain ⟨exists_, served⟩ := hand ptr rfl
  have answers : ∀ other,
      (openHook host.pool.shared ptr gds).1 = .ok other → other = ptr := by
    intro other answer
    unfold openHook at answer
    dsimp only at answer
    unfold SessionStore.finishOpen at answer
    split at answer <;> cases answer
    rfl
  have hands : ∀ later : SessionStore,
      Extends host.pool.shared.sessions later →
        FrameSound owner later serving
          (.opened (openHook host.pool.shared ptr gds).1) := by
    intro later extends_ other isSession
    cases answer : (openHook host.pool.shared ptr gds).1 with
    | error error =>
        rw [answer] at isSession
        cases isSession
    | ok result =>
        rw [answer] at isSession
        cases isSession
        rw [answers _ answer]
        exact (FrameSound.of_extends hand extends_) ptr rfl
  have unchanged : Progress jobs host.pool.shared.ucx.backend.1
      host.pool.shared.ucx.backend.1 := .of_sameObject fun id _ => .refl id _
  rcases openHook_cases host.pool.shared ptr gds with
    ⟨_, same⟩ | ⟨_, sessions, only, same⟩
  · have kept : Extends host.pool.shared.sessions host.pool.shared.sessions :=
      ⟨le_rfl, fun _ _ => .refl _⟩
    have hand := hands _ kept
    rw [same]
    unfold Gateway.Rdma.hookUcx
    split
    · exact ⟨kept, sound.sessions, sound.ucx, unchanged, hand⟩
    · next view viewed =>
        have effect : UcxExecutor.Handles overComposite (.default "")
            host.pool.shared.ucx (.sessionOpened view)
            (host.pool.shared.ucx.onSessionOpened view) := .opened view
        obtain ⟨ucx, progress⟩ := sound.ucx.handles sound.pool.owned effect
          (sound.sessions.asks_of_view exists_ viewed)
        exact ⟨kept, sound.sessions, ucx, progress, hand⟩
  · have extends_ : Extends host.pool.shared.sessions sessions :=
      ⟨only.allocated.ge, fun ptr _ => only.objects ptr⟩
    have hand := hands sessions extends_
    rw [same]
    exact ⟨extends_, sound.sessions.of_extends extends_ only.allocated,
      sound.ucx, unchanged, hand⟩

/-- Every section of a handler. -/
theorem Sound.does
    {before after : Frame}
    {input : Input Backend}
    {next : State Backend}
    (sound : Sound jobs owner first host sent positions)
    (steps : Steps overComposite options host.pool.shared before input next
      after)
    (drives : Drives jobs owner host who new input)
    (works : before = .call .idle → Works who serving)
    (hand : FrameSound owner host.pool.shared.sessions serving before) :
    Does jobs owner host (new ++ host.landed) next serving after := by
  have unchanged : Progress jobs host.pool.shared.ucx.backend.1
      host.pool.shared.ucx.backend.1 := .of_sameObject fun id _ => .refl id _
  have kept : Extends host.pool.shared.sessions host.pool.shared.sessions :=
    ⟨le_rfl, fun _ _ => .refl _⟩
  cases steps with
  | session before after input sessions moved =>
      have silent : new = [] := by
        cases input with
        | create req draw => exact drives.1
        | change | sweep | visit | proceed => exact drives
      subst silent
      have creates : ∀ req draw, input = .create req draw →
          Named owner who host.pool.shared.sessions req draw ∧
            Suits jobs who (makeKey req.bucket req.objectKey) := by
        rintro req draw rfl
        exact drives.2
      refine ⟨.of_moves (Gateway.SessionPool.moves_of_advance moved),
        sound.sessions.moves moved creates, sound.ucx, unchanged, ?_⟩
      refine hand.moves sound.pool.grounded.named moved
        (fun req draw same => (creates req draw same).1) ?_
      rintro rfl
      exact works rfl
  | hook req ptr gds =>
      obtain rfl : new = [] := drives
      exact sound.hook gds hand
  | ucx event ucx other handled =>
      have effect := Gateway.Ucx.UcxExecutor.handles_of_handle
        sound.pool.owned handled
      obtain ⟨executor, progress⟩ :=
        sound.ucx.handles sound.pool.owned effect (drives other)
      exact ⟨kept, sound.sessions, executor, progress, .of_none rfl⟩
  | backend backend =>
      obtain ⟨rfl, same⟩ := drives
      have progress : Progress jobs host.pool.shared.ucx.backend.1 backend.1 :=
        .of_sameObject same
      refine ⟨kept, sound.sessions, ?_, progress, .of_none rfl⟩
      refine ⟨fun sessionId entry found => ?_, ?_, sound.ucx.below, ?_⟩
      · have known := sound.ucx.entries sessionId entry found
        exact ⟨known.suits, known.shows, known.written, known.waiting⟩
      · exact ⟨sound.ucx.numbered.below, sound.ucx.numbered.unique⟩
      · intro reply member
        exact (sound.ucx.replies reply member).progress progress

/-- A section of a handler keeps the invariant. -/
theorem Sound.section_
    {thread : Nat}
    {input : Input Backend}
    {pool : Pool (State Backend) Frame}
    {later : Host}
    (sound : Sound jobs owner first host sent positions)
    (stepped : host.pool.step (Gateway.Rdma.advance overComposite options)
      (thread, input) = some pool)
    (drives : Drives jobs owner host who new input)
    (works : host.pool.threads thread = .call .idle → Works who serving)
    (kept : host.pool.threads thread ≠ .call .idle →
      serving = host.serving thread)
    (after : later.pool = pool)
    (serves : later.serving = Function.update host.serving thread serving)
    (landed : later.landed = new ++ host.landed) :
    Sound jobs owner first later sent positions := by
  obtain ⟨next, frame, moved, rfl⟩ := Pool.step_eq_some stepped
  have steps := steps_of_advance moved
  have hand : FrameSound owner host.pool.shared.sessions serving
      (host.pool.threads thread) := by
    by_cases idle : host.pool.threads thread = .call .idle
    · rw [idle]
      exact .of_none rfl
    · rw [kept idle]
      exact sound.frames thread
  have does := sound.does steps drives works hand
  refine
    { pool := after ▸ sound.pool.steps steps
      sessions := after ▸ does.sessions
      ucx := by rw [landed, after]; exact does.ucx
      frames := ?_
      sent := sound.sent
      positions := ?_
      whole := ?_ }
  · intro other
    rw [after, serves]
    by_cases same : other = thread
    · subst same
      simpa using does.hand
    · simpa [Function.update_of_ne same] using
        (sound.frames other).of_extends does.extends_
  · intro client
    have position := sound.positions client
    refine ⟨position.sessions, fun stored job known => ?_⟩
    have done := position.stored stored job known
    rw [after]
    exact ⟨does.progress.written done.1, does.progress.registered done.2⟩
  · rw [after]
    exact does.progress.whole sound.whole

end Does

/-! ### What drives a handler -/

/-- What arrives from a client concerns its own sessions and its own bytes. -/
theorem drives_of_takesUp
    {host : Host}
    {client : Nat}
    {call : PutCall}
    {input : Input Backend}
    (sound : CallSound jobs owner client call)
    (takesUp : TakesUp host.pool.shared.ucx call input)
    (arrives_ : Arrives jobs owner host client call input) :
    Drives jobs owner host (some client)
      (reached host.pool.shared.ucx call input) input := by
  revert takesUp
  fun_cases TakesUp host.pool.shared.ucx call input
  all_goals intro takesUp
  case case1 opening req draw =>
    subst takesUp
    obtain ⟨job, known, opens⟩ := sound
    refine ⟨rfl, arrives_, fun _ => Option.some_ne_none client, ?_⟩
    rintro _ ⟨⟩
    refine ⟨job, known, ?_⟩
    rw [PutJob.object, ← opens.bucket, ← opens.key]
    rfl
  case case2 sessionId transferBytes asked bytes allocation =>
    obtain ⟨rfl, rfl⟩ := takesUp
    intro _
    exact
      { named := by rintro _ ⟨⟩; exact sound
        opens := by rintro _ ⟨⟩
        writes := by rintro _ _ ⟨⟩
        announces := by rintro _ ⟨⟩
        commits := by rintro _ ⟨⟩
        reaches := by rintro _ _ ⟨⟩ }
  case case3 ep data size gwRaddr gwRkey sessionId deadline slot bytes =>
    obtain ⟨owns, job, known, sameData, sameSize⟩ := sound
    obtain ⟨misses, carries⟩ := arrives_
    intro _
    refine
      { named := by rintro _ ⟨⟩
        opens := by rintro _ ⟨⟩
        writes := ?_
        announces := by rintro _ ⟨⟩
        commits := by rintro _ ⟨⟩
        reaches := ?_ }
    · rintro _ _ ⟨⟩
      refine ⟨misses, ?_⟩
      rintro _ own ⟨⟩ ownJob
      cases known.symm.trans ownJob
      exact carries job known sameData (takesUp.1.trans sameSize)
    · intro other serial member
      simp only [reached] at member
      split at member
      · next entry found =>
          split at member
          · next held =>
              cases List.mem_singleton.mp member
              exact ⟨owns, slot, bytes, entry, rfl, found, held, rfl⟩
          · cases member
      · cases member
  case case4 ep data size gwRaddr gwRkey sessionId deadline announced =>
    subst takesUp
    intro _
    exact
      { named := by rintro _ ⟨⟩; exact sound.1
        opens := by rintro _ ⟨⟩
        writes := by rintro _ _ ⟨⟩
        announces := by rintro _ ⟨⟩ _; exact arrives_
        commits := by rintro _ ⟨⟩
        reaches := by rintro _ _ ⟨⟩ }
  case case5 request sessionId bytes checksum =>
    subst takesUp
    obtain ⟨owns, job, known, length⟩ := sound
    intro _
    refine
      { named := by rintro _ ⟨⟩; exact owns
        opens := by rintro _ ⟨⟩
        writes := by rintro _ _ ⟨⟩
        announces := by rintro _ ⟨⟩
        commits := ?_
        reaches := by rintro _ _ ⟨⟩ }
    rintro _ ⟨⟩ other otherJob own ownJob
    cases owns.symm.trans own
    cases known.symm.trans ownJob
    exact ⟨rfl, length⟩
  case case6 sessionId aborted =>
    subst takesUp
    intro _
    exact
      { named := by rintro _ ⟨⟩; exact sound
        opens := by rintro _ ⟨⟩
        writes := by rintro _ _ ⟨⟩
        announces := by rintro _ ⟨⟩
        commits := by rintro _ ⟨⟩
        reaches := by rintro _ _ ⟨⟩ }
  case case7 => exact takesUp.elim

/-- What others do concerns sessions of nobody. -/
theorem drives_of_foreign
    {host : Host}
    {input : Input Backend}
    (foreign : Foreign jobs owner host input) :
    Drives jobs owner host none [] input := by
  revert foreign
  fun_cases Foreign jobs owner host input
  all_goals intro foreign
  case case1 req draw =>
    exact ⟨rfl, foreign.2, fun target => absurd target foreign.1,
      by rintro _ ⟨⟩⟩
  case case2 slot data =>
    intro _
    exact
      { named := by rintro _ ⟨⟩
        opens := by rintro _ ⟨⟩
        writes := by rintro _ _ ⟨⟩; exact ⟨foreign, by rintro _ _ ⟨⟩⟩
        announces := by rintro _ ⟨⟩
        commits := by rintro _ ⟨⟩
        reaches := by rintro _ _ ⟨⟩ }
  case case3 event unwritten =>
    intro unopened
    refine
      { named := foreign
        opens := ?_
        writes := fun slot data same => absurd same (unwritten slot data)
        announces := fun _ _ known => absurd rfl known
        commits := ?_
        reaches := by rintro _ _ ⟨⟩ }
    · rintro session rfl
      cases unopened
    · intro request requested client job own
      have named := foreign request.sessionId
        (Gateway.Ucx.UcxExecutor.sessionId_of_request requested)
      rw [named] at own
      cases own
  case case4 backend => exact ⟨rfl, foreign⟩
  case case5 =>
    unfold Drives
    split <;> first | rfl | simp_all

/-! ### The network -/

variable
  {first : CompositeBackend}
  {host : Host}
  {sent : List (Nat × PutCall)}
  {positions : Nat → Position}

/-- A step of the gateway keeps the invariant. -/
theorem Sound.serve
    {later : Host}
    {clients : Nat → Program PutCall PutCall.Answer
      (Client.Result TransferOutcome)}
    {input : HostInput}
    (sound : Sound jobs owner first host sent positions)
    (allowed : Environment jobs owner ⟨host, sent, clients⟩ (.serve input))
    (served : serve options sent host input = some later) :
    Sound jobs owner first later sent positions := by
  cases input with
  | take thread client call input =>
      rw [Rdma.serve] at served
      split at served
      · next arrived =>
          obtain ⟨pool, stepped, rfl⟩ := Option.map_eq_some_iff.mp served
          have drives := drives_of_takesUp
            (sound.sent client call arrived.1) arrived.2.1 allowed
          refine sound.section_ stepped drives (fun _ => ?_)
            (fun busy => absurd arrived.2.2 busy) rfl rfl rfl
          rintro other opening ⟨⟩
          rfl
      · cases served
  | go thread input =>
      obtain ⟨pool, stepped, rfl⟩ := Option.map_eq_some_iff.mp served
      have drives := drives_of_foreign allowed
      by_cases idle : host.pool.threads thread = .call .idle
      · have works : Works none (none : Option (Nat × PutCall)) :=
          fun _ _ serves => by cases serves
        exact sound.section_ stepped drives (fun _ => works)
          (fun busy => absurd idle busy) rfl (if_pos idle) rfl
      · refine sound.section_ stepped drives (fun begun => absurd begun idle)
          (fun _ => rfl) rfl ?_ rfl
        rw [Function.update_eq_self]
        exact if_neg idle

/-- What is sent is of the job of the client. -/
theorem Sound.send
    {client : Nat}
    {call : PutCall}
    (sound : Sound jobs owner first host sent positions)
    (allowed : (putProtocol (jobs client)).allows (positions client) call) :
    Sound jobs owner first host ((client, call) :: sent) positions := by
  have owns := (sound.positions client).sessions
  refine { sound with sent := ?_ }
  intro other request member
  rcases List.mem_cons.mp member with same | member
  · cases same
    cases call with
    | openSession opening => exact allowed
    | prepareTransfer sessionId transferBytes => exact owns sessionId allowed
    | putAndNotify ep data size gwRaddr gwRkey sessionId deadline =>
        obtain ⟨given, job, known, sameData, sameSize⟩ := allowed
        exact ⟨owns sessionId given, job, known, sameData, sameSize⟩
    | commitObject request =>
        obtain ⟨given, job, known, size⟩ := allowed
        refine ⟨owns _ given, job, known, ?_⟩
        rw [size, job.size]
    | commitPart request => exact allowed
    | abortSession sessionId => exact owns sessionId allowed
    | now | randomWord | acquire | unpackRkey | giveBack | discard => trivial
  · exact sound.sent other request member

/-- A session that a handler has opened for a client bears an identifier of the
client. -/
theorem Sound.owns
    {client thread : Nat}
    {opening : Client.Gds.SessionOpening}
    {response : Client.OpenSessionResponse}
    (sound : Sound jobs owner first host sent positions)
    (answered : possible host client thread
      ⟨.openSession opening, .answered response⟩ = true) :
    owner response.sessionId = some client := by
  obtain ⟨serves, answer⟩ := of_decide_eq_true answered
  obtain ⟨ptr, opens, rfl⟩ := Option.map_eq_some_iff.mp answer
  have holds : session (host.pool.threads thread) = some ptr := by
    revert opens
    fun_cases opened (host.pool.threads thread) <;> intro opens <;> cases opens
    rfl
  exact (sound.frames thread ptr holds).2 client opening serves

/-- The object of a client whose commit was answered is written and
registered. -/
theorem Sound.stored
    {client thread : Nat}
    {job : PutJob}
    {request : Client.RdmaTransferPath.RdmaCommitRequest}
    {info : Gateway.Ucx.UcxCommitInfo}
    (sound : Sound jobs owner first host sent positions)
    (known : jobs client = some job)
    (owns : owner request.sessionId = some client)
    (answered : possible host client thread
      ⟨.commitObject request, .answered info⟩ = true) :
    Written jobs host.pool.shared.ucx.backend.1 job.object ∧
      Registered jobs host.pool.shared.ucx.backend.1 job.object := by
  obtain ⟨commit, _, _, rfl, reply, replied, same, result⟩ :=
    of_decide_eq_true answered
  have succeeded : ¬reply.result.Failed := by
    intro failed
    split at result
    · next answer isAnswer =>
        rw [isAnswer] at failed
        exact failed
    · exact result
  refine sound.ucx.replies reply replied succeeded client job ?_ known
  rw [same]
  exact owns

/-- What a client is answered is of its job. -/
theorem Sound.receive
    {client thread : Nat}
    {call : PutCall}
    {reply : PutCall.Answer call}
    (sound : Sound jobs owner first host sent positions)
    (asks : (putProtocol (jobs client)).allows (positions client) call)
    (answered : possible host client thread ⟨call, reply⟩ = true) :
    Sound jobs owner first host sent
      (Function.update positions client
        ((putProtocol (jobs client)).next (positions client)
          ⟨call, reply⟩)) := by
  refine { sound with positions := ?_ }
  intro other
  by_cases same : other = client
  · subst same
    rw [Function.update_self]
    have position := sound.positions other
    cases call with
    | openSession opening =>
        cases reply with
        | answered response =>
            have owns := sound.owns answered
            exact ⟨List.forall_mem_cons.mpr ⟨owns, position.sessions⟩,
              position.stored⟩
        | notInitialized | failed => exact position
    | commitObject request =>
        cases reply with
        | answered info =>
            have owns := position.sessions request.sessionId asks.1
            exact ⟨position.sessions,
              fun _ job known => sound.stored known owns answered⟩
        | notInitialized | failed => exact position
    | now | randomWord | prepareTransfer | acquire | unpackRkey | putAndNotify
    | commitPart | giveBack | discard | abortSession => exact position
  · rw [Function.update_of_ne same]
    exact sound.positions other

end Preservation

/-! ## The theorem -/

/-- The writers and their gateway. -/
abbrev PutNetwork : Type :=
  Network Host PutCall PutCall.Answer (Client.Result TransferOutcome)

/-- The backend of the gateway. -/
abbrev backendOf (network : PutNetwork) : CompositeBackend :=
  network.service.pool.shared.ucx.backend.1

/-- Objects are written whole, and what is reported is there. -/
structure WrittenWhole
    (jobs : Nat → Option PutJob)
    (start network : PutNetwork) : Prop where
  whole : ∀ id, Target jobs id →
    (backendOf network).data.body id = (backendOf start).data.body id ∨
      Written jobs (backendOf network) id
  reported : ∀ client job outcome, jobs client = some job →
    network.clients client = .done (.ok outcome) →
      outcome.bytesTransferred = job.payload.length ∧
        Written jobs (backendOf network) job.object ∧
        Registered jobs (backendOf network) job.object
  alone : ∀ client job outcome, jobs client = some job →
    (∀ other rival, jobs other = some rival → rival.object = job.object →
      other = client) →
      network.clients client = .done (.ok outcome) →
        (backendOf network).data.body job.object = job.payload ∧
          ∃ metadata, (backendOf network).head job.request.bucket
              job.request.key = .ok metadata ∧
            metadata.contentLength = job.payload.length

section Runs

variable
  {options : UcxOptions}
  {rdma : Nat → RdmaClientOptions}
  {crcOfBytes : Bytes → String}
  {jobs : Nat → Option PutJob}
  {owner : String → Option Nat}

/-- What is known of the end of a client. -/
def Ends
    (jobs : Nat → Option PutJob)
    (client : Nat)
    (position : Position)
    (result : Client.Result TransferOutcome) : Prop :=
  ∀ job, jobs client = some job → Reports job position result

/-- The invariant is one of the network. -/
theorem keeps_sound (first : CompositeBackend) :
    Network.Keeps possible (serve options) (Environment jobs owner)
      (fun client => putProtocol (jobs client)) (Sound jobs owner first) where
  send := fun _ _ _ _ sound allowed => sound.send allowed
  receive := fun _ _ _ _ _ _ _ sound _ _ asks answered =>
    ⟨trivial, sound.receive asks answered⟩
  serve := fun _ _ _ _ sound allowed served => sound.serve allowed served

theorem follow_programs
    (network : PutNetwork)
    (clients : network.clients = programs rdma crcOfBytes jobs) :
    Network.Follow (fun client => putProtocol (jobs client)) (Ends jobs) network
      fun _ => .start := by
  intro client
  rw [clients, programs]
  cases known : jobs client with
  | none =>
      intro job same
      rw [known] at same
      cases same
  | some job =>
      change (program (rdma client) crcOfBytes job).Follows
        (putProtocol (jobs client)) (Ends jobs client) .start
      rw [known]
      refine (follows_program job _ _ .start).mono ?_
      intro position result reports other same
      rw [known] at same
      cases same
      exact reports

/-- At first nothing is on its way, and nobody has a session. -/
theorem sound_initial {host : Host} (initial : host.Initial) :
    Sound jobs owner host.pool.shared.ucx.backend.1 host []
      fun _ => .start := by
  obtain ⟨gatewayId, sessionTtl, started, backend, rfl⟩ := initial
  exact
    { pool := ⟨.init started backend, .init gatewayId sessionTtl⟩
      sessions := by rintro _ ⟨⟩
      ucx :=
        ⟨by simp [UcxExecutor.init],
          ⟨by simp [UcxExecutor.init], by simp [UcxExecutor.init]⟩,
          by rintro _ _ ⟨⟩, by rintro _ ⟨⟩⟩
      frames := fun _ => .of_none rfl
      sent := by rintro _ _ ⟨⟩
      positions := fun _ => ⟨by rintro _ ⟨⟩, by rintro ⟨⟩⟩
      whole := fun _ _ => .inl rfl }

/-- In every run of writers on the CPU path and their gateway, objects are
written whole, and what is reported is there. -/
theorem writtenWhole_of_path
    {start network : PutNetwork}
    {events : List (Network.Event HostInput Nat PutCall PutCall.Answer)}
    (initial : (machine options rdma crcOfBytes jobs).initial start)
    (path : (machine options rdma crcOfBytes jobs).Path
      (Environment jobs owner) start events network) :
    WrittenWhole jobs start network := by
  obtain ⟨host, unsent, clients⟩ := initial
  have begun : Sound jobs owner (backendOf start) start.service []
      fun _ => .start := sound_initial host
  rw [← unsent] at begun
  obtain ⟨positions, follow, sound⟩ := (keeps_sound _).of_path
    ⟨_, follow_programs start clients, begun⟩ path
  have reports : ∀ client job outcome, jobs client = some job →
      network.clients client = .done (.ok outcome) →
        outcome.bytesTransferred = job.payload.length ∧
          Written jobs (backendOf network) job.object ∧
          Registered jobs (backendOf network) job.object := by
    intro client job outcome known done
    have ends := follow client
    rw [done] at ends
    obtain ⟨stored, transferred⟩ := ends job known outcome rfl
    exact ⟨transferred.trans job.size.symm,
      (sound.positions client).stored stored job known⟩
  refine ⟨sound.whole, reports, ?_⟩
  intro client job outcome known only done
  obtain ⟨_, written, registered⟩ := reports client job outcome known done
  exact ⟨written.body_of_alone known only,
    registered.head_of_alone known only⟩

end Runs

def writerOptions : UcxOptions := .default "gateway"

def writerStart : PutNetwork :=
  ⟨⟨⟨⟨.init "gateway" 10, .init true (.init 16, 0)⟩, fun _ => .call .idle⟩,
      fun _ => none, [], [], []⟩, [],
    programs (fun _ => {}) (fun _ => "") oneWriter⟩

/-- What the client opens its session with. -/
def writerOpening : Client.Gds.SessionOpening :=
  Client.Gds.makeSessionHandshake {}
    { operation := .put
      bucket := "bucket"
      key := "key"
      timeout := 30000
      bufferType := .cudaDevice
      path := .cpuDirect } 1 2

/-- The session of the client. -/
def writerSession : String := "ses-0000000000000002"

def writerOwner (sessionId : String) : Option Nat :=
  if sessionId = writerSession then some 0 else none

/-- What the client is told of its buffer. -/
def writerInfo : Gateway.Ucx.UcxDiscoverInfo :=
  ⟨"gateway", 18520, 4 * 1024 * 1024 * 1024, 4096, [1]⟩

def writerPut : PutCall :=
  .putAndNotify (some 0) 4096 2 4096 5 writerSession 300000

def writerCommit : Client.RdmaTransferPath.RdmaCommitRequest :=
  ⟨writerSession, 2, ""⟩

/-- What the client is answered. -/
def writerOracle : ∀ call, PutCall.Answer call
  | .now => (0 : Int)
  | .randomWord => (1 : UInt64)
  | .openSession _ =>
      .answered ⟨"req-0000000000000001", writerSession,
        Gateway.makeRandomId "ticket-" (3, 4), "gateway"⟩
  | .prepareTransfer _ _ => .answered writerInfo
  | .acquire _ _ _ => .ok ⟨some 0, some 5⟩
  | .unpackRkey _ _ => .ok 5
  | .putAndNotify _ _ _ _ _ _ _ => some (.ok ())
  | .commitObject _ =>
      .answered ⟨(Gateway.makeMeta 2 0).etag, (Gateway.makeMeta 2 0).version⟩
  | .commitPart _ => .notInitialized
  | .giveBack _ _ _ => ()
  | .discard _ => ()
  | .abortSession _ => .notInitialized

def secondWord : ∀ call, PutCall.Answer call
  | .randomWord => (2 : UInt64)
  | call => writerOracle call

/-- The commit arrives before the write and its message. -/
def writerEvents :
    List (Network.Event HostInput Nat PutCall PutCall.Answer) :=
  [.receive 0 0 writerOracle, .receive 0 0 writerOracle,
    .receive 0 0 writerOracle, .receive 0 0 writerOracle,
    .receive 0 0 secondWord, .send 0,
    .serve (.take 0 0 (.openSession writerOpening)
      (.session (.create (arrives writerOpening)
        ⟨(0, 0), (0, 0), (3, 4), "", 0⟩))),
    .serve (.go 0 (.session .proceed)), .serve (.go 0 (.session .proceed)),
    .serve (.go 0 (.session .proceed)), .serve (.go 0 (.hook none)),
    .receive 0 0 writerOracle, .receive 0 0 writerOracle, .send 0,
    .serve (.take 1 0 (.prepareTransfer writerSession 2)
      (.ucx (.prepareTransfer writerSession 2
        (.registered (fun _ => 0) 4096 [1])))),
    .receive 0 0 writerOracle, .receive 0 0 writerOracle,
    .receive 0 0 writerOracle, .receive 0 0 writerOracle, .send 0,
    .receive 0 0 writerOracle, .send 0,
    .serve (.take 1 0 (.commitObject writerCommit)
      (.ucx (.commitObject writerSession 2 ""))),
    .serve (.take 2 0 writerPut (.ucx (.remoteWrite 0 [7, 8]))),
    .serve (.take 2 0 writerPut (.ucx (.amWriteDone writerSession))),
    .receive 0 0 writerOracle, .receive 0 0 writerOracle]

/-- What is assumed of the events of this run, computed. -/
def writerAllowed (network : PutNetwork) :
    Network.Event HostInput Nat PutCall PutCall.Answer → Bool
  | .serve (.take _ client (.openSession _) (.session (.create req draw))) =>
      (network.service.pool.shared.sessions.lookupKey req).isNone &&
        writerOwner (network.service.pool.shared.sessions.newSession req
          draw).sessionId = some client
  | .serve (.take _ _ (.putAndNotify _ _ _ _ _ _ _)
        (.ucx (.remoteWrite _ bytes))) =>
      network.service.landed = [] && bytes = [7, 8]
  | .serve (.take _ _ (.putAndNotify _ _ _ _ _ sessionId _)
        (.ucx (.amWriteDone _))) =>
      match network.service.pool.shared.ucx.registry.lookup sessionId with
      | none => true
      | some entry => (sessionId, entry.serial) ∈ network.service.landed
  | .serve (.take _ _ (.prepareTransfer _ _) _) => true
  | .serve (.take _ _ (.commitObject _) _) => true
  | .serve (.go _ (.session .proceed)) => true
  | .serve (.go _ (.hook _)) => true
  | .serve _ => false
  | .send _ => true
  | .receive _ _ _ => true

def writerRun : Option PutNetwork :=
  (machine writerOptions (fun _ => {}) (fun _ => "") oneWriter).run
    (fun network event => writerAllowed network event = true) writerStart
    writerEvents

theorem writerRun_isSome : writerRun.isSome = true := by
  decide +kernel

theorem environment_of_writerAllowed
    (network : PutNetwork)
    (event : Network.Event HostInput Nat PutCall PutCall.Answer)
    (allowed : writerAllowed network event = true) :
    Environment oneWriter writerOwner network event := by
  revert allowed
  fun_cases writerAllowed network event
  all_goals intro allowed
  case case1 thread client opening req draw =>
    obtain ⟨missed, own⟩ := Bool.and_eq_true_iff.mp allowed
    change Named writerOwner _ _ req draw
    rw [Named, Option.isNone_iff_eq_none.mp missed]
    exact of_decide_eq_true own
  case case2 =>
    obtain ⟨untouched, bytes⟩ := Bool.and_eq_true_iff.mp allowed
    refine ⟨?_, ?_⟩
    · intro sessionId entry _ _ landed
      rw [of_decide_eq_true untouched] at landed
      cases landed
    · intro job known _ _
      unfold oneWriter at known
      split at known <;> cases known
      exact of_decide_eq_true bytes
  case case3 absent =>
    intro entry found
    rw [absent] at found
    cases found
  case case4 entry present =>
    intro other found
    cases present.symm.trans found
    exact of_decide_eq_true allowed
  case case9 => cases allowed
  all_goals trivial

theorem path_writerRun :
    (machine writerOptions (fun _ => {}) (fun _ => "") oneWriter).Path
      (Environment oneWriter writerOwner) writerStart writerEvents
      (writerRun.get writerRun_isSome) :=
  (Machine.path_of_run (Option.some_get writerRun_isSome).symm).mono
    environment_of_writerAllowed

/-- The client reports that it has written two bytes, and they are there. -/
private def rdmaWriterReports (network : PutNetwork) : Bool :=
  (backendOf network).data.body "bucket/key" = [7, 8] &&
    match network.clients 0 with
    | .done (.ok outcome) => outcome.bytesTransferred = 2
    | _ => false

/-- One client writes two bytes, and is told so, although its commit arrives
first. -/
theorem writtenWhole_of_path_commitFirst :
    WrittenWhole oneWriter writerStart (writerRun.get writerRun_isSome) ∧
      rdmaWriterReports (writerRun.get writerRun_isSome) = true := by
  refine ⟨?_, by decide +kernel⟩
  exact writtenWhole_of_path ⟨⟨"gateway", 10, true, _, rfl⟩, rfl, rfl⟩
    path_writerRun

end Rdma
end EndToEnd
end TurboAccess
