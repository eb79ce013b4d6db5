/-
This file opens sessions and frames. A frame that may not enter fails and changes nothing; one
that enters runs its body in the session entered, leaves the session it finds then,
and has the result of its body. What an engine does between calls leaves every
session and the log alone, and always succeeds, so that settling is never seen by
the calls around it.
-/

import ScriptBridge.Bridge.Frame
import ScriptBridge.Proofs.Leaves
import ScriptBridge.Proofs.Ties

namespace ScriptBridge

open Run

/-! ### Sessions -/

namespace Session

variable {session entered : Session} {kind : FrameKind}

theorem isBusy_iff : session.isBusy = true ↔ 0 < session.depth := by
  unfold isBusy
  rw [bne_iff_ne]
  exact Nat.pos_iff_ne_zero.symm

/-- What a session that is entered looks like. -/
theorem enter_eq_ok (enters : session.enter kind = .ok entered) :
    entered.frames = session.frames.push kind ∧ entered.maxDepth = session.maxDepth ∧
      entered.collectionOwed = session.collectionOwed ∧ entered.isBusy = true ∧
      ((session.isBusy = false ∧ entered.interruptRequested = false ∧ entered.state = .running) ∨
        (session.isBusy = true ∧ session.depth < session.maxDepth ∧
          entered.interruptRequested = session.interruptRequested ∧
          entered.state = session.state)) := by
  unfold enter at enters
  split at enters
  · next idle =>
    cases enters
    rw [Bool.not_eq_true'] at idle
    exact ⟨rfl, rfl, rfl, rfl, .inl ⟨idle, rfl, rfl⟩⟩
  · next busy =>
    rw [Bool.not_eq_true', Bool.not_eq_false] at busy
    split at enters
    · cases enters
    · next room =>
      cases enters
      exact ⟨rfl, rfl, rfl, rfl, .inr ⟨busy, Nat.lt_of_not_le room, rfl, rfl⟩⟩

/-- A session refuses a frame only when it is as deep as it may be, and always for the depth. -/
theorem enter_eq_error {error : ScriptError} (refuses : session.enter kind = .error error) :
    error = depthError ∧ session.isBusy = true ∧ session.maxDepth ≤ session.depth := by
  unfold enter at refuses
  split at refuses
  · cases refuses
  · next busy =>
    rw [Bool.not_eq_true', Bool.not_eq_false] at busy
    split at refuses
    · next full =>
      cases refuses
      exact ⟨rfl, busy, full⟩
    · cases refuses

theorem leave_of_nested {failure : Option ScriptError} (nested : 1 < session.depth) :
    session.leave failure = ({ session with frames := session.frames.pop }, none) := by
  unfold leave
  split
  · next zero =>
    rw [zero] at nested
    cases nested
  · next one =>
    rw [one] at nested
    exact absurd nested (Nat.lt_irrefl 1)
  · rfl

/-- The outermost frame leaves an idle session, with the outcome of its failure. -/
theorem leave_of_outermost (outermost : session.depth = 1) (failure : Option ScriptError) :
    ∃ left : Session, session.leave failure = (left, some session.collectionOwed) ∧
      left.frames = session.frames.pop ∧ left.maxDepth = session.maxDepth ∧ left.state = .idle ∧
      left.outcome = outcomeOf failure ∧ left.interruptRequested = false ∧
      left.collectionOwed = false := by
  unfold leave
  rw [outermost]
  exact ⟨_, rfl, rfl, rfl, rfl, rfl, rfl, rfl⟩

/-- Asking for an interrupt enters and leaves no frame. -/
theorem frames_requestInterrupt (session : Session) :
    session.requestInterrupt.2.frames = session.frames ∧
      session.requestInterrupt.2.state = session.state := by
  unfold requestInterrupt
  split <;> exact ⟨rfl, rfl⟩

/-- An empty stack has nothing to take away. -/
theorem pop_of_depth_eq_zero {stack : FrameStack} (empty : stack.depth = 0) : stack.pop = stack := by
  obtain ⟨kinds, depth, depth_eq⟩ := stack
  cases empty
  cases List.eq_nil_of_length_eq_zero depth_eq.symm
  rfl

/-- Leaving takes the innermost frame away, if there is one. -/
theorem frames_leave (session : Session) (failure : Option ScriptError) :
    (session.leave failure).1.frames = session.frames.pop := by
  unfold leave
  split
  · next none_active => exact (pop_of_depth_eq_zero none_active).symm
  · rfl
  · rfl

/-- The state says whether a call is in progress. -/
def Agrees (session : Session) : Prop :=
  session.state = if session.isBusy then .running else .idle

/-- A session without frames takes an outermost one, and runs then. -/
theorem enter_of_depth_eq_zero (idle : session.depth = 0) (kind : FrameKind) :
    ∃ entered, session.enter kind = .ok entered ∧ entered.Agrees ∧ entered.depth = 1 := by
  have busy : session.isBusy = false := by
    rw [Bool.eq_false_iff, ne_eq, isBusy_iff, idle]
    exact Nat.lt_irrefl 0
  unfold enter
  rw [busy]
  exact ⟨_, rfl, rfl, congrArg (· + 1) idle⟩

/-- A session whose state says whether a call is in progress comes to have the same frames and the
same state again. -/
def Returns (before after : Session) : Prop :=
  before.Agrees → after.frames = before.frames ∧ after.state = before.state

theorem Returns.refl (session : Session) : session.Returns session := fun _ => ⟨rfl, rfl⟩

theorem Returns.trans {first second third : Session} (left : first.Returns second)
    (right : second.Returns third) : first.Returns third := by
  intro agrees
  obtain ⟨frames, state⟩ := left agrees
  have still : second.Agrees := by
    unfold Agrees isBusy depth at agrees ⊢
    rw [frames, state]
    exact agrees
  exact ⟨(right still).1.trans frames, (right still).2.trans state⟩

/-- A frame gives back the session that it was entered in if its body gives back the one that it
starts in. -/
theorem Returns.leave {later : Session} (enters : session.enter kind = .ok entered)
    (inside : entered.Returns later) (failure : Option ScriptError) :
    session.Returns (later.leave failure).1 := by
  intro agrees
  obtain ⟨pushed, -, -, busy, entry⟩ := enter_eq_ok enters
  have running : entered.state = .running := by
    rcases entry with ⟨-, -, running⟩ | ⟨active, -, -, same⟩
    · exact running
    · rw [same, agrees, if_pos active]
  obtain ⟨frames, state⟩ := inside (by unfold Agrees; rw [running, if_pos busy])
  have depth : later.depth = session.depth + 1 := by
    unfold Session.depth
    rw [frames, pushed]
    rfl
  have popped : (later.leave failure).1.frames = session.frames := by
    rw [frames_leave, frames, pushed]
    rfl
  refine ⟨popped, ?_⟩
  cases active : session.isBusy with
  | true =>
    rw [leave_of_nested (depth ▸ Nat.succ_lt_succ (isBusy_iff.mp active))]
    rw [agrees, active]
    exact state.trans running
  | false =>
    have none_active : session.depth = 0 :=
      Nat.eq_zero_of_not_pos fun positive => Bool.eq_false_iff.mp active (isBusy_iff.mpr positive)
    obtain ⟨left, leaves, -, -, idle, -⟩ :=
      leave_of_outermost (depth.trans (congrArg (· + 1) none_active)) failure
    rw [leaves, agrees, active]
    exact idle

end Session

/-! ### Sessions of a world -/

namespace World

/-- The session of an engine. -/
def session (world : World) (engine : EngineId) : Session := (world.engine engine).session

/-- The world with the session of an engine replaced. -/
def withSession (world : World) (engine : EngineId) (session : Session) : World :=
  world.modifyEngine engine fun engine => { engine with session }

/-- The world is the one in which a frame of an engine runs its body. -/
def Enters (world : World) (engine : EngineId) (kind : FrameKind) (next : World) : Prop :=
  engine < world.engines.size ∧ ∃ entered, (world.session engine).enter kind = .ok entered ∧
    entered.interruptRequested = false ∧ next = world.withSession engine entered

variable {world : World} {engine other : EngineId} {session : Session}

theorem session_congr {after : World} (same : after.engines = world.engines) :
    after.session engine = world.session engine := by
  unfold World.session World.engine
  rw [same]

theorem session_withSession_self (known : engine < world.engines.size) :
    (world.withSession engine session).session engine = session := by
  unfold World.session withSession
  rw [engine_modifyEngine_self known]

theorem session_withSession_of_ne (different : engine ≠ other) :
    (world.withSession engine session).session other = world.session other := by
  unfold World.session withSession
  rw [engine_modifyEngine_of_ne different]

theorem size_withSession (world : World) (engine : EngineId) (session : Session) :
    (world.withSession engine session).engines.size = world.engines.size :=
  size_modifyEngine world engine _

/-- No engine has come or gone, every session is as it was, and nothing has been logged. -/
structure KeepsSessions (before after : World) : Prop where
  size : after.engines.size = before.engines.size
  session : ∀ engine, after.session engine = before.session engine
  log : after.log = before.log

theorem KeepsSessions.of_same {before after : World} (engines : after.engines = before.engines)
    (log : after.log = before.log) : before.KeepsSessions after where
  size := by rw [engines]
  session _ := session_congr engines
  log := log

instance : RunRelation KeepsSessions where
  refl _ := .of_same rfl rfl
  trans first second :=
    ⟨second.size.trans first.size,
      fun engine => (second.session engine).trans (first.session engine),
      second.log.trans first.log⟩
  held _ _ := .of_same rfl rfl

/-- A change of an engine in anything but its session. -/
theorem keepsSessions_modifyEngine (world : World) (engine : EngineId) {change : Engine → Engine}
    (keeps : ∀ state, (change state).session = state.session) :
    world.KeepsSessions (world.modifyEngine engine change) where
  size := size_modifyEngine world engine change
  session := part_modifyEngine keeps
  log := rfl

theorem Burials.keepsSessions {before after : World} (burials : Burials before after) :
    before.KeepsSessions after := by
  induction burials with
  | refl => exact RunRelation.refl before
  | tail _ last inductionHypothesis =>
    refine RunRelation.trans inductionHypothesis ?_
    obtain @⟨cell, contents, living, _⟩ := last
    rw [bury_of_get? living]
    cases contents with
    | proxy proxy =>
      refine RunRelation.trans ?_ (keepsSessions_modifyEngine _ proxy.engine fun _ => rfl)
      exact .of_same rfl rfl
    | _ => exact .of_same rfl rfl

/-- The same frames are active. -/
structure KeepsStacks (before after : World) : Prop where
  size : after.engines.size = before.engines.size
  frames : ∀ engine, (after.session engine).frames = (before.session engine).frames

theorem KeepsStacks.refl (world : World) : world.KeepsStacks world := ⟨rfl, fun _ => rfl⟩

theorem KeepsStacks.trans {first second third : World} (left : first.KeepsStacks second)
    (right : second.KeepsStacks third) : first.KeepsStacks third where
  size := right.size.trans left.size
  frames engine := (right.frames engine).trans (left.frames engine)

/-- Between an engine's frame that is entered and the same frame left, the others keep theirs. -/
theorem KeepsStacks.withSession {world later : World} {engine : EngineId} {entered left : Session}
    (balanced : (world.withSession engine entered).KeepsStacks later)
    (known : engine < later.engines.size) (popped : left.frames = (world.session engine).frames) :
    world.KeepsStacks (later.withSession engine left) where
  size := by rw [size_withSession, balanced.size, size_withSession]
  frames other := by
    by_cases here : engine = other
    · subst here
      rw [session_withSession_self known, popped]
    · rw [session_withSession_of_ne here, balanced.frames, session_withSession_of_ne here]

/-- The same frames are active, and the sessions are in the states that they were in. -/
structure KeepsCalls (before after : World) : Prop extends before.KeepsStacks after where
  state : ∀ engine, (after.session engine).state = (before.session engine).state

theorem KeepsCalls.refl (world : World) : world.KeepsCalls world := ⟨.refl world, fun _ => rfl⟩

theorem KeepsCalls.trans {first second third : World} (left : first.KeepsCalls second)
    (right : second.KeepsCalls third) : first.KeepsCalls third where
  toKeepsStacks := left.toKeepsStacks.trans right.toKeepsStacks
  state engine := (right.state engine).trans (left.state engine)

theorem KeepsSessions.keepsCalls {before after : World} (keeps : before.KeepsSessions after) :
    before.KeepsCalls after where
  size := keeps.size
  frames engine := by rw [keeps.session engine]
  state engine := by rw [keeps.session engine]

theorem KeepsCalls.of_same {before after : World} (engines : after.engines = before.engines) :
    before.KeepsCalls after where
  size := by rw [engines]
  frames _ := by rw [session_congr engines]
  state _ := by rw [session_congr engines]

/-- A change of an engine that leaves its frames and its state alone. -/
theorem keepsCalls_modifyEngine (world : World) (engine : EngineId) {change : Engine → Engine}
    (frames : ∀ state, (change state).session.frames = state.session.frames)
    (states : ∀ state, (change state).session.state = state.session.state) :
    world.KeepsCalls (world.modifyEngine engine change) where
  size := size_modifyEngine world engine change
  frames := @part_modifyEngine _ (fun state => state.session.frames) _ _ _ frames
  state := @part_modifyEngine _ (fun state => state.session.state) _ _ _ states

/-- The session of an engine is replaced by one with the same frames, in the same state. -/
theorem keepsCalls_withSession (frames : session.frames = (world.session engine).frames)
    (state : session.state = (world.session engine).state) :
    world.KeepsCalls (world.withSession engine session) where
  size := world.size_withSession engine session
  frames other := by
    rcases engine_modifyEngine world engine _ other with same | ⟨rfl, changed⟩
    · exact congrArg (·.session.frames) same
    · exact (congrArg (·.session.frames) changed).trans frames
  state other := by
    rcases engine_modifyEngine world engine _ other with same | ⟨rfl, changed⟩
    · exact congrArg (·.session.state) same
    · exact (congrArg (·.session.state) changed).trans state

end World

/-! ### Quiet runs -/

namespace Run

variable {Failure Result Next : Type}

@[simp]
theorem outcome_engine (engine : EngineId) (world : World) :
    (Run.engine engine : Run Failure Engine).outcome world = (.ok (world.engine engine), world) :=
  rfl

/-- The run always has a value, and leaves sessions and log alone. -/
def IsQuiet (run : Run Failure Result) : Prop :=
  ∀ world, ∃ result after, run.outcome world = (.ok result, after) ∧ world.KeepsSessions after

namespace IsQuiet

theorem pure (result : Result) : (Pure.pure result : Run Failure Result).IsQuiet :=
  fun world => ⟨result, world, rfl, RunRelation.refl world⟩

theorem observe (part : World → Result) : (Run.observe part : Run Failure Result).IsQuiet :=
  fun world => ⟨part world, world, rfl, RunRelation.refl world⟩

theorem readStore (part : Store → Result) : (Run.readStore part : Run Failure Result).IsQuiet :=
  observe _

theorem engine (engine : EngineId) : (Run.engine engine : Run Failure Engine).IsQuiet := observe _

theorem update {change : World → World}
    (keeps : ∀ world : World, world.KeepsSessions (change world)) :
    (Run.update change : Run Failure Unit).IsQuiet :=
  fun world => ⟨(), change world, rfl, keeps world⟩

theorem modifyEngine (engine : EngineId) {change : Engine → Engine}
    (keeps : ∀ state, (change state).session = state.session) :
    (Run.modifyEngine engine change : Run Failure Unit).IsQuiet :=
  update fun world => world.keepsSessions_modifyEngine engine keeps

theorem reap : (Run.reap : Run Failure Unit).IsQuiet :=
  update fun world => world.reap_spec.1.keepsSessions

theorem holdCells (cells : List CellId) : (Run.holdCells cells : Run Failure Unit).IsQuiet :=
  update fun world => RunRelation.held world _

theorem hold [HoldsCells Result] (result : Result) : (Run.hold result : Run Failure Result).IsQuiet :=
  fun world => ⟨result, world.holding (HoldsCells.cells result), rfl, RunRelation.held world _⟩

theorem bind {run : Run Failure Result} {next : Result → Run Failure Next} (first : run.IsQuiet)
    (second : ∀ result, (next result).IsQuiet) : (run >>= next).IsQuiet := by
  intro world
  obtain ⟨result, between, ran, kept⟩ := first world
  obtain ⟨last, after, went, keptOn⟩ := second result between
  exact ⟨last, after, by rw [outcome_bind_of_ok ran, went], RunRelation.trans kept keptOn⟩

theorem discard {run : Run Failure Result} (quiet : run.IsQuiet) : (discard run).IsQuiet :=
  bind quiet fun _ => pure ()

theorem scope {run : Run Failure Result} (quiet : run.IsQuiet) : (Run.scope run).IsQuiet := by
  intro world
  obtain ⟨result, after, ran, kept⟩ := quiet world
  refine ⟨result, { after with held := world.held }, ?_, RunRelation.trans kept (.of_same rfl rfl)⟩
  rw [outcome_scope, ran]

end IsQuiet

end Run

namespace Bridge

variable {Failure Result : Type}

/-! ### Between calls -/

theorem releaseDropped_isQuiet (engine : EngineId) :
    (releaseDropped engine : Run Failure Nat).IsQuiet :=
  .bind .reap fun _ => .bind (.engine engine) fun _ =>
    .bind (.modifyEngine engine fun _ => rfl) fun _ => .pure _

theorem sweep_isQuiet (engine : EngineId) : (sweep engine : Run Failure Swept).IsQuiet :=
  .bind (releaseDropped_isQuiet engine) fun _ => .bind .reap fun _ => .bind (.readStore _) fun _ =>
    .bind (.engine engine) fun _ => .bind (.modifyEngine engine fun _ => rfl) fun _ => .pure _

/-- An engine settles without failing and without touching a session. -/
theorem settleEngine_isQuiet (engine : EngineId) (collectionOwed : Bool) :
    (settleEngine engine collectionOwed).IsQuiet := by
  unfold settleEngine
  split
  · exact .discard (sweep_isQuiet engine)
  · exact .discard (releaseDropped_isQuiet engine)

/-- A collection asked for during a call is owed by the session. -/
theorem outcome_collect_of_busy {engine : EngineId} {world : World}
    (known : engine < world.engines.size) (busy : (world.session engine).isBusy = true) :
    ∃ owing, (collect engine : Run Failure (Option Swept)).outcome world = (.ok none, owing) ∧
      owing.engines.size = world.engines.size ∧
      owing.session engine = (world.session engine).owe ∧ owing.log = world.log := by
  unfold World.session at busy ⊢
  refine ⟨world.modifyEngine engine fun state => { state with session := state.session.owe }, ?_,
    World.size_modifyEngine world engine _, ?_, rfl⟩
  · unfold collect
    rw [outcome_bind_of_ok (outcome_engine engine world), if_pos busy]
    rfl
  · rw [World.engine_modifyEngine_self known]

/-- A collection asked for between calls is done at once. -/
theorem outcome_collect_of_idle {engine : EngineId} {world : World}
    (idle : ¬(world.session engine).isBusy = true) :
    ∃ swept after, (collect engine : Run Failure (Option Swept)).outcome world =
      (.ok (some swept), after) ∧ world.KeepsSessions after := by
  have quiet : (sweep engine : Run Failure Swept).IsQuiet := sweep_isQuiet engine
  obtain ⟨swept, after, ran, kept⟩ := quiet { world with collections := world.collections + 1 }
  refine ⟨swept, after, ?_, kept.size, kept.session, kept.log⟩
  unfold World.session at idle
  unfold collect
  rw [outcome_bind_of_ok (outcome_engine engine world), if_neg idle,
    outcome_bind_of_ok (outcome_update _ world), outcome_bind_of_ok ran]
  rfl

/-! ### Frames -/

section Frames

variable [HoldsCells Result] {onIdle : Bool → ScriptRun Unit} {engine : EngineId}
  {kind : FrameKind} {body : ScriptRun Result} {world after last : World}
  {entered left : Session} {outcome : Except ScriptError Result}

/-- What a frame runs once it has entered: its body, unless an interrupt is pending. -/
def polledBody (entered : Session) (body : ScriptRun Result) :
    ScriptRun (Except ScriptError Result) :=
  settle (scope (do ofExcept entered.poll; body))

/-- A frame that may not enter fails and changes nothing. -/
theorem outcome_frameWith_refused {error : ScriptError}
    (refused : (world.session engine).enter kind = .error error) :
    (frameWith onIdle engine kind body).outcome world = (.error (.raised error), world) := by
  unfold World.session at refused
  unfold frameWith
  rw [outcome_bind_of_ok (outcome_engine engine world), refused]
  rfl

/-- A frame that enters goes on with its body in the session entered. -/
theorem outcome_frameWith_entered (enters : (world.session engine).enter kind = .ok entered) :
    (frameWith onIdle engine kind body).outcome world =
      (do
        let outcome ← polledBody entered body
        let (session, ended) := (← Run.engine engine).session.leave (failure? outcome)
        modifyEngine engine fun engine => { engine with session }
        if let some collectionOwed := ended then
          scope (do holdCells (outcomeCells outcome); onIdle collectionOwed)
        ofExcept outcome : ScriptRun Result).outcome (world.withSession engine entered) := by
  unfold World.session at enters
  unfold frameWith
  rw [outcome_bind_of_ok (outcome_engine engine world), enters]
  rfl

/-- A frame inside another ends with its body. -/
theorem outcome_frameWith_nested (enters : (world.session engine).enter kind = .ok entered)
    (ran : (polledBody entered body).outcome (world.withSession engine entered) =
      (.ok outcome, after))
    (leaves : (after.session engine).leave (failure? outcome) = (left, none)) :
    (frameWith onIdle engine kind body).outcome world =
      (ofExcept outcome).outcome (after.withSession engine left) := by
  rw [outcome_frameWith_entered enters, outcome_bind_of_ok ran,
    outcome_bind_of_ok (outcome_engine engine after)]
  unfold World.session at leaves
  rw [leaves]
  rfl

/-- The outermost frame does what is done on idling before it ends. -/
theorem outcome_frameWith_outermost (enters : (world.session engine).enter kind = .ok entered)
    (ran : (polledBody entered body).outcome (world.withSession engine entered) =
      (.ok outcome, after)) {owed : Bool}
    (leaves : (after.session engine).leave (failure? outcome) = (left, some owed))
    (idled : (scope (do holdCells (outcomeCells outcome); onIdle owed)).outcome
      (after.withSession engine left) = (.ok (), last)) :
    (frameWith onIdle engine kind body).outcome world = (ofExcept outcome).outcome last := by
  rw [outcome_frameWith_entered enters, outcome_bind_of_ok ran,
    outcome_bind_of_ok (outcome_engine engine after)]
  unfold World.session at leaves
  rw [leaves]
  exact outcome_bind_of_ok idled

/-- A frame whose body gets out of depth is not left. -/
theorem outcome_frame_stuck {halt : Halt ScriptError}
    (enters : (world.session engine).enter kind = .ok entered)
    (ran : (polledBody entered body).outcome (world.withSession engine entered) =
      (.error halt, after)) :
    (frame engine kind body).outcome world = (.error .exhausted, after) := by
  cases eq_exhausted_of_settle ran
  unfold frame
  rw [outcome_frameWith_entered enters, outcome_bind_of_error ran]

/-- Once its body has ended, a frame is left the way the body ended, and the engine settles if the
frame was the outermost, which leaves every session alone. -/
theorem outcome_frame_left (enters : (world.session engine).enter kind = .ok entered)
    (ran : (polledBody entered body).outcome (world.withSession engine entered) =
      (.ok outcome, after)) :
    ∃ last, (frame engine kind body).outcome world = (ofExcept outcome).outcome last ∧
      (after.withSession engine
        ((after.session engine).leave (failure? outcome)).1).KeepsSessions last ∧
      (last = after.withSession engine ((after.session engine).leave (failure? outcome)).1 ∨
        ∃ owed, (scope (do holdCells (outcomeCells outcome); settleEngine engine owed)).outcome
          (after.withSession engine ((after.session engine).leave (failure? outcome)).1) =
            (.ok (), last)) := by
  cases leaves : (after.session engine).leave (failure? outcome) with
  | mk session ended =>
    cases ended with
    | none =>
      exact ⟨_, outcome_frameWith_nested enters ran leaves, RunRelation.refl _, .inl rfl⟩
    | some owed =>
      have quiet : (scope (do holdCells (outcomeCells outcome); settleEngine engine owed)).IsQuiet :=
        .scope (.bind (.holdCells _) fun _ => settleEngine_isQuiet engine owed)
      obtain ⟨⟨⟩, last, idled, keeps⟩ := quiet (after.withSession engine session)
      exact ⟨last, outcome_frameWith_outermost enters ran leaves idled, keeps, .inr ⟨owed, idled⟩⟩

end Frames

end Bridge

end ScriptBridge
