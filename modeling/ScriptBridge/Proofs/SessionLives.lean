/-
This file follows all that one thread may do with the calls of an engine. An
activity runs frames inside frames, asks for interrupts and collections, looks at
the session and ends with or without a failure, each as it likes. What comes of it
is computed on the session alone; running the activity in a world comes to the
same session, the same failure and the same moments. From there the order of every
activity is a matter of one induction: stacks are given back, the depth is kept, an
accepted interrupt holds back every body until the engine idles, and the engine
idles once for every outermost frame.
-/

import Mathlib.Data.List.Infix
import ScriptBridge.Proofs.SessionFrames

namespace ScriptBridge

open Run Bridge

/-! ### Activities -/

/-- Something that happens to the session of an engine. -/
inductive SessionEvent
  /-- The body of a frame starts. -/
  | started (kind : FrameKind)
  /-- An interrupt was asked for, and was accepted or not. -/
  | asked (accepted : Bool)
  /-- A collection was put off until the engine idles. -/
  | deferred
  /-- The outermost frame has ended, with a collection owed or not. -/
  | idled (collectionOwed : Bool)
  /-- The session was looked at. -/
  | looked
  deriving DecidableEq

/-- Does the engine idle here? -/
def SessionEvent.isIdling : SessionEvent → Bool
  | .idled _ => true
  | _ => false

/-- An event and the session it left. -/
structure Moment where
  session : Session
  event : SessionEvent

/-- What a thread does with the calls of one engine. What it does next may depend on everything it
was answered before. -/
inductive Activity
  | finish (failure : Option ScriptError)
  | frame (kind : FrameKind) (body : Activity) (next : Option ScriptError → Activity)
  | interrupt (next : Bool → Activity)
  | collect (next : Activity)
  | look (next : Session → Activity)

/-- The result of a body that fails or does not. -/
def resultOf : Option ScriptError → Except ScriptError Unit
  | none => .ok ()
  | some error => .error error

/-- Logs an event with the session as it is. -/
def noteMoment (engine : EngineId) (entry : Moment → LogEntry Shown) (event : SessionEvent) :
    ScriptRun Unit := do
  log (entry ⟨(← Run.engine engine).session, event⟩)

/-- What is done on idling: the moment is logged before anything else. -/
def idling (engine : EngineId) (onIdle : Bool → ScriptRun Unit)
    (entry : Moment → LogEntry Shown) (collectionOwed : Bool) : ScriptRun Unit := do
  noteMoment engine entry (.idled collectionOwed)
  onIdle collectionOwed

/-- The activity on an engine. Every event is logged; `onIdle` is what the engine does when its
outermost frame has ended. -/
def Activity.run (engine : EngineId) (onIdle : Bool → ScriptRun Unit)
    (entry : Moment → LogEntry Shown) : Activity → ScriptRun Unit
  | .finish failure => ofExcept (resultOf failure)
  | .frame kind body next => do
    let result ← settle (frameWith (idling engine onIdle entry) engine kind (do
      noteMoment engine entry (.started kind)
      body.run engine onIdle entry))
    (next (failure? result)).run engine onIdle entry
  | .interrupt next => do
    let accepted ← requestInterrupt engine
    noteMoment engine entry (.asked accepted)
    (next accepted).run engine onIdle entry
  | .collect next => do
    if (← Bridge.collect engine).isNone then noteMoment engine entry .deferred
    next.run engine onIdle entry
  | .look next => do
    let session := (← Run.engine engine).session
    noteMoment engine entry .looked
    (next session).run engine onIdle entry

/-! ### Executions -/

/-- A frame that was run: the session before it and after it, the moments in between, and how it
ended. -/
structure FrameRun where
  kind : FrameKind
  before : Session
  moments : List Moment
  failure : Option ScriptError
  after : Session

/-- Was no frame active when the frame was run? -/
def FrameRun.isOutermost (frame : FrameRun) : Bool := !frame.before.isBusy

/-- What came of an activity: its moments, its frames in the order they ended, its failure and the
session it left. -/
structure Execution where
  moments : List Moment
  frames : List FrameRun
  failure : Option ScriptError
  session : Session

namespace Execution

/-- Nothing but an end. -/
def ended (session : Session) (failure : Option ScriptError) : Execution :=
  ⟨[], [], failure, session⟩

/-- One event, which has left the session. -/
def happened (session : Session) (event : SessionEvent) : Execution :=
  ⟨[⟨session, event⟩], [], none, session⟩

/-- One execution after another. -/
def andThen (first second : Execution) : Execution :=
  ⟨first.moments ++ second.moments, first.frames ++ second.frames, second.failure, second.session⟩

/-- A body in the session entered, if no interrupt is pending. -/
def polled (entered : Session) (kind : FrameKind) (body : Session → Execution) : Execution :=
  match entered.poll with
  | .error error => ended entered (some error)
  | .ok () => (happened entered (.started kind)).andThen (body entered)

/-- The innermost frame is left. -/
def left (inside : Execution) : Execution :=
  let (session, idling) := inside.session.leave inside.failure
  { inside with
    moments := inside.moments ++ idling.toList.map fun owed => ⟨session, .idled owed⟩
    session }

theorem left_of_nested {inside : Execution} {session : Session}
    (leaves : inside.session.leave inside.failure = (session, none)) :
    inside.left = { inside with session } := by
  unfold left
  rw [leaves]
  simp only [Option.toList_none, List.map_nil, List.append_nil]

theorem left_of_outermost {inside : Execution} {session : Session} {owed : Bool}
    (leaves : inside.session.leave inside.failure = (session, some owed)) :
    inside.left =
      { inside with moments := inside.moments ++ [⟨session, .idled owed⟩], session } := by
  unfold left
  rw [leaves]
  rfl

/-- The execution of a frame, with the frame itself as the last of its frames. -/
def asFrame (kind : FrameKind) (before : Session) (execution : Execution) : Execution :=
  { execution with
    frames := execution.frames ++
      [⟨kind, before, execution.moments, execution.failure, execution.session⟩] }

/-- A frame around a body. -/
def frame (kind : FrameKind) (session : Session) (body : Session → Execution) : Execution :=
  match session.enter kind with
  | .error error => (ended session (some error)).asFrame kind session
  | .ok entered => (polled entered kind body).left.asFrame kind session

end Execution

/-- What comes of an activity that starts in a session. -/
def Activity.execute : Activity → Session → Execution
  | .finish failure, session => .ended session failure
  | .frame kind body next, session =>
    let ran := Execution.frame kind session body.execute
    ran.andThen ((next ran.failure).execute ran.session)
  | .interrupt next, session =>
    let (accepted, asked) := session.requestInterrupt
    (Execution.happened asked (.asked accepted)).andThen ((next accepted).execute asked)
  | .collect next, session =>
    if session.isBusy then
      (Execution.happened session.owe .deferred).andThen (next.execute session.owe)
    else next.execute session
  | .look next, session =>
    (Execution.happened session .looked).andThen ((next session).execute session)

/-! ### Activities in a world -/

/-- The run settles with the failure of an execution, leaves the session that it leaves, and has
logged its moments. -/
def Run.ComesTo (run : ScriptRun Unit) (engine : EngineId) (entry : Moment → LogEntry Shown)
    (execution : Execution) (world : World) : Prop :=
  ∃ after, (settle run : ScriptRun (Except ScriptError Unit)).outcome world =
      (.ok (resultOf execution.failure), after) ∧
    after.engines.size = world.engines.size ∧ after.session engine = execution.session ∧
    after.log.toList = world.log.toList ++ execution.moments.map entry

section ComesTo

variable {engine : EngineId} {onIdle : Bool → ScriptRun Unit} {entry : Moment → LogEntry Shown}
  {world between : World} {execution : Execution}

theorem failure?_resultOf (failure : Option ScriptError) :
    failure? (resultOf failure) = failure := by
  cases failure <;> rfl

theorem outcome_noteMoment (engine : EngineId) (entry : Moment → LogEntry Shown)
    (event : SessionEvent) (world : World) :
    (noteMoment engine entry event).outcome world =
      (.ok (), { world with log := world.log.push (entry ⟨world.session engine, event⟩) }) :=
  rfl

/-- What follows a run that has a value settles as it does in the world that the run left. -/
theorem outcome_settle_bind {Result Value : Type} {run : ScriptRun Result}
    {next : Result → ScriptRun Value} {result : Result}
    (ran : run.outcome world = (.ok result, between)) :
    (settle (run >>= next) : ScriptRun (Except ScriptError Value)).outcome world =
      (settle (next result) : ScriptRun (Except ScriptError Value)).outcome between := by
  rw [outcome_settle, outcome_bind_of_ok ran, outcome_settle]

/-- A run in a scope settles as it does outside, with the cells in use as before. -/
theorem outcome_settle_scope {Result : Type} {run : ScriptRun Result}
    {outcome : Except ScriptError Result} {after : World}
    (ran : (settle run : ScriptRun (Except ScriptError Result)).outcome world =
      (.ok outcome, after)) :
    (settle (scope run) : ScriptRun (Except ScriptError Result)).outcome world =
      (.ok outcome, { after with held := world.held }) := by
  rw [outcome_settle] at ran ⊢
  rw [outcome_scope]
  rcases went : run.outcome world with ⟨(error | _) | result, later⟩ <;> rw [went] at ran <;>
    cases ran <;> rfl

theorem outcome_settle_ofExcept {Result : Type} (result : Except ScriptError Result)
    (world : World) :
    (settle (ofExcept result) : ScriptRun (Except ScriptError Result)).outcome world =
      (.ok result, world) := by
  cases result <;> rfl

/-- A run that has a value comes to what it has logged and what follows comes to. -/
theorem Run.ComesTo.after {Result : Type} {run : ScriptRun Result}
    {next : Result → ScriptRun Unit} {result : Result} {first : Execution}
    (ran : run.outcome world = (.ok result, between))
    (size : between.engines.size = world.engines.size)
    (log : between.log.toList = world.log.toList ++ first.moments.map entry)
    (comes : (next result).ComesTo engine entry execution between) :
    (run >>= next).ComesTo engine entry (first.andThen execution) world := by
  obtain ⟨after, went, sizeAfter, sessionAfter, logAfter⟩ := comes
  refine ⟨after, (outcome_settle_bind ran).trans went, sizeAfter.trans size, sessionAfter, ?_⟩
  rw [logAfter, log, List.append_assoc, ← List.map_append]
  rfl

/-- A run that has a value and logs nothing is followed by all that is come to. -/
theorem Run.ComesTo.silent {Result : Type} {run : ScriptRun Result}
    {next : Result → ScriptRun Unit} {result : Result}
    (ran : run.outcome world = (.ok result, between))
    (size : between.engines.size = world.engines.size) (log : between.log = world.log)
    (comes : (next result).ComesTo engine entry execution between) :
    (run >>= next).ComesTo engine entry execution world := by
  obtain ⟨after, went, sizeAfter, sessionAfter, logAfter⟩ := comes
  refine ⟨after, (outcome_settle_bind ran).trans went, sizeAfter.trans size, sessionAfter, ?_⟩
  rw [logAfter, log]

/-- A run that notes an event first comes to the event and what follows comes to. -/
theorem Run.ComesTo.noted {event : SessionEvent} {next : Unit → ScriptRun Unit} {session : Session}
    (found : world.session engine = session)
    (comes : ∀ noted : World, noted.engines = world.engines →
      (next ()).ComesTo engine entry execution noted) :
    (noteMoment engine entry event >>= next).ComesTo engine entry
      ((Execution.happened session event).andThen execution) world := by
  subst found
  refine .after (outcome_noteMoment engine entry event world) rfl ?_ (comes _ rfl)
  exact Array.toList_push

/-- What a frame runs comes to what is executed in it. -/
theorem polledBody_comesTo {kind : FrameKind} {body : ScriptRun Unit}
    {inside : Session → Execution} {entered : Session}
    (found : world.session engine = entered)
    (comes : ∀ started : World, started.engines = world.engines →
      body.ComesTo engine entry (inside entered) started) :
    ∃ after, (polledBody entered (do noteMoment engine entry (.started kind); body)).outcome world =
        (.ok (resultOf (Execution.polled entered kind inside).failure), after) ∧
      after.engines.size = world.engines.size ∧
      after.session engine = (Execution.polled entered kind inside).session ∧
      after.log.toList = world.log.toList ++
        (Execution.polled entered kind inside).moments.map entry := by
  unfold polledBody Execution.polled
  cases entered.poll with
  | error error => exact ⟨world, rfl, rfl, found, (List.append_nil _).symm⟩
  | ok _ =>
    have noted : (noteMoment engine entry (.started kind) >>= fun _ => body).ComesTo engine entry
        ((Execution.happened entered (.started kind)).andThen (inside entered)) world :=
      .noted found comes
    obtain ⟨after, ran, size, session, log⟩ := noted
    exact ⟨{ after with held := world.held }, outcome_settle_scope ran, size, session, log⟩

theorem outcome_idling (engine : EngineId) (entry : Moment → LogEntry Shown) {owed : Bool}
    (quiet : (onIdle owed).IsQuiet) (cells : List CellId) (world : World) :
    ∃ last, (scope (do holdCells cells; idling engine onIdle entry owed)).outcome world =
        (.ok (), last) ∧
      last.engines.size = world.engines.size ∧ last.session engine = world.session engine ∧
      last.log = world.log.push (entry ⟨world.session engine, .idled owed⟩) := by
  obtain ⟨_, after, ran, kept⟩ := quiet { world.holding cells with
    log := world.log.push (entry ⟨world.session engine, .idled owed⟩) }
  refine ⟨{ after with held := world.held }, ?_, kept.size, kept.session engine, kept.log⟩
  have noted : (do holdCells cells; idling engine onIdle entry owed : ScriptRun Unit).outcome
      world = (.ok (), after) := ran
  rw [outcome_scope, noted]

/-- Where what is done on idling is quiet otherwise, a frame comes to its execution. -/
theorem frameWith_comesTo (quiet : ∀ owed, (onIdle owed).IsQuiet) (kind : FrameKind)
    {body : ScriptRun Unit} {inside : Session → Execution} {session : Session}
    (known : engine < world.engines.size) (found : world.session engine = session)
    (comes : ∀ (entered : Session) (started : World), engine < started.engines.size →
      started.session engine = entered → body.ComesTo engine entry (inside entered) started) :
    (frameWith (idling engine onIdle entry) engine kind (do
      noteMoment engine entry (.started kind)
      body)).ComesTo engine entry (Execution.frame kind session inside) world := by
  subst found
  unfold Execution.frame
  cases enters : (world.session engine).enter kind with
  | error error =>
    refine ⟨world, ?_, rfl, rfl, (List.append_nil _).symm⟩
    rw [outcome_settle, outcome_frameWith_refused enters]
    rfl
  | ok entered =>
    have size := world.size_withSession engine entered
    have foundEntered : (world.withSession engine entered).session engine = entered :=
      World.session_withSession_self known
    obtain ⟨after, ran, sizeAfter, sessionAfter, logAfter⟩ :=
      polledBody_comesTo foundEntered fun started same =>
        comes entered started (by rw [same, size]; exact known)
          (by unfold World.session World.engine; rw [same]; exact foundEntered)
    have knownAfter : engine < after.engines.size := by rw [sizeAfter, size]; exact known
    show Run.ComesTo _ _ _ ((Execution.polled entered kind inside).left.asFrame kind _) world
    rcases leaves : (Execution.polled entered kind inside).session.leave
        (Execution.polled entered kind inside).failure with ⟨left, ended⟩
    have leavesAfter : (after.session engine).leave
        (failure? (resultOf (Execution.polled entered kind inside).failure)) = (left, ended) := by
      rw [sessionAfter, failure?_resultOf, leaves]
    have sizeLeft := after.size_withSession engine left
    have foundLeft : (after.withSession engine left).session engine = left :=
      World.session_withSession_self knownAfter
    cases ended with
    | none =>
      rw [Execution.left_of_nested leaves]
      refine ⟨after.withSession engine left, ?_, sizeLeft.trans (sizeAfter.trans size), foundLeft,
        logAfter⟩
      rw [outcome_settle, outcome_frameWith_nested enters ran leavesAfter]
      exact outcome_settle_ofExcept _ _
    | some owed =>
      obtain ⟨last, idled, sizeLast, sessionLast, logLast⟩ := outcome_idling engine entry
        (quiet owed) (outcomeCells (resultOf _)) (after.withSession engine left)
      rw [Execution.left_of_outermost leaves]
      refine ⟨last, ?_, sizeLast.trans (sizeLeft.trans (sizeAfter.trans size)),
        sessionLast.trans foundLeft, ?_⟩
      · rw [outcome_settle, outcome_frameWith_outermost enters ran leavesAfter idled]
        exact outcome_settle_ofExcept _ _
      · rw [logLast, Array.toList_push, foundLeft]
        show after.log.toList ++ _ = _
        rw [logAfter, List.append_assoc, ← List.map_singleton, ← List.map_append]
        rfl

/-- An activity in a world comes to its execution. -/
theorem Activity.run_comesTo (quiet : ∀ owed, (onIdle owed).IsQuiet) (activity : Activity) :
    ∀ (session : Session) (world : World), engine < world.engines.size →
      world.session engine = session →
      (activity.run engine onIdle entry).ComesTo engine entry (activity.execute session) world := by
  induction activity with
  | finish failure =>
    intro session world _ found
    exact ⟨world, outcome_settle_ofExcept _ _, rfl, found, (List.append_nil _).symm⟩
  | frame kind body next bodyHypothesis nextHypothesis =>
    intro session world known found
    obtain ⟨between, ran, size, sessionBetween, log⟩ :=
      frameWith_comesTo quiet kind known found bodyHypothesis
    refine Run.ComesTo.after ran size log ?_
    rw [failure?_resultOf]
    exact nextHypothesis _ _ between (by rw [size]; exact known) sessionBetween
  | interrupt next inductionHypothesis =>
    intro session world known found
    subst found
    let asked := world.withSession engine (world.session engine).requestInterrupt.2
    have sessionAsked : asked.session engine = (world.session engine).requestInterrupt.2 :=
      World.session_withSession_self known
    have size : asked.engines.size = world.engines.size := world.size_withSession engine _
    have ran : (requestInterrupt engine : ScriptRun Bool).outcome world =
        (.ok (world.session engine).requestInterrupt.1, asked) := rfl
    refine .silent ran size rfl (.noted sessionAsked fun noted same => ?_)
    exact inductionHypothesis _ (world.session engine).requestInterrupt.2 noted
      (by rw [same, size]; exact known) ((World.session_congr same).trans sessionAsked)
  | collect next inductionHypothesis =>
    intro session world known found
    subst found
    unfold Activity.execute
    split
    · next busy =>
      obtain ⟨owing, ran, size, sessionOwing, log⟩ := outcome_collect_of_busy known busy
      refine .silent ran size log (.noted sessionOwing fun noted same => ?_)
      refine inductionHypothesis _ noted (by rw [same, size]; exact known) ?_
      rw [World.session_congr same, sessionOwing]
    · next idle =>
      obtain ⟨swept, after, ran, kept⟩ := outcome_collect_of_idle idle
      refine .silent ran kept.size kept.log ?_
      refine inductionHypothesis _ after (by rw [kept.size]; exact known) (kept.session engine)
  | look next inductionHypothesis =>
    intro session world known found
    refine .silent (outcome_engine engine world) rfl rfl (.noted found fun noted same => ?_)
    subst found
    refine inductionHypothesis _ _ noted (by rw [same]; exact known) ?_
    rw [World.session_congr same]

end ComesTo

end ScriptBridge
