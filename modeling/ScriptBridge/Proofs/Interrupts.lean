/-
This file follows an interrupt on its way out of nested calls. Frames of any engines
lie inside each other, with handlers, host code and functions of other engines in
between; what fails at the bottom meets them from the inside out. Leaving a frame
touches only its own engine, so that what was asked of the engines when the bottom
failed is what every crossing sees. An interrupt passes crossings whose engines were
asked, and no handler runs; the first crossing whose engine was not asked turns it
into a fault that the next handler catches, also one of the engine it came from.
-/

import ScriptBridge.Script.Module
import ScriptBridge.Proofs.SessionFrames

namespace ScriptBridge

open Run Bridge Script

/-! ### Layers -/

/-- What lies around a part of nested calls. -/
inductive Layer
  /-- A frame of script. -/
  | script (engine : EngineId)
  /-- Something done before. -/
  | first (before : ScriptRun Unit)
  /-- A handler in script. -/
  | attempt (handler : Script.Value → ScriptRun Script.Value)
  /-- Host code that passes on the errors of what it calls. -/
  | host (engine : EngineId)
  /-- A call from an engine into another one. -/
  | foreign (engine : EngineId)

namespace Layer

/-- What is inside, with the layer around it. -/
def around : Layer → ScriptRun Script.Value → ScriptRun Script.Value
  | .script engine, inside => frame engine .script inside
  | .first before, inside => do before; inside
  | .attempt handler, inside => tryCatch inside handler
  | .host engine, inside => callHost engine (mapFailure (fun _ error => .nested error) inside)
  | .foreign engine, inside => frame engine .foreign (mapFailure (foreignFailure engine) inside)

/-- What is inside, with all layers around it, the outermost first. -/
def wrap (layers : List Layer) (inside : ScriptRun Script.Value) : ScriptRun Script.Value :=
  layers.foldr around inside

/-- The engine of the layer's frame. -/
def frameOf? : Layer → Option EngineId
  | .script engine | .host engine | .foreign engine => some engine
  | .first _ | .attempt _ => none

/-- The engine that is left at the layer on the way to another one, or to host code. -/
def crossing? : Layer → Option EngineId
  | .host engine | .foreign engine => some engine
  | _ => none

/-- Is the layer a handler? -/
def isHandler : Layer → Bool
  | .attempt _ => true
  | _ => false

/-- The error that a layer makes of one from inside, given which engines are asked to stop. -/
def meet (asked : EngineId → Bool) : Layer → ScriptError → ScriptError
  | .host engine, error => (HostError.nested error).toScriptError (asked engine)
  | .foreign engine, error =>
    if error.isInterrupt && !asked engine then .execution (.nested error) else error
  | _, error => error

/-- The error that layers make of one from inside, if no handler runs. -/
def meetAll (asked : EngineId → Bool) (layers : List Layer) (error : ScriptError) : ScriptError :=
  layers.foldr (meet asked) error

/-- Every crossing is of an engine that is asked to stop. -/
def AllAsked (asked : EngineId → Bool) (layers : List Layer) : Prop :=
  ∀ layer ∈ layers, ∀ engine, layer.crossing? = some engine → asked engine = true

theorem AllAsked.rest {asked : EngineId → Bool} {layer : Layer} {layers : List Layer}
    (all : AllAsked asked (layer :: layers)) : AllAsked asked layers :=
  fun other member => all other (List.mem_cons_of_mem layer member)

theorem AllAsked.inner {asked : EngineId → Bool} {outer layers : List Layer}
    (all : AllAsked asked (outer ++ layers)) : AllAsked asked layers :=
  fun layer member => all layer (List.mem_append_right outer member)

/-- The error unwinds every handler among the layers. -/
def Unwinds (asked : EngineId → Bool) (layers : List Layer) (error : ScriptError) : Prop :=
  ∀ outer handler rest, layers = outer ++ .attempt handler :: rest →
    (meetAll asked rest error).isInterrupt = true

theorem Unwinds.rest {asked : EngineId → Bool} {layer : Layer} {layers : List Layer}
    {error : ScriptError} (unwinds : Unwinds asked (layer :: layers) error) :
    Unwinds asked layers error :=
  fun outer handler rest split => unwinds (layer :: outer) handler rest (congrArg _ split)

end Layer

/-! ### Errors on their way out -/

section Errors

variable {asked : EngineId → Bool} {layers : List Layer} {error : ScriptError}

/-- An interrupt stays one where every crossing is of an engine that is asked. -/
theorem meetAll_of_allAsked (all : Layer.AllAsked asked layers) :
    Layer.meetAll asked layers .interrupted = .interrupted := by
  induction layers with
  | nil => rfl
  | cons layer rest inductionHypothesis =>
    have inside := inductionHypothesis all.rest
    have here := all layer List.mem_cons_self
    show layer.meet asked (Layer.meetAll asked rest .interrupted) = _
    rw [inside]
    cases layer with
    | host engine =>
      show (HostError.nested ScriptError.interrupted).toScriptError (asked engine) = _
      rw [here engine rfl]
      rfl
    | foreign engine =>
      show (if ScriptError.interrupted.isInterrupt && !asked engine then _ else _) = _
      rw [here engine rfl]
      rfl
    | _ => rfl

/-- What is not an interrupt does not become one. -/
theorem meet_isInterrupt {layer : Layer} (plain : error.isInterrupt = false) :
    (layer.meet asked error).isInterrupt = false := by
  cases layer with
  | host engine =>
    show ((HostError.nested error).toScriptError (asked engine)).isInterrupt = false
    unfold HostError.toScriptError
    dsimp only
    rw [plain]
    rfl
  | foreign engine =>
    show (if error.isInterrupt && !asked engine then _ else error).isInterrupt = false
    rw [plain]
    exact plain
  | _ => exact plain

/-- A crossing of an engine that is not asked makes an ordinary fault of everything. -/
theorem meet_of_not_asked {layer : Layer} {engine : EngineId}
    (crosses : layer.crossing? = some engine) (spared : asked engine = false) :
    (layer.meet asked error).isInterrupt = false := by
  cases layer with
  | host other =>
    cases crosses
    show ((HostError.nested error).toScriptError (asked engine)).isInterrupt = false
    unfold HostError.toScriptError
    dsimp only
    rw [spared, Bool.and_false]
    rfl
  | foreign other =>
    cases crosses
    show (if error.isInterrupt && !asked engine then _ else error).isInterrupt = false
    rw [spared, Bool.not_false, Bool.and_true]
    split
    · rfl
    · next plain => exact Bool.eq_false_iff.mpr plain
  | _ => cases crosses

/-- Past a crossing of an engine that is not asked, an error is none that unwinds. -/
theorem meetAll_of_not_allAsked (some_spared : ¬Layer.AllAsked asked layers) :
    (Layer.meetAll asked layers error).isInterrupt = false := by
  induction layers with
  | nil => exact absurd (fun _ member => nomatch member) some_spared
  | cons layer rest inductionHypothesis =>
    by_cases further : Layer.AllAsked asked rest
    · obtain ⟨engine, crosses, spared⟩ : ∃ engine, layer.crossing? = some engine ∧
          asked engine = false := by
        by_contra never
        refine some_spared fun other member engine crosses => ?_
        rcases List.mem_cons.mp member with rfl | inside
        · by_contra spared
          exact never ⟨engine, crosses, Bool.eq_false_iff.mpr spared⟩
        · exact further other inside engine crosses
      exact meet_of_not_asked crosses spared
    · exact meet_isInterrupt (inductionHypothesis further)

end Errors

/-! ### Frames that fail -/

namespace World

/-- Is an engine asked to stop? -/
def asked (world : World) (engine : EngineId) : Bool := (world.session engine).interruptRequested

end World

/-- A frame has been left with a failure, in the world that its body left. -/
structure FrameLeft (world later last : World) (engine : EngineId) (error : ScriptError) :
    Prop where
  keeps : world.KeepsStacks last
  others : ∀ other, engine ≠ other → last.session other = later.session other
  /-- Inside other frames of the engine what was asked of it stays asked. -/
  nested : (world.session engine).isBusy = true → last.asked engine = later.asked engine
  outermost : (world.session engine).isBusy = false →
    (last.session engine).state = .idle ∧
      (last.session engine).outcome = Session.outcomeOf (some error)

section FrameFails

variable {Result : Type} [HoldsCells Result] {body : ScriptRun Result}
  {world next later : World} {engine : EngineId} {kind : FrameKind} {entered : Session}
  {error : ScriptError}

theorem frame_fails_entered (known : engine < world.engines.size)
    (enters : (world.session engine).enter kind = .ok entered)
    (ran : (polledBody entered body).outcome (world.withSession engine entered) =
      (.ok (.error error), later))
    (balanced : (world.withSession engine entered).KeepsStacks later) :
    ∃ last, (frame engine kind body).outcome world = (.error (.raised error), last) ∧
      FrameLeft world later last engine error := by
  have knownLater : engine < later.engines.size := by
    rw [balanced.size, World.size_withSession]
    exact known
  obtain ⟨frames, -⟩ := Session.enter_eq_ok enters
  have stack : (later.session engine).frames = (world.session engine).frames.push kind := by
    rw [balanced.frames engine, World.session_withSession_self known, frames]
  have depth : (later.session engine).depth = (world.session engine).depth + 1 := by
    unfold Session.depth
    rw [stack]
    rfl
  have popped : ((later.session engine).leave (some error)).1.frames =
      (world.session engine).frames := by
    rw [Session.frames_leave, stack]
    rfl
  obtain ⟨last, failed, keeps, -⟩ := outcome_frame_left enters ran
  have own : last.session engine = ((later.session engine).leave (some error)).1 :=
    (keeps.session engine).trans (World.session_withSession_self knownLater)
  refine ⟨last, failed, (balanced.withSession knownLater popped).trans ⟨keeps.size, ?_⟩, ?_, ?_, ?_⟩
  · exact fun other => congrArg Session.frames (keeps.session other)
  · intro other different
    rw [keeps.session, World.session_withSession_of_ne different]
  · intro busy
    unfold World.asked
    rw [own, Session.leave_of_nested (depth ▸ Nat.succ_lt_succ (Session.isBusy_iff.mp busy))]
  · intro idle
    have none_active : (world.session engine).depth = 0 :=
      Nat.eq_zero_of_not_pos fun active =>
        Bool.eq_false_iff.mp idle (Session.isBusy_iff.mpr active)
    obtain ⟨left, leaves, -, -, state, outcome, -⟩ :=
      Session.leave_of_outermost (depth.trans (congrArg (· + 1) none_active)) (some error)
    rw [own, leaves]
    exact ⟨state, outcome⟩

omit [HoldsCells Result] in
/-- A body without an interrupt pending settles as it fails. -/
theorem polledBody_raises (unasked : entered.interruptRequested = false)
    (fails : body.outcome (world.withSession engine entered) = (.error (.raised error), later)) :
    (polledBody entered body).outcome (world.withSession engine entered) =
      (.ok (.error error), { later with held := world.held }) := by
  have failsInside : (do ofExcept entered.poll; body : ScriptRun Result).outcome
      (world.withSession engine entered) = (.error (.raised error), later) := by
    unfold Session.poll
    rw [unasked]
    exact fails
  unfold polledBody
  rw [outcome_settle, outcome_scope, failsInside]
  rfl

/-- A frame whose body fails fails the same way, and leaves its engine as it found it. -/
theorem frame_fails (enters : world.Enters engine kind next)
    (fails : body.outcome next = (.error (.raised error), later))
    (balanced : next.KeepsStacks later) :
    ∃ last, (frame engine kind body).outcome world = (.error (.raised error), last) ∧
      FrameLeft world later last engine error := by
  obtain ⟨known, entered, enters, unasked, rfl⟩ := enters
  obtain ⟨last, failed, left⟩ :=
    frame_fails_entered known enters (polledBody_raises unasked fails)
    ⟨balanced.size, balanced.frames⟩
  exact ⟨last, failed, left.keeps, left.others, left.nested, left.outermost⟩

end FrameFails

/-! ### Way in, way out -/

/-- The way in through layers, the outermost first, from a world to the one that what is inside
them starts in. -/
inductive Descends : World → List Layer → World → Prop
  | done (world : World) : Descends world [] world
  | script {world next deep : World} {engine : EngineId} {rest : List Layer}
      (enters : world.Enters engine .script next) (inwards : Descends next rest deep) :
      Descends world (.script engine :: rest) deep
  | first {world next deep : World} {before : ScriptRun Unit} {rest : List Layer}
      (ran : before.outcome world = (.ok (), next)) (balanced : world.KeepsStacks next)
      (inwards : Descends next rest deep) : Descends world (.first before :: rest) deep
  | attempt {world deep : World} {rest : List Layer}
      (handler : Script.Value → ScriptRun Script.Value) (inwards : Descends world rest deep) :
      Descends world (.attempt handler :: rest) deep
  | host {world next deep : World} {engine : EngineId} {rest : List Layer}
      (alive : (world.engine engine).isDisposed = false)
      (enters : world.Enters engine .hostCall next) (inwards : Descends next rest deep) :
      Descends world (.host engine :: rest) deep
  | foreign {world next deep : World} {engine : EngineId} {rest : List Layer}
      (enters : world.Enters engine .foreign next) (inwards : Descends next rest deep) :
      Descends world (.foreign engine :: rest) deep

/-- What a failure from inside leaves on its way out. -/
structure Unwound (world : World) (layers : List Layer) (after : World) (error : ScriptError)
    (last : World) : Prop where
  keeps : world.KeepsStacks last
  asked : ∀ engine, (world.session engine).isBusy = true → last.asked engine = after.asked engine
  /-- An engine whose outermost frame was among the layers is idle, with what that frame failed
  with as its outcome. -/
  ended : ∀ {outer rest : List Layer} {layer : Layer} {engine : EngineId},
    layers = outer ++ layer :: rest → layer.frameOf? = some engine →
    (∀ other ∈ outer, other.frameOf? ≠ some engine) → (world.session engine).isBusy = false →
    (last.session engine).state = .idle ∧ (last.session engine).outcome =
      Session.outcomeOf (some (Layer.meetAll after.asked (layer :: rest) error))

section Unwinding

variable {world next deep after last later : World} {layers rest : List Layer} {layer : Layer}
  {engine : EngineId} {kind : FrameKind} {error : ScriptError}
  {inside : ScriptRun Script.Value}

theorem World.KeepsStacks.isBusy_eq (same : world.KeepsStacks next) (engine : EngineId) :
    (next.session engine).isBusy = (world.session engine).isBusy := by
  unfold Session.isBusy Session.depth
  rw [same.frames]

theorem World.Enters.isBusy (enters : world.Enters engine kind next) :
    (next.session engine).isBusy = true := by
  obtain ⟨known, entered, enters, -, rfl⟩ := enters
  obtain ⟨-, -, -, busy, -⟩ := Session.enter_eq_ok enters
  rw [World.session_withSession_self known]
  exact busy

theorem World.Enters.session_of_ne (enters : world.Enters engine kind next) {other : EngineId}
    (different : engine ≠ other) : next.session other = world.session other := by
  obtain ⟨-, entered, -, -, rfl⟩ := enters
  exact World.session_withSession_of_ne different

theorem Unwound.frame (inner : Unwound next rest after error later)
    (enters : world.Enters engine kind next) (owned : layer.frameOf? = some engine)
    (left : FrameLeft world later last engine (Layer.meetAll after.asked (layer :: rest) error)) :
    Unwound world (layer :: rest) after error last where
  keeps := left.keeps
  asked other busy := by
    by_cases here : engine = other
    · subst here
      rw [left.nested busy, inner.asked engine enters.isBusy]
    · rw [← enters.session_of_ne here] at busy
      rw [← inner.asked other busy]
      unfold World.asked
      rw [left.others other here]
  ended {outer inward framed other} split framed_by fresh idle := by
    cases outer with
    | nil =>
      cases split
      rw [owned] at framed_by
      cases framed_by
      exact left.outermost idle
    | cons first outer =>
      cases split
      have here : engine ≠ other := fun same =>
        fresh layer List.mem_cons_self (same ▸ owned)
      rw [← enters.session_of_ne here] at idle
      rw [left.others other here]
      exact inner.ended rfl framed_by
        (fun layer member => fresh layer (List.mem_cons_of_mem _ member)) idle

/-- A layer without a frame leaves no trace. -/
theorem Unwound.frameless (inner : Unwound next rest after error last)
    (kept : world.KeepsStacks next) (frameless : layer.frameOf? = none) :
    Unwound world (layer :: rest) after error last where
  keeps := kept.trans inner.keeps
  asked other busy := inner.asked other ((kept.isBusy_eq other).trans busy)
  ended {outer inward framed other} split framed_by fresh idle := by
    cases outer with
    | nil =>
      cases split
      rw [frameless] at framed_by
      cases framed_by
    | cons first outer =>
      cases split
      exact inner.ended rfl framed_by
        (fun layer member => fresh layer (List.mem_cons_of_mem _ member))
        ((kept.isBusy_eq other).trans idle)

/-- A handler runs with what it sees of an error, unless it cannot be caught. -/
theorem outcome_tryCatch_of_raised {handler : Script.Value → ScriptRun Script.Value}
    (failed : inside.outcome world = (.error (.raised error), last)) :
    (Script.tryCatch inside handler).outcome world =
      (if error.isCatchable then do
        holdCells error.cells
        handler (← held (caughtValue error))
      else raise error : ScriptRun Script.Value).outcome last := by
  have settled : (settle inside : ScriptRun (Except ScriptError Script.Value)).outcome world =
      (.ok (.error error), last) := by
    rw [outcome_settle, failed]
  unfold Script.tryCatch
  rw [outcome_bind_of_ok settled]

/-- An interrupt goes past a handler. -/
theorem tryCatch_of_interrupt {handler : Script.Value → ScriptRun Script.Value}
    (failed : inside.outcome world = (.error (.raised error), last))
    (interrupt : error.isInterrupt = true) :
    (Script.tryCatch inside handler).outcome world = (.error (.raised error), last) := by
  rw [outcome_tryCatch_of_raised failed]
  unfold ScriptError.isCatchable
  rw [interrupt]
  rfl

/-- Any other error is caught: the handler runs with what it sees of the error. -/
theorem tryCatch_of_fault {handler : Script.Value → ScriptRun Script.Value}
    (failed : inside.outcome world = (.error (.raised error), last))
    (fault : error.isInterrupt = false) :
    (Script.tryCatch inside handler).outcome world =
      (do holdCells error.cells; handler (← held (caughtValue error)) :
        ScriptRun Script.Value).outcome last := by
  rw [outcome_tryCatch_of_raised failed]
  unfold ScriptError.isCatchable
  rw [fault]
  rfl

/-- An error goes out through layers as they meet it, if it unwinds every handler. -/
theorem wrap_fails (inwards : Descends world layers deep)
    (fails : inside.outcome deep = (.error (.raised error), after))
    (balanced : deep.KeepsStacks after)
    (unwinds : Layer.Unwinds after.asked layers error) :
    ∃ last, (Layer.wrap layers inside).outcome world =
        (.error (.raised (Layer.meetAll after.asked layers error)), last) ∧
      Unwound world layers after error last := by
  induction inwards with
  | done world =>
    refine ⟨after, fails, balanced, fun _ _ => rfl, ?_⟩
    intro outer _ _ _ split
    cases outer <;> cases split
  | script enters inwards inductionHypothesis =>
    obtain ⟨later, failed, unwound⟩ := inductionHypothesis fails balanced unwinds.rest
    obtain ⟨last, left, leaves⟩ := frame_fails enters failed unwound.keeps
    exact ⟨last, left, unwound.frame enters rfl leaves⟩
  | first ran kept inwards inductionHypothesis =>
    obtain ⟨last, failed, unwound⟩ := inductionHypothesis fails balanced unwinds.rest
    exact ⟨last, (outcome_bind_of_ok ran).trans failed, unwound.frameless kept rfl⟩
  | @attempt world deep rest handler inwards inductionHypothesis =>
    obtain ⟨last, failed, unwound⟩ := inductionHypothesis fails balanced unwinds.rest
    exact ⟨last, tryCatch_of_interrupt failed (unwinds [] handler rest rfl),
      unwound.frameless (.refl _) rfl⟩
  | @host world next deep engine rest alive enters inwards inductionHypothesis =>
    obtain ⟨later, failed, unwound⟩ := inductionHypothesis fails balanced unwinds.rest
    have asks : (later.engine engine).session.interruptRequested = after.asked engine :=
      unwound.asked engine enters.isBusy
    have inHost : (mapFailure (fun world error =>
        error.toScriptError (world.engine engine).session.interruptRequested)
        (mapFailure (fun _ error => HostError.nested error) (Layer.wrap rest inside)) :
          ScriptRun Script.Value).outcome next =
        (.error (.raised (Layer.meetAll after.asked (.host engine :: rest) error)), later) := by
      rw [outcome_mapFailure, outcome_mapFailure, failed]
      dsimp only
      rw [asks]
      rfl
    obtain ⟨last, left, leaves⟩ := frame_fails enters inHost unwound.keeps
    have begins : (requireAlive engine).outcome world = (.ok (), world) := by
      unfold requireAlive
      rw [outcome_bind_of_ok (outcome_engine engine world), alive]
      rfl
    exact ⟨last, (outcome_bind_of_ok begins).trans left, unwound.frame enters rfl leaves⟩
  | @foreign world next deep engine rest enters inwards inductionHypothesis =>
    obtain ⟨later, failed, unwound⟩ := inductionHypothesis fails balanced unwinds.rest
    have asks : (later.engine engine).session.interruptRequested = after.asked engine :=
      unwound.asked engine enters.isBusy
    have inForeign : (mapFailure (foreignFailure engine) (Layer.wrap rest inside)).outcome next =
        (.error (.raised (Layer.meetAll after.asked (.foreign engine :: rest) error)), later) := by
      rw [outcome_mapFailure, failed]
      unfold foreignFailure
      dsimp only
      rw [asks]
      rfl
    obtain ⟨last, left, leaves⟩ := frame_fails enters inForeign unwound.keeps
    exact ⟨last, left, unwound.frame enters rfl leaves⟩

end Unwinding

/-! ### Interrupts -/

/-- The first of the layers that is a frame of an engine. -/
theorem exists_outermost {layers : List Layer} {engine : EngineId}
    (framed : ∃ layer ∈ layers, layer.frameOf? = some engine) :
    ∃ outer layer rest, layers = outer ++ layer :: rest ∧ layer.frameOf? = some engine ∧
      ∀ other ∈ outer, other.frameOf? ≠ some engine := by
  obtain ⟨layer, member, owned⟩ := framed
  cases found : layers.find? (fun layer => layer.frameOf? == some engine) with
  | none =>
    have never := List.find?_eq_none.mp found layer member
    rw [owned] at never
    exact absurd (beq_self_eq_true _) never
  | some first =>
    obtain ⟨matches_, outer, rest, split, before⟩ := List.find?_eq_some_iff_append.mp found
    refine ⟨outer, first, rest, split, beq_iff_eq.mp matches_, fun other member same => ?_⟩
    have spared := before other member
    rw [same] at spared
    simp at spared

/-- An interrupt at the bottom of nested calls. Where every engine that is left on the way out has
been asked to stop, it goes past every handler, and each engine whose outermost call is among them
ends up interrupted. Where one has not, what comes out is an ordinary fault, and the next handler
around runs, whichever engine it is of. -/
theorem interrupt_unwinds_iff_asked {world deep after : World} {layers : List Layer}
    {inside : ScriptRun Script.Value} (inwards : Descends world layers deep)
    (interrupted : inside.outcome deep = (.error (.raised .interrupted), after))
    (balanced : deep.KeepsStacks after) :
    (Layer.AllAsked after.asked layers → ∃ last,
      (Layer.wrap layers inside).outcome world = (.error (.raised .interrupted), last) ∧
        ∀ engine, (∃ layer ∈ layers, layer.frameOf? = some engine) →
          (world.session engine).isBusy = false →
          (last.session engine).state = .idle ∧ (last.session engine).outcome = .interrupted) ∧
      (¬Layer.AllAsked after.asked layers → (∀ layer ∈ layers, layer.isHandler = false) →
        ∃ error last, error.isCatchable = true ∧
          (Layer.wrap layers inside).outcome world = (.error (.raised error), last) ∧
          ∀ handler, (Script.tryCatch (Layer.wrap layers inside) handler).outcome world =
            (do holdCells error.cells; handler (← held (caughtValue error)) :
              ScriptRun Script.Value).outcome last) := by
  constructor
  · intro all
    have unwinds : Layer.Unwinds after.asked layers .interrupted := by
      rintro outer handler rest rfl
      rw [meetAll_of_allAsked all.inner.rest]
      rfl
    obtain ⟨last, failed, unwound⟩ := wrap_fails inwards interrupted balanced unwinds
    rw [meetAll_of_allAsked all] at failed
    refine ⟨last, failed, fun engine framed idle => ?_⟩
    obtain ⟨outer, layer, rest, rfl, owned, fresh⟩ := exists_outermost framed
    obtain ⟨state, outcome⟩ := unwound.ended rfl owned fresh idle
    rw [meetAll_of_allAsked all.inner] at outcome
    exact ⟨state, outcome⟩
  · intro spared plain
    have unwinds : Layer.Unwinds after.asked layers .interrupted := by
      rintro outer handler rest rfl
      exact nomatch plain (.attempt handler) (List.mem_append_right _ List.mem_cons_self)
    obtain ⟨last, failed, -⟩ := wrap_fails inwards interrupted balanced unwinds
    have fault : (Layer.meetAll after.asked layers .interrupted).isInterrupt = false :=
      meetAll_of_not_allAsked spared
    refine ⟨_, last, ?_, failed, fun handler => tryCatch_of_fault failed fault⟩
    unfold ScriptError.isCatchable
    rw [fault]
    rfl

/-- Asks an engine to stop and stops there if it should. -/
def stopNow (engine : EngineId) : ScriptRun Script.Value := do
  let _accepted ← requestInterrupt engine
  ofExcept (← Run.engine engine).session.poll
  return .undefined

/-- A running engine that asks itself to stop stops. -/
theorem stopNow_interrupts {world : World} {engine : EngineId}
    (known : engine < world.engines.size) (running : (world.session engine).state = .running) :
    ∃ after, (stopNow engine).outcome world = (.error (.raised .interrupted), after) ∧
      world.KeepsStacks after ∧
        ∀ other, engine ≠ other → after.session other = world.session other := by
  obtain ⟨flagged, accepts, flag, frames⟩ : ∃ flagged,
      (world.session engine).requestInterrupt = (true, flagged) ∧
        flagged.interruptRequested = true ∧ flagged.frames = (world.session engine).frames := by
    unfold Session.requestInterrupt
    rw [if_pos (beq_iff_eq.mpr running)]
    exact ⟨_, rfl, rfl, rfl⟩
  have asked : (requestInterrupt engine : ScriptRun Bool).outcome world =
      (.ok true, world.withSession engine flagged) := by
    unfold World.session at accepts
    unfold requestInterrupt
    rw [outcome_bind_of_ok (outcome_engine engine world), accepts]
    rfl
  have found : (world.withSession engine flagged).session engine = flagged :=
    World.session_withSession_self known
  refine ⟨world.withSession engine flagged, ?_, ⟨World.size_withSession _ _ _, fun other => ?_⟩,
    fun other different => World.session_withSession_of_ne different⟩
  · unfold World.session at found
    unfold stopNow Session.poll
    rw [outcome_bind_of_ok asked, outcome_bind_of_ok (outcome_engine engine _), found, flag]
    rfl
  · by_cases here : engine = other
    · subst here
      rw [found, frames]
    · rw [World.session_withSession_of_ne here]

/-- Two engines without anything in them. -/
def twoEngines : World := { engines := #[Engine.new "A" {} none, Engine.new "B" {} none] }

/-- A session that has entered its outermost frame. -/
def outermostOf (kind : FrameKind) : Session :=
  { state := .running, frames := FrameStack.push default kind }

/-- The second engine calls a function of the first, which is asked to stop: what comes out at the
second is a fault. -/
theorem interrupt_unwinds_iff_asked_of_caller :
    ∃ error last, error.isCatchable = true ∧
      (Layer.wrap [.foreign 1, .script 0] (stopNow 0)).outcome twoEngines =
        (.error (.raised error), last) := by
  let deep := (twoEngines.withSession 1 (outermostOf .foreign)).withSession 0 (outermostOf .script)
  have inwards : Descends twoEngines [.foreign 1, .script 0] deep :=
    .foreign ⟨by decide, _, rfl, rfl, rfl⟩ (.script ⟨by decide, _, rfl, rfl, rfl⟩ (.done _))
  have known : 0 < deep.engines.size := by decide
  obtain ⟨after, interrupted, balanced, others⟩ := stopNow_interrupts known rfl
  have spared : ¬Layer.AllAsked after.asked [.foreign 1, .script 0] := by
    intro all
    have asked := all (.foreign 1) List.mem_cons_self 1 rfl
    unfold World.asked at asked
    rw [others 1 Nat.zero_ne_one] at asked
    cases asked
  obtain ⟨error, last, catchable, failed, -⟩ :=
    (interrupt_unwinds_iff_asked inwards interrupted balanced).2 spared (by decide)
  exact ⟨error, last, catchable, failed⟩

/-- The second engine's function calls the first engine's, which asks the first engine to stop and
polls. -/
def callingBack : World :=
  { twoEngines with
    store := { cells := #[
      some (.function ⟨"inner", 0, .script "A", .sequence [.interrupt "A", .poll]⟩),
      some (.function ⟨"middle", 1, .script "B", .call (.register "inner") []⟩)] }
    registers := [("inner", .function 0), ("middle", .function 1)] }

/-- Script of the first engine that calls the second one's function, with a handler around. -/
def callsAndCatches : ScriptRun Script.Value :=
  frame 0 .script (runCompiled (startWithin 4) 0 (.script "A")
    (.code (.attempt (.call (.register "middle") []) "error" (.string "caught"))))

/-- Does a run come to a text? -/
def comesToText (text : String) : Except (Halt ScriptError) Script.Value → Bool
  | .ok (.string other) => other == text
  | _ => false

/-- Was a run interrupted? -/
def isInterrupted : Except (Halt ScriptError) Script.Value → Bool
  | .error (.raised error) => error.isInterrupt
  | _ => false

/-- The function of the first engine is interrupted because that was asked of its own engine. Behind
the second engine, script of the first catches it nevertheless, and its call ends as if nothing had
happened. -/
theorem interrupt_caught_behind_other_engine :
    isInterrupted ((callFunction (startWithin 4) 0 0 []).outcome callingBack).1 = true ∧
      comesToText "caught" (callsAndCatches.outcome callingBack).1 = true ∧
      ((callsAndCatches.outcome callingBack).2.session 0).outcome = .idle := by
  decide +kernel

end ScriptBridge
