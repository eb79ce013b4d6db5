/-
This file proves that a call goes on the same whether or not its engine owes a
collection. Nothing but the end of the outermost frame looks at what is owed, so a
run in which collections are asked for does what the same run does without, and
the engine may owe one more when it has ended. The runs are taken as they are made
of others: what asks for a collection may stand anywhere, in frames of any engine
and however deep.
-/

import ScriptBridge.Proofs.ProxyLives
import ScriptBridge.Proofs.SessionFrames

namespace ScriptBridge

open Run Bridge

/-! ### Sessions that owe -/

namespace Session

variable {session entered : Session} {kind : FrameKind} {owed : Bool}

/-- The session, owing a collection besides if so told. -/
def oweIf (session : Session) (owed : Bool) : Session :=
  { session with collectionOwed := owed || session.collectionOwed }

theorem oweIf_oweIf (session : Session) (owed more : Bool) :
    (session.oweIf owed).oweIf more = session.oweIf (more || owed) := by
  unfold oweIf
  rw [Bool.or_assoc]

theorem enter_oweIf (enters : session.enter kind = .ok entered) (owed : Bool) :
    (session.oweIf owed).enter kind = .ok (entered.oweIf owed) := by
  have busy : (session.oweIf owed).isBusy = session.isBusy := rfl
  unfold enter at enters ⊢
  rw [busy]
  split at enters
  · next idle =>
    cases enters
    rw [if_pos idle]
    rfl
  · next inside =>
    rw [if_neg inside]
    split at enters
    · cases enters
    · next room =>
      cases enters
      exact if_neg room

theorem enter_oweIf_of_error {error : ScriptError} (refuses : session.enter kind = .error error)
    (owed : Bool) : (session.oweIf owed).enter kind = .error error := by
  obtain ⟨rfl, busy, full⟩ := enter_eq_error refuses
  have inside : ¬(!(session.oweIf owed).isBusy) = true := by
    rw [show (session.oweIf owed).isBusy = true from busy]
    exact Bool.false_ne_true
  exact (if_neg inside).trans (if_pos full)

/-- Only the end of the outermost frame looks at what is owed. -/
theorem leave_oweIf {left : Session} {failure : Option ScriptError} {idled : Option Bool}
    (leaves : session.leave failure = (left, idled)) (inside : owed = true → 1 < session.depth) :
    (session.oweIf owed).leave failure = (left.oweIf owed, idled) := by
  cases owed with
  | false => exact leaves
  | true =>
    have nested : 1 < session.depth := inside rfl
    rw [leave_of_nested nested] at leaves
    cases leaves
    exact leave_of_nested nested

/-- The end of the outermost frame tells what is owed, and leaves the same session. -/
theorem leave_oweIf_of_outermost (outermost : session.depth = 1) (owed : Bool)
    (failure : Option ScriptError) :
    ∃ left, session.leave failure = (left, some session.collectionOwed) ∧
      (session.oweIf owed).leave failure = (left, some (owed || session.collectionOwed)) := by
  unfold leave
  rw [show (session.oweIf owed).depth = session.depth from rfl, outermost]
  exact ⟨_, rfl, rfl⟩

end Session

/-! ### Worlds in which an engine owes -/

namespace World

variable {world before after : World} {engine other : EngineId} {owed : Bool}

/-- The world, with the engine owing a collection besides if so told. -/
def owingIf (world : World) (engine : EngineId) (owed : Bool) : World :=
  world.modifyEngine engine fun state => { state with session := state.session.oweIf owed }

theorem owingIf_false (world : World) (engine : EngineId) : world.owingIf engine false = world :=
  world.modifyEngine_id engine

theorem owingIf_owingIf (world : World) (engine : EngineId) (owed more : Bool) :
    (world.owingIf engine owed).owingIf engine more = world.owingIf engine (more || owed) := by
  unfold owingIf
  rw [modifyEngine_modifyEngine]
  refine modifyEngine_congr ?_
  dsimp only [Function.comp_apply]
  rw [Session.oweIf_oweIf]

/-- Only the session of the engine owes. -/
theorem engine_owingIf (world : World) (engine : EngineId) (owed : Bool) (other : EngineId) :
    ∃ session, (world.owingIf engine owed).engine other = { world.engine other with session } := by
  by_cases here : engine = other
  · subst here
    rcases Nat.lt_or_ge engine world.engines.size with known | unknown
    · exact ⟨_, engine_modifyEngine_self known⟩
    · refine ⟨(world.engine engine).session, ?_⟩
      unfold owingIf World.engine modifyEngine
      rw [Array.getElem?_modify, if_pos rfl, Array.getElem?_eq_none unknown]
      rfl
  · exact ⟨_, engine_modifyEngine_of_ne here⟩

theorem session_owingIf (known : engine < world.engines.size) (owed : Bool) (other : EngineId) :
    (world.owingIf engine owed).session other =
      (world.session other).oweIf (engine == other && owed) := by
  unfold World.session owingIf
  by_cases here : engine = other
  · subst here
    rw [engine_modifyEngine_self known, beq_self_eq_true]
    rfl
  · rw [engine_modifyEngine_of_ne here, beq_false_of_ne here]
    rfl

theorem withSession_owingIf (world : World) (engine other : EngineId) (owed : Bool)
    (session : Session) :
    (world.owingIf engine owed).withSession other (session.oweIf (engine == other && owed)) =
      (world.withSession other session).owingIf engine owed := by
  by_cases here : engine = other
  · subst here
    rw [beq_self_eq_true]
    unfold owingIf withSession
    rw [modifyEngine_modifyEngine, modifyEngine_modifyEngine]
    rfl
  · rw [beq_false_of_ne here]
    exact modifyEngine_comm fun same => absurd same here

/-- A session that is replaced owes nothing besides. -/
theorem withSession_of_owingIf (world : World) (engine : EngineId) (owed : Bool)
    (session : Session) :
    (world.owingIf engine owed).withSession engine session = world.withSession engine session :=
  world.modifyEngine_modifyEngine engine _ _

theorem reap_owingIf (world : World) (engine : EngineId) (owed : Bool) :
    (world.owingIf engine owed).reap = world.reap.owingIf engine owed := by
  have spares : SparesCells (·.owingIf engine owed) :=
    .modifyEngine engine (fun _ => rfl) fun _ _ => rfl
  exact spares.reap world

/-- A call of the engine is in progress. -/
structure IsCalling (engine : EngineId) (world : World) : Prop where
  known : engine < world.engines.size
  busy : (world.session engine).isBusy = true

/-- The engine has as many frames as before. -/
structure KeepsCall (engine : EngineId) (before after : World) : Prop where
  size : before.engines.size ≤ after.engines.size
  depth : (after.session engine).depth = (before.session engine).depth

theorem KeepsCall.refl (world : World) : KeepsCall engine world world := ⟨Nat.le_refl _, rfl⟩

theorem KeepsCall.trans {first second third : World} (left : KeepsCall engine first second)
    (right : KeepsCall engine second third) : KeepsCall engine first third :=
  ⟨Nat.le_trans left.size right.size, right.depth.trans left.depth⟩

theorem KeepsSessions.keepsCall (keeps : KeepsSessions before after) :
    KeepsCall engine before after :=
  ⟨Nat.le_of_eq keeps.size.symm, by rw [keeps.session]⟩

theorem IsCalling.keep (calling : before.IsCalling engine) (keeps : KeepsCall engine before after) :
    after.IsCalling engine where
  known := Nat.lt_of_lt_of_le calling.known keeps.size
  busy := by
    rw [Session.isBusy_iff, keeps.depth]
    exact Session.isBusy_iff.mp calling.busy

end World

/-! ### Runs by which an engine comes to owe -/

namespace Run

variable {Failure Other Result Next : Type}

/-- From the world the run does what the plain one does. The engine owes a collection before it if
so told, and one after it if so told. -/
def KeepsPace (engine : EngineId) (world : World) (owed later : Bool)
    (run plain : Run Failure Result) : Prop :=
  ∃ ended after, plain.outcome world = (ended, after) ∧
    run.outcome (world.owingIf engine owed) = (ended, after.owingIf engine later) ∧
    (ended = .error .exhausted ∨ World.KeepsCall engine world after)

/-- While a call of the engine is in progress the run does what the plain one does, save that the
engine may owe one more collection when it has ended. -/
def MayOwe (engine : EngineId) (run plain : Run Failure Result) : Prop :=
  ∀ ⦃world⦄, World.IsCalling engine world → ∀ owed : Bool, ∃ more,
    KeepsPace engine world owed (more || owed) run plain

/-- The run does not heed what the engine owes. -/
abbrev IsHeedless (engine : EngineId) (run : Run Failure Result) : Prop := MayOwe engine run run

theorem outcome_ofExcept (result : Except Failure Result) :
    ∃ ended : Except (Halt Failure) Result, ∀ world,
      (Run.ofExcept result).outcome world = (ended, world) := by
  cases result <;> exact ⟨_, fun _ => rfl⟩

/-! ### Runs from one world -/

namespace KeepsPace

variable {engine : EngineId} {world between : World} {owed middle later : Bool}
  {run plain : Run Failure Result} {next plainNext : Result → Run Failure Next}

theorem bind_of_error {halt : Halt Failure}
    (plainRan : plain.outcome world = (.error halt, between))
    (first : KeepsPace engine world owed later run plain) :
    KeepsPace engine world owed later (run >>= next) (plain >>= plainNext) := by
  obtain ⟨_, _, went, ran, kept⟩ := first
  cases plainRan.symm.trans went
  refine ⟨.error halt, between, outcome_bind_of_error plainRan, outcome_bind_of_error ran, ?_⟩
  exact kept.imp (fun short => by cases short; rfl) id

theorem bind_of_ok {result : Result} (calling : world.IsCalling engine)
    (plainRan : plain.outcome world = (.ok result, between))
    (first : KeepsPace engine world owed middle run plain)
    (second : between.IsCalling engine →
      KeepsPace engine between middle later (next result) (plainNext result)) :
    KeepsPace engine world owed later (run >>= next) (plain >>= plainNext) := by
  obtain ⟨_, _, went, ran, kept⟩ := first
  cases plainRan.symm.trans went
  have kept : World.KeepsCall engine world between := kept.resolve_left nofun
  obtain ⟨ended, after, plainWent, wentOn, keptOn⟩ := second (calling.keep kept)
  refine ⟨ended, after, ?_, ?_, keptOn.imp id kept.trans⟩
  · rw [outcome_bind_of_ok plainRan, plainWent]
  · rw [outcome_bind_of_ok ran, wentOn]

/-- What follows may owe more than was owed by then. -/
theorem bind (calling : world.IsCalling engine)
    (first : KeepsPace engine world owed middle run plain)
    (second : ∀ result, MayOwe engine (next result) (plainNext result)) :
    ∃ more, KeepsPace engine world owed (more || middle) (run >>= next) (plain >>= plainNext) := by
  rcases plainRan : plain.outcome world with ⟨halt | result, between⟩
  · exact ⟨false, first.bind_of_error plainRan⟩
  · have ⟨_, _, went, _, kept⟩ := first
    cases plainRan.symm.trans went
    obtain ⟨more, follows⟩ := second result (calling.keep (kept.resolve_left nofun)) middle
    exact ⟨more, first.bind_of_ok calling plainRan fun _ => follows⟩

theorem settle (first : KeepsPace engine world owed later run plain) :
    KeepsPace engine world owed later (run.settle : Run Other (Except Failure Result))
      plain.settle := by
  obtain ⟨ended, after, plainRan, ran, kept⟩ := first
  unfold KeepsPace
  rw [outcome_settle, outcome_settle, plainRan, ran]
  rcases ended with (error | _) | result
  · exact ⟨_, after, rfl, rfl, .inr (kept.resolve_left nofun)⟩
  · exact ⟨_, after, rfl, rfl, .inl rfl⟩
  · exact ⟨_, after, rfl, rfl, .inr (kept.resolve_left nofun)⟩

theorem mapFailure {change : World → Failure → Other}
    (blind : ∀ world owed, change (World.owingIf world engine owed) = change world)
    (first : KeepsPace engine world owed later run plain) :
    KeepsPace engine world owed later (run.mapFailure change) (plain.mapFailure change) := by
  obtain ⟨ended, after, plainRan, ran, kept⟩ := first
  unfold KeepsPace
  rw [outcome_mapFailure, outcome_mapFailure, plainRan, ran]
  rcases ended with (error | _) | result
  · refine ⟨_, after, rfl, ?_, .inr (kept.resolve_left nofun)⟩
    dsimp only
    rw [blind]
  · exact ⟨_, after, rfl, rfl, .inl rfl⟩
  · exact ⟨_, after, rfl, rfl, .inr (kept.resolve_left nofun)⟩

theorem scope (first : KeepsPace engine world owed later run plain) :
    KeepsPace engine world owed later (Run.scope run) (Run.scope plain) := by
  obtain ⟨ended, after, plainRan, ran, kept⟩ := first
  unfold KeepsPace
  rw [outcome_scope, outcome_scope, plainRan, ran]
  exact ⟨ended, { after with held := world.held }, rfl, rfl,
    kept.imp id fun kept => kept.trans ⟨Nat.le_refl _, rfl⟩⟩

end KeepsPace

/-! ### Runs in a call -/

namespace MayOwe

variable {engine : EngineId} {run plain : Run Failure Result}

theorem pure (result : Result) : IsHeedless engine (Pure.pure result : Run Failure Result) :=
  fun world _ _ => ⟨false, _, world, rfl, rfl, .inr (.refl world)⟩

theorem raise (error : Failure) : IsHeedless engine (Run.raise error : Run Failure Result) :=
  fun world _ _ => ⟨false, _, world, rfl, rfl, .inr (.refl world)⟩

theorem ofExcept (outcome : Except Failure Result) : IsHeedless engine (Run.ofExcept outcome) := by
  cases outcome with
  | ok result => exact pure result
  | error error => exact raise error

theorem observe {part : World → Result}
    (blind : ∀ world owed, part (World.owingIf world engine owed) = part world) :
    IsHeedless engine (Run.observe part : Run Failure Result) := by
  intro world _ owed
  refine ⟨false, _, world, rfl, ?_, .inr (.refl world)⟩
  rw [outcome_observe, blind]
  rfl

theorem update {change : World → World}
    (commutes : ∀ world owed,
      change (World.owingIf world engine owed) = (change world).owingIf engine owed)
    (keeps : ∀ world, World.KeepsSessions world (change world)) :
    IsHeedless engine (Run.update change : Run Failure Unit) := by
  intro world _ owed
  refine ⟨false, _, change world, rfl, ?_, .inr (keeps world).keepsCall⟩
  rw [outcome_update, commutes]
  rfl

theorem reap : IsHeedless engine (Run.reap : Run Failure Unit) :=
  update (fun world owed => world.reap_owingIf engine owed)
    fun world => world.reap_spec.1.keepsSessions

theorem holdCells (cells : List CellId) :
    IsHeedless engine (Run.holdCells cells : Run Failure Unit) :=
  update (fun _ _ => rfl) fun world => RunRelation.held world _

theorem bind {next plainNext : Result → Run Failure Next} (first : MayOwe engine run plain)
    (second : ∀ result, MayOwe engine (next result) (plainNext result)) :
    MayOwe engine (run >>= next) (plain >>= plainNext) := by
  intro world calling owed
  obtain ⟨more, goes⟩ := first calling owed
  obtain ⟨last, follows⟩ := goes.bind calling second
  exact ⟨last || more, by rwa [Bool.or_assoc]⟩

/-- What follows an engine does not depend on its session. -/
theorem bind_engine {other : EngineId} {next plainNext : Engine → Run Failure Next}
    (blind : ∀ state (session : Session), next { state with session } = next state)
    (second : ∀ state, MayOwe engine (next state) (plainNext state)) :
    MayOwe engine (Run.engine other >>= next) (Run.engine other >>= plainNext) := by
  intro world calling owed
  obtain ⟨more, ended, after, plainRan, ran, kept⟩ := second (world.engine other) calling owed
  refine ⟨more, ended, after, plainRan, ?_, kept⟩
  obtain ⟨session, found⟩ := world.engine_owingIf engine owed other
  rw [outcome_bind_of_ok (outcome_engine other _), found, blind, ran]

theorem discard (may : MayOwe engine run plain) : MayOwe engine (discard run) (discard plain) :=
  bind may fun _ => pure ()

theorem settle (may : MayOwe engine run plain) :
    MayOwe engine (run.settle : Run Other (Except Failure Result)) plain.settle :=
  fun _ calling owed => (may calling owed).imp fun _ => KeepsPace.settle

theorem mapFailure {change : World → Failure → Other}
    (blind : ∀ world owed, change (World.owingIf world engine owed) = change world)
    (may : MayOwe engine run plain) :
    MayOwe engine (run.mapFailure change) (plain.mapFailure change) :=
  fun _ calling owed => (may calling owed).imp fun _ => KeepsPace.mapFailure blind

theorem scope (may : MayOwe engine run plain) : MayOwe engine (Run.scope run) (Run.scope plain) :=
  fun _ calling owed => (may calling owed).imp fun _ => KeepsPace.scope

end MayOwe

end Run

namespace Bridge

variable {Failure Result : Type} {engine other : EngineId}

/-! ### What engines do between calls -/

theorem trimCache_isHeedless {Next : Type} (trim : ProxyCache → ProxyCache × Nat)
    (tell : Nat → Next) :
    IsHeedless engine (do
      let (cache, gone) := trim (← Run.engine other).cache
      Run.modifyEngine other fun engine => { engine with cache }
      return tell gone : Run Failure Next) := by
  refine .bind_engine (fun _ _ => rfl) fun state => ?_
  refine .bind (.update (fun world owed => ?_) fun world => ?_) fun _ => .pure _
  · exact World.modifyEngine_comm fun _ _ => rfl
  · exact world.keepsSessions_modifyEngine other fun _ => rfl

theorem releaseDropped_isHeedless :
    IsHeedless engine (releaseDropped other : Run Failure Nat) :=
  .bind .reap fun _ => trimCache_isHeedless (·.drain) id

theorem sweep_isHeedless : IsHeedless engine (sweep other : Run Failure Swept) :=
  .bind releaseDropped_isHeedless fun _ => .bind .reap fun _ =>
    .bind (.observe fun _ _ => rfl) fun isLive => trimCache_isHeedless (·.prune isLive) _

theorem settleEngine_isHeedless (owed : Bool) :
    IsHeedless engine (settleEngine other owed) := by
  unfold settleEngine
  split
  · exact .discard sweep_isHeedless
  · exact .discard releaseDropped_isHeedless

/-- Asking for a collection is answered that none was done, and the engine owes it. -/
theorem collect_owes {world : World} (calling : world.IsCalling engine) (owed : Bool) :
    KeepsPace engine world owed true (collect engine : Run Failure (Option Swept)) (pure none) := by
  refine ⟨_, world, rfl, ?_, .inr (.refl world)⟩
  have busy : ((world.owingIf engine owed).session engine).isBusy = true := by
    rw [World.session_owingIf calling.known]
    exact calling.busy
  have put : (world.owingIf engine owed).owingIf engine true = world.owingIf engine true :=
    world.owingIf_owingIf engine owed true
  unfold World.session at busy
  unfold collect
  rw [outcome_bind_of_ok (outcome_engine engine _), if_pos busy]
  exact congrArg (Except.ok none, ·) put

/-! ### Frames -/

section Frames

variable [HoldsCells Result] {kind : FrameKind} {body plain : ScriptRun Result} {entered : Session}

omit [HoldsCells Result] in
theorem polledBody_mayOwe (may : MayOwe engine body plain) (owed : Bool) :
    MayOwe engine (polledBody (entered.oweIf owed) body) (polledBody entered plain) :=
  .settle (.scope (.bind (.ofExcept _) fun _ => may))

omit [HoldsCells Result] in
theorem polledBody_keepsPace {world : World} {owed later : Bool}
    (unasked : entered.interruptRequested = false) (calling : world.IsCalling engine)
    (goes : KeepsPace engine world owed later body plain) (more : Bool) :
    KeepsPace engine world owed later (polledBody (entered.oweIf more) body)
      (polledBody entered plain) := by
  have polls : entered.poll = .ok () := by
    unfold Session.poll
    rw [unasked]
    rfl
  have first : KeepsPace engine world owed owed (ofExcept entered.poll : ScriptRun Unit)
      (ofExcept entered.poll) := by
    rw [polls]
    exact ⟨_, world, rfl, rfl, .inr (.refl world)⟩
  have ran : (ofExcept entered.poll : ScriptRun Unit).outcome world = (.ok (), world) := by
    rw [polls]
    rfl
  exact .settle (.scope (first.bind_of_ok calling ran fun _ => goes))

/-- Once the innermost frame is left, a call has as many frames as before it was entered. -/
theorem keepsCall_left {world after : World} {left : Session} {failure : Option ScriptError}
    {idled : Option Bool} (calling : world.IsCalling engine)
    (enters : (world.session other).enter kind = .ok entered)
    (kept : World.KeepsCall engine (world.withSession other entered) after)
    (leaves : (after.session other).leave failure = (left, idled)) :
    (engine = other → 1 < (after.session other).depth) ∧
      World.KeepsCall engine world (after.withSession other left) := by
  have size : world.engines.size ≤ (after.withSession other left).engines.size := by
    rw [World.size_withSession, ← world.size_withSession other entered]
    exact kept.size
  by_cases here : engine = other
  · subst here
    have known : engine < after.engines.size := by
      rw [World.size_withSession] at size
      exact Nat.lt_of_lt_of_le calling.known size
    have depth : (after.session engine).depth = (world.session engine).depth + 1 := by
      rw [kept.depth, World.session_withSession_self calling.known]
      unfold Session.depth
      rw [(Session.enter_eq_ok enters).1]
      rfl
    have nested : 1 < (after.session engine).depth := by
      rw [depth]
      exact Nat.succ_lt_succ (Session.isBusy_iff.mp calling.busy)
    rw [Session.leave_of_nested nested] at leaves
    cases leaves
    refine ⟨fun _ => nested, size, ?_⟩
    rw [World.session_withSession_self known]
    show (after.session engine).depth - 1 = _
    rw [depth, Nat.add_sub_cancel]
  · refine ⟨fun same => absurd same here, size, ?_⟩
    rw [World.session_withSession_of_ne (Ne.symm here), kept.depth,
      World.session_withSession_of_ne (Ne.symm here)]

omit [HoldsCells Result] in
/-- An engine that has entered a frame is in a call. -/
theorem isCalling_entered_self {world : World} (known : engine < world.engines.size)
    (enters : (world.session engine).enter kind = .ok entered) :
    World.IsCalling engine (world.withSession engine entered) where
  known := by
    rw [World.size_withSession]
    exact known
  busy := by
    obtain ⟨-, -, -, busy, -⟩ := Session.enter_eq_ok enters
    rw [World.session_withSession_self known]
    exact busy

omit [HoldsCells Result] in
theorem isCalling_entered {world : World} (calling : world.IsCalling engine)
    (enters : (world.session other).enter kind = .ok entered) :
    World.IsCalling engine (world.withSession other entered) := by
  by_cases here : engine = other
  · subst here
    exact isCalling_entered_self calling.known enters
  · refine ⟨?_, ?_⟩
    · rw [World.size_withSession]
      exact calling.known
    · rw [World.session_withSession_of_ne (Ne.symm here)]
      exact calling.busy

/-- A frame inside a call goes on as its body does: what it does when it is left does not depend on
what the engine of the call owes. -/
theorem frame_keepsPace {world : World} {owed later : Bool} (calling : world.IsCalling engine)
    (enters : (world.session other).enter kind = .ok entered)
    (inside : KeepsPace engine (world.withSession other entered) owed later
      (polledBody (entered.oweIf (engine == other && owed)) body) (polledBody entered plain)) :
    ∃ more, KeepsPace engine world owed (more || later) (frame other kind body)
      (frame other kind plain) := by
  have entersOwing := Session.enter_oweIf enters (engine == other && owed)
  rw [← World.session_owingIf calling.known owed other] at entersOwing
  have callingInside := isCalling_entered calling enters
  obtain ⟨ended, after, plainRan, ran, kept⟩ := inside
  rw [← World.withSession_owingIf] at ran
  cases ended with
  | error halt =>
    cases eq_exhausted_of_settle plainRan
    refine ⟨false, .error .exhausted, after, ?_, ?_, .inl rfl⟩
    · exact (outcome_frameWith_entered enters).trans (outcome_bind_of_error plainRan)
    · exact (outcome_frameWith_entered entersOwing).trans (outcome_bind_of_error ran)
  | ok outcome =>
    have kept : World.KeepsCall engine (world.withSession other entered) after :=
      kept.resolve_left nofun
    have known : engine < after.engines.size := (callingInside.keep kept).known
    obtain ⟨result, comes⟩ := outcome_ofExcept outcome
    rcases leaves : (after.session other).leave (failure? outcome) with ⟨left, idled⟩
    obtain ⟨nested, keptAll⟩ := keepsCall_left calling enters kept leaves
    have leavesOwing : ((after.owingIf engine later).session other).leave (failure? outcome) =
        (left.oweIf (engine == other && later), idled) := by
      rw [World.session_owingIf known]
      refine Session.leave_oweIf leaves fun owes => nested ?_
      rw [Bool.and_eq_true] at owes
      exact eq_of_beq owes.1
    cases idled with
    | none =>
      refine ⟨false, result, after.withSession other left, ?_, ?_, .inr keptAll⟩
      · exact (outcome_frameWith_nested enters plainRan leaves).trans (comes _)
      · rw [Bool.false_or, ← World.withSession_owingIf]
        exact (outcome_frameWith_nested entersOwing ran leavesOwing).trans (comes _)
    | some collectionOwed =>
      have settles : IsHeedless engine
          (scope (do holdCells (outcomeCells outcome); settleEngine other collectionOwed)) :=
        .scope (.bind (.holdCells _) fun _ => settleEngine_isHeedless _)
      obtain ⟨more, idled, last, plainIdled, idledOwing, keptOn⟩ :=
        settles (calling.keep keptAll) later
      obtain ⟨_, _, quiet, -⟩ := (IsQuiet.scope (.bind (.holdCells (outcomeCells outcome))
        fun _ => settleEngine_isQuiet other collectionOwed)) (after.withSession other left)
      cases plainIdled.symm.trans quiet
      refine ⟨more, result, last, ?_, ?_, .inr (keptAll.trans (keptOn.resolve_left nofun))⟩
      · exact (outcome_frameWith_outermost enters plainRan leaves plainIdled).trans (comes _)
      · rw [← World.withSession_owingIf] at idledOwing
        exact (outcome_frameWith_outermost entersOwing ran leavesOwing idledOwing).trans (comes _)

theorem frame_mayOwe (may : MayOwe engine body plain) :
    MayOwe engine (frame other kind body) (frame other kind plain) := by
  intro world calling owed
  cases enters : (world.session other).enter kind with
  | error error =>
    have refused := Session.enter_oweIf_of_error enters (engine == other && owed)
    rw [← World.session_owingIf calling.known owed other] at refused
    exact ⟨false, _, world, outcome_frameWith_refused enters, outcome_frameWith_refused refused,
      .inr (.refl world)⟩
  | ok entered =>
    have inside : MayOwe engine (polledBody (entered.oweIf (engine == other && owed)) body)
        (polledBody entered plain) := polledBody_mayOwe may _
    obtain ⟨more, goes⟩ := inside (isCalling_entered calling enters) owed
    obtain ⟨last, leaves⟩ := frame_keepsPace calling enters goes
    exact ⟨last || more, by rwa [Bool.or_assoc]⟩

end Frames

end Bridge

/-! ### Asking for collections -/

namespace Run

/-- In the first run the engine may be asked for collections where the second is only answered that
none was done: anywhere, in frames of any engine and however deep, and as often as the run likes. -/
inductive MayRequest (engine : EngineId) :
    ∀ {Failure Result : Type}, Run Failure Result → Run Failure Result → Prop
  | collect {Failure : Type} :
      MayRequest engine (Bridge.collect engine : Run Failure (Option Swept)) (pure none)
  | heedless {Failure Result : Type} {run : Run Failure Result} (heedless : IsHeedless engine run) :
      MayRequest engine run run
  | bind {Failure Result Next : Type} {run plain : Run Failure Result}
      {next plainNext : Result → Run Failure Next} (first : MayRequest engine run plain)
      (second : ∀ result, MayRequest engine (next result) (plainNext result)) :
      MayRequest engine (run >>= next) (plain >>= plainNext)
  | settle {Failure Other Result : Type} {run plain : Run Failure Result}
      (requests : MayRequest engine run plain) :
      MayRequest engine (run.settle : Run Other (Except Failure Result)) plain.settle
  | mapFailure {Failure Other Result : Type} {run plain : Run Failure Result}
      (change : World → Failure → Other)
      (blind : ∀ (world : World) owed, change (world.owingIf engine owed) = change world)
      (requests : MayRequest engine run plain) :
      MayRequest engine (run.mapFailure change) (plain.mapFailure change)
  | scope {Failure Result : Type} {run plain : Run Failure Result}
      (requests : MayRequest engine run plain) :
      MayRequest engine (Run.scope run) (Run.scope plain)
  | frame {Result : Type} [HoldsCells Result] (other : EngineId) (kind : FrameKind)
      {body plain : ScriptRun Result} (requests : MayRequest engine body plain) :
      MayRequest engine (Bridge.frame other kind body) (Bridge.frame other kind plain)

/-- From the world the first run comes to a place where it asks for one. -/
inductive Requests (engine : EngineId) :
    ∀ {Failure Result : Type}, World → Run Failure Result → Run Failure Result → Prop
  | collect {Failure : Type} (world : World) :
      Requests engine world (Bridge.collect engine : Run Failure (Option Swept)) (pure none)
  | first {Failure Result Next : Type} {world : World} {run plain : Run Failure Result}
      {next plainNext : Result → Run Failure Next} (requests : Requests engine world run plain)
      (second : ∀ result, MayRequest engine (next result) (plainNext result)) :
      Requests engine world (run >>= next) (plain >>= plainNext)
  | second {Failure Result Next : Type} {world between : World} {run plain : Run Failure Result}
      {next plainNext : Result → Run Failure Next} {result : Result}
      (first : MayRequest engine run plain)
      (ran : plain.outcome world = (.ok result, between))
      (requests : Requests engine between (next result) (plainNext result)) :
      Requests engine world (run >>= next) (plain >>= plainNext)
  | settle {Failure Other Result : Type} {world : World} {run plain : Run Failure Result}
      (requests : Requests engine world run plain) :
      Requests engine world (run.settle : Run Other (Except Failure Result)) plain.settle
  | mapFailure {Failure Other Result : Type} {world : World} {run plain : Run Failure Result}
      (change : World → Failure → Other)
      (blind : ∀ (world : World) owed, change (world.owingIf engine owed) = change world)
      (requests : Requests engine world run plain) :
      Requests engine world (run.mapFailure change) (plain.mapFailure change)
  | scope {Failure Result : Type} {world : World} {run plain : Run Failure Result}
      (requests : Requests engine world run plain) :
      Requests engine world (Run.scope run) (Run.scope plain)
  | frame {Result : Type} [HoldsCells Result] {world next : World} {other : EngineId}
      {kind : FrameKind} {body plain : ScriptRun Result} (enters : world.Enters other kind next)
      (requests : Requests engine next body plain) :
      Requests engine world (Bridge.frame other kind body) (Bridge.frame other kind plain)

variable {engine : EngineId} {Failure Result : Type} {run plain : Run Failure Result}

/-- However collections are asked for, all that comes of it is that the engine owes one. -/
theorem MayRequest.mayOwe (requests : MayRequest engine run plain) : MayOwe engine run plain := by
  induction requests with
  | collect => exact fun _ calling owed => ⟨true, collect_owes calling owed⟩
  | heedless heedless => exact heedless
  | bind _ _ firstHypothesis secondHypothesis => exact .bind firstHypothesis secondHypothesis
  | settle _ inductionHypothesis => exact .settle inductionHypothesis
  | mapFailure _ blind _ inductionHypothesis => exact .mapFailure blind inductionHypothesis
  | scope _ inductionHypothesis => exact .scope inductionHypothesis
  | frame other kind _ inductionHypothesis => exact frame_mayOwe inductionHypothesis

/-- Once a collection has been asked for in a call, it is owed for the rest of it. -/
theorem Requests.owes {world : World} (requests : Requests engine world run plain) :
    world.IsCalling engine → ∀ owed, KeepsPace engine world owed true run plain := by
  induction requests with
  | collect world => exact fun calling owed => collect_owes calling owed
  | first _ second inductionHypothesis =>
    intro calling owed
    obtain ⟨more, goes⟩ := (inductionHypothesis calling owed).bind calling fun result =>
      (second result).mayOwe
    rwa [Bool.or_true] at goes
  | second first ran _ inductionHypothesis =>
    intro calling owed
    obtain ⟨more, goes⟩ := first.mayOwe calling owed
    exact goes.bind_of_ok calling ran fun callingOn => inductionHypothesis callingOn _
  | settle _ inductionHypothesis =>
    exact fun calling owed => (inductionHypothesis calling owed).settle
  | mapFailure _ blind _ inductionHypothesis =>
    exact fun calling owed => (inductionHypothesis calling owed).mapFailure blind
  | scope _ inductionHypothesis =>
    exact fun calling owed => (inductionHypothesis calling owed).scope
  | frame enters _ inductionHypothesis =>
    intro calling owed
    obtain ⟨known, entered, enters, unasked, rfl⟩ := enters
    have inside := isCalling_entered calling enters
    obtain ⟨more, goes⟩ := frame_keepsPace calling enters
      (polledBody_keepsPace unasked inside (inductionHypothesis inside owed) _)
    rwa [Bool.or_true] at goes

end Run

end ScriptBridge
