/-
This file follows private access through runs. Script has it through proxies of items
that the host exposes with it, and through those that are made from such a proxy: for
an engine that adopts it, or without the dynamic capability of what it stands for.
Marshaling confers it on no proxy, and finds none that has it. What operations answer
is marshaled at last, so it has none either, unless a helper hands on a proxy that it
is given, or the answer comes from a function of script.
-/

import ScriptBridge.Proofs.Crossings
import ScriptBridge.Proofs.OperationAnswers

namespace ScriptBridge

open Host Bridge Binding Run

/-! ### Where private proxies come from -/

/-- What becomes of private access, where items are exposed with the flags given: no private proxy
is made, or some are made from a private one, or some are made with such flags. -/
inductive Issue (given : ItemFlags → Prop) (before after : World) : Prop
  | kept (confines : before.Confines after)
  | conveyed {source : CellId} {former : Proxy} (found : before.store.proxy? source = some former)
      (hidden : former.isPrivate = true) (confines : before.ConfinesTo former.Conveys after)
  | exposed {flags : ItemFlags} (isGiven : given flags)
      (confines : before.ConfinesTo (·.flags = flags) after)

/-- One after another. -/
abbrev Issues (given : ItemFlags → Prop) : World → World → Prop :=
  Relation.ReflTransGen (Issue given)

/-- Nothing is exposed. -/
abbrev Conveyances : World → World → Prop := Issues fun _ => False

/-- Where a private proxy comes from in the end. -/
inductive Proxy.IsIssued (given : ItemFlags → Prop) : Proxy → Prop
  /-- From an item that is exposed. -/
  | exposed {proxy : Proxy} (isGiven : given proxy.flags) : proxy.IsIssued given
  /-- From a private one. -/
  | conveyed {former made : Proxy} (issued : former.IsIssued given)
      (hidden : former.isPrivate = true) (conveys : former.Conveys made) : made.IsIssued given
  /-- From itself, when it stood for another value. -/
  | alike {proxy former : Proxy} (issued : former.IsIssued given)
      (alike : proxy.Resembles former) : proxy.IsIssued given

/-- The cell is there and holds no private proxy. -/
def World.IsPublic (world : World) (cell : CellId) : Prop :=
  cell < world.store.cells.size ∧
    ∀ proxy, world.store.proxy? cell = some proxy → proxy.isPrivate = false

/-- Every private proxy is from where it may be. -/
def World.HasIssued (given : ItemFlags → Prop) (world : World) : Prop :=
  ∀ {cell : CellId} {proxy : Proxy}, world.store.proxy? cell = some proxy →
    proxy.isPrivate = true → proxy.IsIssued given

variable {given : ItemFlags → Prop} {before after : World}

theorem World.IsPublic.confinesTo {made : Proxy → Prop} {cell : CellId}
    (isPublic : before.IsPublic cell) (confines : before.ConfinesTo made after) :
    after.IsPublic cell :=
  ⟨Nat.lt_of_lt_of_le isPublic.1 confines.size_le,
    fun _ => confines.isPrivate isPublic.1 isPublic.2⟩

theorem World.HasIssued.confinesTo {made : Proxy → Prop} (issued : before.HasIssued given)
    (confines : before.ConfinesTo made after)
    (issues : ∀ proxy, made proxy → proxy.IsIssued given) : after.HasIssued given := by
  intro cell proxy found hidden
  rcases confines.proxies found hidden with ⟨was, known, alike⟩ | ⟨-, born, is, alike⟩
  · rw [alike.isPrivate] at hidden
    exact .alike (issued known hidden) alike
  · exact .alike (issues born is) alike

/-- Access is confined to what may be made. -/
theorem Issue.confinesTo (issue : Issue given before after) :
    ∃ made, before.ConfinesTo made after ∧
      (before.HasIssued given → ∀ proxy, made proxy → proxy.IsIssued given) := by
  cases issue with
  | kept confines => exact ⟨_, confines, fun _ _ => False.elim⟩
  | conveyed found hidden confines =>
    exact ⟨_, confines, fun issued _ => .conveyed (issued found hidden) hidden⟩
  | exposed isGiven confines => exact ⟨_, confines, fun _ _ is => .exposed (is ▸ isGiven)⟩

namespace Issues

/-- What holds of a world goes on to hold if it does while access is confined to what may be
made. -/
theorem keeps (issues : Issues given before after) (holds : World → Prop)
    (each : ∀ {before after made}, before.ConfinesTo made after →
      (before.HasIssued given → ∀ proxy, made proxy → proxy.IsIssued given) →
        holds before → holds after) (holding : holds before) : holds after := by
  induction issues with
  | refl => exact holding
  | tail _ last inductionHypothesis =>
    obtain ⟨made, confines, issues⟩ := last.confinesTo
    exact each confines issues inductionHypothesis

theorem isConfined (issues : Issues given before after) (confined : before.IsConfined) :
    after.IsConfined :=
  issues.keeps World.IsConfined (fun confines _ => confines.isConfined) confined

theorem isPublic (issues : Issues given before after) {cell : CellId}
    (isPublic : before.IsPublic cell) : after.IsPublic cell :=
  issues.keeps (·.IsPublic cell) (fun confines _ known => known.confinesTo confines) isPublic

theorem hasIssued (issues : Issues given before after) (issued : before.HasIssued given) :
    after.HasIssued given :=
  issues.keeps (·.HasIssued given)
    (fun confines issues known => known.confinesTo confines (issues known)) issued

theorem of_confines (confines : before.Confines after) : Issues given before after :=
  .single (.kept confines)

end Issues

/-! ### What running code does -/

instance : ChangeRelation (Issues given) where
  refl _ := .refl
  trans := .trans
  held _ _ := .of_confines (.of_same rfl rfl)
  change _ _ _ plain := .of_confines plain.confines

instance : ModuleRelation (Issues given) where
  step _ _ _ _ plain := .of_confines plain.confines
  connect := World.Connects.related fun _ _ _ plain => .of_confines plain.confines
  disconnect := World.Disconnects.related fun _ _ _ plain => .of_confines plain.confines
  convey {_ _ _ former} found _ _ confines _ := by
    cases hidden : former.isPrivate with
    | true => exact .single (.conveyed found hidden confines)
    | false =>
      exact .of_confines (confines.of_public fun _ conveys => conveys.isPrivate.trans hidden)
  dispose _ _ := .of_confines (World.confinesTo_modifyEngine (wanes_dispose _))
  modules _ _ _ := .of_confines (World.confinesTo_modifyEngine (.refl _))

instance : WorkspaceRelation (Issues given) where
  around engines store _ := .of_confines (.of_same engines store)
  create world _ _ fresh := .of_confines (.of_cache rfl (wanes_push world fresh))
  close _ _ := .of_confines (World.confinesTo_modifyEngine (wanes_emptied _))
  govern _ _ _ := .of_confines (World.confinesTo_modifyEngine (.refl _))
  tell _ _ _ := .of_confines (.of_same rfl rfl)

/-- The world confines access, and comes after the start without anything exposed. -/
structure World.KeepsConfined (start world : World) : Prop where
  confined : world.IsConfined
  passes : Conveyances start world

theorem World.KeepsConfined.refl (confined : before.IsConfined) : before.KeepsConfined before :=
  ⟨confined, .refl⟩

instance {start : World} : Preserves Conveyances start.KeepsConfined where
  preserves passes keeps := ⟨passes.isConfined keeps.confined, keeps.passes.trans passes⟩

theorem takesIn_issues {flags : ItemFlags}
    (isGiven : flags.contains .privateAccess = true → given flags) : TakesIn (Issues given) flags :=
  fun hidden _ confines _ => .single (.exposed (isGiven hidden) confines)

/-! ### Marshaling -/

namespace Bridge

variable {start : World} {engine : EngineId} {flags : ItemFlags} {calls : Calls}

/-- Under flags that are not private no private proxy is found or made. -/
theorem supplies_isPublic (engine : EngineId) (plain : flags.contains .privateAccess = false) :
    Supplies Conveyances start.KeepsConfined engine flags World.IsPublic where
  found keeps mark listed same := by
    obtain ⟨inside, honors⟩ := keeps.confined.marks engine mark listed
    refine ⟨inside, honors ?_⟩
    rw [same, ItemFlags.contains_identity, plain]
  made {world after proxy} _ flagged store := by
    have found : after.store.proxy? world.store.cells.size = some proxy := by
      rw [store]
      exact Store.proxy?_eq_some.mpr (Store.get?_create_size _ _)
    refine ⟨Store.lt_size_of_proxy? found, fun other again => ?_⟩
    cases found.symm.trans again
    exact (congrArg (ItemFlags.contains · .privateAccess) flagged).trans plain
  stays issues isPublic := issues.isPublic isPublic

/-- Of every proxy that is marshaled holds what does of all that are public. -/
theorem marshals_of_isPublic {shown : World → CellId → Prop} (reach : calls.Reach Conveyances)
    (shows : ∀ {world cell}, World.IsPublic world cell → shown world cell)
    (unheld : ∀ (world : World) held cell, shown world cell → shown { world with held } cell) :
    Marshals Conveyances start.KeepsConfined calls engine shown where
  reach := reach
  unheld := unheld
  values := by
    refine toScript_ends (supplies_isPublic engine ItemFlags.contains_none) shows unheld reach
      fun {world handle inner} keeps kept own after ran => ?_
    -- No handle hides a proxy, so what is adopted from one is received as it is.
    cases inner with
    | proxy cell => exact absurd kept keeps.confined.handles
    | _ =>
      cases ran
      exact nofun
  references _ _ :=
    (proxyReference_ends (supplies_isPublic engine ItemFlags.contains_none) _ _).mono
      fun _ _ => shows
  boxes _ :=
    (boxValue_ends (supplies_isPublic engine ItemFlags.contains_none) _).mono fun _ _ => shows

theorem marshals_isPublic (reach : calls.Reach Conveyances) :
    Marshals Conveyances start.KeepsConfined calls engine World.IsPublic :=
  marshals_of_isPublic reach id fun _ _ _ => id

/-- The flags of a public proxy are not private. -/
theorem isPrivate_of_isPublic {world : World} {cell : CellId} (isPublic : world.IsPublic cell) :
    (world.store.proxy cell).isPrivate = false := by
  rw [← Bool.not_eq_true]
  intro hidden
  exact Bool.false_ne_true ((isPublic.2 _ (Store.proxy?_of_isPrivate hidden)).symm.trans hidden)

/-- What an engine adopts is public if it was. -/
theorem adopt_isPublic {world after : World} {value own : Script.Value}
    (confined : world.IsConfined) (isPublic : Outermost World.IsPublic world value)
    (ran : (adopt engine value).outcome world = (.ok own, after)) :
    Outermost World.IsPublic after own := by
  cases value with
  | proxy cell =>
    have supplies : Supplies Conveyances world.KeepsConfined engine (world.store.proxy cell).flags
      World.IsPublic := supplies_isPublic engine (isPrivate_of_isPublic (isPublic cell rfl))
    have holding : world.KeepsConfined (world.holding [cell]) :=
      Preserves.preserves (RunRelation.held world _) (World.KeepsConfined.refl confined)
    unfold adopt at ran
    rw [outcome_bind_of_ok (outcome_holdCells _ _)] at ran
    dsimp only [Script.Value.cells] at ran
    rw [outcome_bind_of_ok (outcome_readStore _ _)] at ran
    split at ran
    · cases ran
      exact isPublic
    · split at ran
      · exact outermost_made (findHandle_ends supplies _) id _ holding own after ran
      · exact outermost_made (boxValue_ends supplies _) id _ holding own after ran
      · refine Ends.bind (.observe _) (fun target => ?_) _ holding own after ran
        refine .bind (.ofExcept _) fun target => .bind (.holdCells _) fun _ => ?_
        exact .bind (reserve_leaves engine) fun _ =>
          outermost_made (findReference_ends supplies _ _) id
  | _ =>
    cases ran
    exact nofun

end Bridge

namespace Binding

variable {start : World} {engine : EngineId} {calls : Calls}

/-- The type of a value is public where it is not the value itself. -/
theorem typeOfValue_ends (reach : calls.Reach Conveyances) (value : Script.Value) :
    (typeOfValue calls engine value).Ends start.KeepsConfined fun world own =>
      own = value ∨ Outermost World.IsPublic world own := by
  unfold typeOfValue
  refine .bind (handledType?_leaves _) fun handled => ?_
  cases handled with
  | some type => exact .pure fun _ => .inl rfl
  | none =>
    dsimp only
    split
    · exact .bind (.describe _) fun _ => .raise _
    · refine .bind (.held (toHostValue_leaves engine _)) fun _ => .bind (.readStore _) fun _ => ?_
      exact ((marshals_isPublic reach).values _ _).mono fun _ _ => .inr

/-- Without its dynamic capability what is public is still so. -/
theorem withoutDynamic_isPublic {world after : World} {value own : Script.Value}
    (confined : world.IsConfined) (isPublic : Outermost World.IsPublic world value)
    (ran : (withoutDynamic engine value).outcome world = (.ok own, after)) :
    Outermost World.IsPublic after own := by
  cases value with
  | proxy proxy =>
    have plain : ((world.store.proxy proxy).flags.union .directAccess).contains .privateAccess =
        false :=
      (ItemFlags.contains_union _).trans (isPrivate_of_isPublic (isPublic proxy rfl))
    have supplies : Supplies Conveyances world.KeepsConfined engine _ World.IsPublic :=
      supplies_isPublic engine plain
    have keeps : world.KeepsConfined world := .refl confined
    unfold withoutDynamic at ran
    dsimp only at ran
    rw [outcome_bind_of_ok (outcome_readStore _ _)] at ran
    split at ran
    · cases ran
      exact isPublic
    · refine Ends.bind (target_leaves proxy) (fun _ => ?_) world keeps own after ran
      exact outermost_made (boxValue_ends supplies _) id
    · refine Ends.bind (target_leaves proxy) (fun _ => ?_) world keeps own after ran
      exact outermost_made (proxyReference_ends supplies _ _) id
  | _ =>
    cases ran
    exact nofun

/-! ### What script gives itself -/

/-- The proxy is one that script gave itself: the answer of the call that was made last, which was
of a helper that hands on, of a function, or of what a member answered. -/
inductive IsHandedOn (calls : Calls) (engine : EngineId) (start world : World) (cell : CellId) :
    Prop
  | helper {before : World} {helper : Helper} {arguments : List Script.Value} {held : List CellId}
      (keeps : start.KeepsConfined before) (hands : helper = .typeOf ∨ helper = .toStatic)
      (ran : (runHelper calls engine helper arguments).outcome before =
        (.ok (.proxy cell), { world with held }))
  | function {before : World} {function : CellId} {arguments : List Script.Value}
      {held : List CellId} (keeps : start.KeepsConfined before)
      (ran : (calls.callFunction engine function arguments).outcome before =
        (.ok (.proxy cell), { world with held }))
  | answer {before : World} {answer : Script.Value} {arguments : List Script.Value}
      {held : List CellId} (keeps : start.KeepsConfined before)
      (ran : (calls.callValue engine answer arguments).outcome before =
        (.ok (.proxy cell), { world with held }))

/-- What operations answer with: what is public, or what script gave itself. -/
def Answerable (calls : Calls) (engine : EngineId) (start world : World) (cell : CellId) : Prop :=
  world.IsPublic cell ∨ IsHandedOn calls engine start world cell

theorem Answerable.held {world : World} {cell : CellId} (held : List CellId)
    (answerable : Answerable calls engine start world cell) :
    Answerable calls engine start { world with held } cell := by
  refine answerable.imp id fun handedOn => ?_
  cases handedOn with
  | helper keeps hands ran => exact .helper keeps hands ran
  | function keeps ran => exact .function keeps ran
  | answer keeps ran => exact .answer keeps ran

theorem marshals_answerable (reach : calls.Reach Conveyances) :
    Marshals Conveyances start.KeepsConfined calls engine (Answerable calls engine start) :=
  marshals_of_isPublic reach .inl fun _ held _ => .held held

/-- Whatever a helper answers. -/
theorem runHelper_ends (reach : calls.Reach Conveyances) (helper : Helper)
    (arguments : List Script.Value) :
    (runHelper calls engine helper arguments).Ends start.KeepsConfined
      (Outermost (Answerable calls engine start)) := by
  by_cases hands : helper = .typeOf ∨ helper = .toStatic
  · rintro world keeps own after ran cell rfl
    exact .inr (.helper keeps hands ran)
  · exact (marshals_answerable reach).runHelper (not_or.mp hands) arguments

theorem marshalsCalls_answerable (reach : calls.Reach Conveyances) :
    MarshalsCalls Conveyances start.KeepsConfined calls engine (Answerable calls engine start) where
  toMarshals := marshals_answerable reach
  functions function arguments := by
    rintro world keeps own after ran cell rfl
    exact .inr (.function keeps ran)
  answers answer arguments := by
    rintro world keeps own after ran cell rfl
    exact .inr (.answer keeps ran)
  intrinsics number arguments := by
    unfold runIntrinsic
    split
    · exact runHelper_ends reach _ arguments
    · exact .raise _

/-! ### Operations -/

/-- Whatever an operation answers. -/
theorem Operation.run_ends (reach : calls.Reach Conveyances) (operation : Operation) :
    (operation.run calls engine).Ends start.KeepsConfined
      (Outermost (Answerable calls engine start)) := by
  have marshals : MarshalsCalls Conveyances start.KeepsConfined calls engine
    (Answerable calls engine start) := marshalsCalls_answerable reach
  cases operation with
  | get proxy name => exact marshals.getMember proxy name
  | invokeMember proxy name arguments => exact marshals.invoke proxy name arguments
  | invoke proxy arguments => exact marshals.callProxy proxy arguments
  | getIndex proxy keys => exact marshals.getIndex proxy keys
  | construct proxy arguments => exact marshals.construct proxy arguments
  | connect member arguments => exact marshals.connect member arguments
  | callBound member arguments => exact marshals.callBound member arguments
  | invokeBound member name arguments => exact marshals.invokeBound member name arguments
  | call callee arguments => exact marshals.callValue callee arguments
  | set proxy name value =>
    exact .bind (setMember_reaches reach engine proxy name value) fun _ => outermost_plain nofun
  | setIndex proxy keys value =>
    exact .bind (setIndex_reaches reach engine proxy keys value) fun _ => outermost_plain nofun
  | setInvoke proxy keys value =>
    exact .bind (assignProxy_reaches reach engine proxy keys value) fun _ => outermost_plain nofun
  | setInvokeMember proxy name keys value =>
    exact .bind (assignMember_reaches reach engine proxy name keys value) fun _ =>
      outermost_plain nofun
  | assignThrough callee keys value =>
    exact .bind (assignThrough_reaches reach engine callee keys value) fun _ =>
      outermost_plain nofun

end Binding

/-! ### Moments -/

/-- What may happen in a world, where items are exposed with the flags given, and no private proxy
comes into a cell by itself: whatever else may happen in any. -/
inductive World.Proceeds (given : ItemFlags → Prop) (calls : Calls) : World → World → Prop
  | step (world : World) (step : Workspace.Step)
      (isGiven : ∀ flags, step.action.exposedAs? = some flags →
        flags.contains .privateAccess = true → given flags) :
      Proceeds given calls world (Workspace.runStep calls step world).2
  | operation (world : World) (engine : EngineId) (operation : Operation) :
      Proceeds given calls world ((operation.run calls engine).outcome world).2
  | helper (world : World) (engine : EngineId) (helper : Helper) (arguments : List Script.Value) :
      Proceeds given calls world ((runHelper calls engine helper arguments).outcome world).2
  | script (world : World) (context : Script.Context) (code : Script.Code) :
      Proceeds given calls world ((code.run calls context).outcome world).2
  | host (world : World) (setting : Setting) (arguments : List Value) (code : Host.Code) :
      Proceeds given calls world ((runCode calls setting arguments code).outcome world).2
  | toHost (world : World) (engine : EngineId) (value : Script.Value) (target : TypeRef) :
      Proceeds given calls world ((toHost engine value target).outcome world).2
  | toScript (world : World) (engine : EngineId) (value : Value) (declared : TypeRef) :
      Proceeds given calls world ((toScript calls engine value declared).outcome world).2
  | adopt (world : World) (engine : EngineId) (value : Script.Value) :
      Proceeds given calls world ((adopt engine value).outcome world).2
  | settle (world : World) (engine : EngineId) (owed : Bool) :
      Proceeds given calls world ((settleEngine engine owed).outcome world).2
  | dispose (world : World) (engine : EngineId) :
      Proceeds given calls world (world.modifyEngine engine Engine.dispose)
  | held (world : World) (held : List CellId) : Proceeds given calls world { world with held }
  | locals (world : World) (locals : List (Named Script.Value)) :
      Proceeds given calls world { world with locals }
  | note (world : World) (event : MemberEvent) :
      Proceeds given calls world { world with history := event :: world.history }
  | create (world : World) {contents : Cell} (plain : contents.isOpen = true) :
      Proceeds given calls world (world.create contents).1
  | session (world : World) (engine : EngineId) (session : Session) :
      Proceeds given calls world (world.withSession engine session)
  | modules (world : World) (engine : EngineId) (change : ModuleCache → ModuleCache) :
      Proceeds given calls world
        (world.modifyEngine engine fun state => { state with modules := change state.modules })

/-- A relation takes in what happens where it takes in whatever items are exposed, changes that are
plain, and what comes into a cell by itself. -/
theorem World.Proceeds.related {relation : World → World → Prop} [WorkspaceRelation relation]
    [ModuleRelation relation] {depth : Nat}
    (takes : ∀ {flags : ItemFlags}, (flags.contains .privateAccess = true → given flags) →
      TakesIn relation flags)
    (plain : before.KeepsPlain after → relation before after)
    (creates : ∀ {contents : Cell}, contents.isOpen = true →
      after = (before.create contents).1 → relation before after)
    (proceeds : World.Proceeds given (Script.startWithin depth) before after) :
    relation before after := by
  have reach : (Script.startWithin depth).Reach relation := Script.startWithin_goes depth
  cases proceeds with
  | step step isGiven =>
    exact Workspace.runStep_leaves reach (ModuleRequest.answer_reaches reach) step
      (fun flags exposed => takes (isGiven flags exposed)) before
  | operation engine operation => exact operation.run_reaches reach engine before
  | helper engine helper arguments => exact runHelper_reaches reach engine helper arguments before
  | script context code => exact Script.Code.run_reaches reach context code before
  | host setting arguments code => exact Host.runCode_reaches reach setting arguments code before
  | toHost engine value target =>
    exact (toHost_leaves engine value target : Leaves relation _) before
  | toScript engine value declared => exact toScript_reaches reach engine value declared before
  | adopt engine value =>
    exact (adopt_leaves engine value : Leaves relation _) before
  | settle engine owed =>
    exact (settleEngine_leaves engine owed : Leaves relation _) before
  | dispose engine => exact StepRelation.dispose before engine
  | held held => exact RunRelation.held before held
  | locals locals => exact plain (.of_same rfl rfl)
  | note event => exact plain (.of_same rfl rfl)
  | create isOpen => exact creates isOpen rfl
  | session engine session => exact plain (.of_store rfl (World.confinesTo_modifyEngine (.refl _)))
  | modules engine change => exact ModuleRelation.modules before engine change

theorem World.Proceeds.issues {depth : Nat}
    (proceeds : World.Proceeds given (Script.startWithin depth) before after) :
    Issues given before after :=
  proceeds.related takesIn_issues (fun plain => .of_confines plain.confines)
    fun isOpen created => created ▸ .of_confines (before.confinesTo_create isOpen)

/-- What happens moment after moment. -/
theorem issues_of_proceeds {depth : Nat} (goesOn :
    Relation.ReflTransGen (World.Proceeds given (Script.startWithin depth)) before after) :
    Issues given before after := by
  induction goesOn with
  | refl => exact .refl
  | tail _ last inductionHypothesis => exact inductionHypothesis.trans last.issues

/-! ### Answers -/

/-- No engine has made a proxy yet, and what is in the cells is open. -/
structure World.IsPristine (world : World) : Prop where
  records : world.HasEmptyRecords
  cells : ∀ {cell : CellId} {contents : Cell}, world.store.get? cell = some contents →
    contents.isOpen = true

namespace World.IsPristine

variable {world : World} (pristine : world.IsPristine)
include pristine

theorem isConfined : world.IsConfined where
  handles found := by
    have isOpen := pristine.cells (Store.handle?_eq_some.mp found)
    cases isOpen
  marks engine mark listed := by
    have entered := ProxyCache.mem_entries.mpr ⟨mark.1, listed⟩
    rw [pristine.records engine] at entered
    cases entered

theorem hasIssued : world.HasIssued given := by
  intro cell proxy found hidden
  have isOpen := pristine.cells (Store.proxy?_eq_some.mp found)
  rw [show (Cell.proxy proxy).isOpen = !proxy.isPrivate from rfl, hidden] at isOpen
  cases isOpen

end World.IsPristine

/-- What an engine's script is given, and what its operations answer, is public, but for what script
gives itself. -/
structure World.AnswersPublicly (world : World) (calls : Calls) (engine : EngineId) : Prop where
  /-- Host values of every kind. -/
  values : ∀ {value : Value} {declared : TypeRef} {own : Script.Value} {after : World},
    (toScript calls engine value declared).outcome world = (.ok own, after) →
      Outermost World.IsPublic after own
  /-- Members that are read. -/
  members : ∀ {proxy : CellId} {name : String} {own : Script.Value} {after : World},
    (getMember calls engine proxy name).outcome world = (.ok own, after) →
      Outermost World.IsPublic after own
  /-- Elements and indexers that are read. -/
  indices : ∀ {proxy : CellId} {keys : List Script.Value} {own : Script.Value} {after : World},
    (getIndex calls engine proxy keys).outcome world = (.ok own, after) →
      Outermost World.IsPublic after own
  /-- Delegates that are called. -/
  delegates : ∀ {delegate : CellId} {arguments : List Script.Value} {own : Script.Value}
    {after : World}, (callDelegate calls engine delegate arguments).outcome world =
      (.ok own, after) → Outermost World.IsPublic after own
  /-- Instances that are constructed. -/
  instances : ∀ {proxy : CellId} {arguments : List Script.Value} {own : Script.Value}
    {after : World}, (construct calls engine proxy arguments).outcome world = (.ok own, after) →
      Outermost World.IsPublic after own
  /-- Connections to events. -/
  connections : ∀ {member : BoundMember} {arguments : List Script.Value} {own : Script.Value}
    {after : World}, (connect calls engine member arguments).outcome world = (.ok own, after) →
      Outermost World.IsPublic after own
  /-- Helpers that hand on nothing. -/
  helpers : ∀ {helper : Helper} {arguments : List Script.Value} {own : Script.Value}
    {after : World}, helper ≠ .typeOf ∧ helper ≠ .toStatic →
      (runHelper calls engine helper arguments).outcome world = (.ok own, after) →
        Outermost World.IsPublic after own
  /-- The types of values: a type is handed on. -/
  types : ∀ {value own : Script.Value} {after : World},
    (typeOfValue calls engine value).outcome world = (.ok own, after) →
      own = value ∨ Outermost World.IsPublic after own
  /-- Values without their dynamic capability. -/
  statics : ∀ {value own : Script.Value} {after : World}, Outermost World.IsPublic world value →
    (withoutDynamic engine value).outcome world = (.ok own, after) →
      Outermost World.IsPublic after own
  /-- Values that the engine adopts. -/
  adopted : ∀ {value own : Script.Value} {after : World}, Outermost World.IsPublic world value →
    (adopt engine value).outcome world = (.ok own, after) → Outermost World.IsPublic after own
  /-- Methods and whatever else is called. -/
  operations : ∀ {operation : Operation} {own : Script.Value} {after : World},
    (operation.run calls engine).outcome world = (.ok own, after) →
      Outermost (Answerable calls engine world) after own

/-- A world that confines access answers publicly. -/
theorem answersPublicly_of_isConfined {world : World} {calls : Calls} (confined : world.IsConfined)
    (reach : calls.Reach Conveyances) (engine : EngineId) :
    world.AnswersPublicly calls engine := by
  have keeps : world.KeepsConfined world := .refl confined
  have marshals : Marshals Conveyances world.KeepsConfined calls engine World.IsPublic :=
    marshals_isPublic reach
  exact {
    values := fun ran => marshals.values _ _ world keeps _ _ ran
    members := fun ran => marshals.getMember _ _ world keeps _ _ ran
    indices := fun ran => marshals.getIndex _ _ world keeps _ _ ran
    delegates := fun ran => marshals.callDelegate _ _ world keeps _ _ ran
    instances := fun ran => marshals.construct _ _ world keeps _ _ ran
    connections := fun ran => marshals.connect _ _ world keeps _ _ ran
    helpers := fun plain ran => marshals.runHelper plain _ world keeps _ _ ran
    types := fun ran => typeOfValue_ends reach _ world keeps _ _ ran
    statics := withoutDynamic_isPublic confined
    adopted := adopt_isPublic confined
    operations := fun ran => Operation.run_ends reach _ world keeps _ _ ran }

/-- At every moment of every run, whatever is private comes from items that are exposed so, and what
script is given and operations answer is public, however deep they go. -/
theorem private_access_is_passed_on {depth : Nat} {start world : World}
    (pristine : start.IsPristine)
    (goesOn : Relation.ReflTransGen (World.Proceeds given (Script.startWithin depth)) start world) :
    Issues given start world ∧ world.HasIssued given ∧
      ∀ within engine, world.AnswersPublicly (Script.startWithin within) engine := by
  have issues : Issues given start world := issues_of_proceeds goesOn
  have confined : world.IsConfined := issues.isConfined pristine.isConfined
  exact ⟨issues, issues.hasIssued pristine.hasIssued, fun within =>
    answersPublicly_of_isConfined confined (Script.startWithin_goes within)⟩

/-! ### A private type -/

theorem mainAndOther_isPristine : mainAndOther.IsPristine where
  records := mainAndOther_hasEmptyRecords
  cells found := by
    rw [Store.get?_of_size_le (Nat.zero_le _)] at found
    cases found

/-- A type is exposed with private access. -/
def exposeKind : Workspace.Action := .addType "Kind" .privateAccess .object

/-- The world after the type was exposed to the first engine. -/
def World.withKind : World :=
  (scope (Workspace.perform (Script.startWithin 0) 0 none exposeKind) mainAndOther).2

theorem mainAndOther_engineNamed? : mainAndOther.engineNamed? "main" = some 0 := by cbv

theorem runStep_exposeKind :
    (Workspace.runStep (Script.startWithin 0) ⟨"main", exposeKind, none⟩ mainAndOther).2 =
      .withKind := by
  unfold Workspace.runStep
  rw [mainAndOther_engineNamed?]
  rfl

theorem World.proceeds_withKind :
    World.Proceeds (· = .privateAccess) (Script.startWithin 0) mainAndOther .withKind := by
  rw [← runStep_exposeKind]
  refine .step mainAndOther _ fun flags exposed _ => ?_
  cases exposed
  rfl

/-- The world after the second engine adopted the proxy of the type. -/
def World.withKinds : World := ((adopt 1 (.proxy 0)).outcome withKind).2

theorem World.proceeds_withKinds :
    Relation.ReflTransGen (World.Proceeds (· = .privateAccess) (Script.startWithin 0))
      mainAndOther .withKinds :=
  .tail (.single proceeds_withKind) (.adopt _ _ _)

/-- Both engines have a private proxy of the type, and are given public ones. -/
theorem private_access_is_passed_on_of_kind :
    (World.withKinds.store.proxy 0).isPrivate = true ∧
      (World.withKinds.store.proxy 1).isPrivate = true ∧ mainAndOther.IsPristine ∧
      Relation.ReflTransGen (World.Proceeds (· = .privateAccess) (Script.startWithin 0))
        mainAndOther .withKinds ∧
      (Issues (· = .privateAccess) mainAndOther .withKinds ∧
        World.withKinds.HasIssued (· = .privateAccess) ∧
        ∀ within engine, World.withKinds.AnswersPublicly (Script.startWithin within) engine) :=
  ⟨rfl, rfl, mainAndOther_isPristine, World.proceeds_withKinds,
    private_access_is_passed_on mainAndOther_isPristine World.proceeds_withKinds⟩

/-- The private proxy of a type is handed on as the type of itself. -/
theorem type_of_private_type_is_private :
    Relation.ReflTransGen (World.Proceeds (· = .privateAccess) (Script.startWithin 0))
      mainAndOther .withKind ∧
    ∃ after, (runHelper (Script.startWithin 0) 0 .typeOf [.proxy 0]).outcome .withKind =
      (.ok (.proxy 0), after) ∧ (after.store.proxy 0).isPrivate = true :=
  ⟨.single World.proceeds_withKind, _, rfl, rfl⟩

/-- A type that is marshaled gets a proxy of its own, which is public. -/
example : ∃ after, (toScript (Script.startWithin 0) 0 (.type .object) .handle).outcome .withKind =
    (.ok (.proxy 1), after) ∧ (after.store.proxy 1).isPrivate = false :=
  ⟨_, rfl, rfl⟩

end ScriptBridge
