/-
This file proves what becomes of the dynamic capability of an object. An operation
on a proxy that leads to such an object is offered to the capability before its
members are looked up; what the capability answers is what the operation comes to,
and the members answer only for what it does not handle. Assignments through calls
are not offered: they look the members up at once, and only the plain assignment
that one of them may pass on is offered. Through a proxy with direct access no run
asks a capability, for deletions and names no more than for members.
-/

import ScriptBridge.Proofs.AccessControl

namespace ScriptBridge

open Host Binding Bridge Run

variable {start before after world : World} {proxy object : CellId}

/-! ### Direct access -/

/-- The proxy is one of direct access. -/
def World.PassesBy (world : World) (proxy : CellId) : Prop :=
  ∃ contents, world.store.proxy? proxy = some contents ∧
    contents.flags.contains .directAccess = true

/-- The object whose capability is asked about what is done through a proxy. -/
def World.dynamicBehind? (world : World) (proxy : CellId) : Option CellId :=
  match world.targetOf proxy with
  | .ok value => dynamicIn? world.store proxy value
  | .error _ => none

theorem World.dynamicBehind?_eq_some : world.dynamicBehind? proxy = some object ↔
    world.targetOf proxy = .ok (.object object) ∧
      dynamicIn? world.store proxy (.object object) = some object := by
  unfold dynamicBehind?
  constructor
  · intro found
    split at found
    · next value reached =>
      obtain rfl := dynamicIn?_eq_some found
      exact ⟨reached, found⟩
    · cases found
  · rintro ⟨reached, found⟩
    rw [reached]
    exact found

/-- No capability is asked through a proxy of direct access. -/
theorem dynamicIn?_of_passesBy (passes : world.PassesBy proxy) (value : Value) :
    dynamicIn? world.store proxy value = none := by
  obtain ⟨contents, found, direct⟩ := passes
  unfold dynamicIn?
  rw [found]
  cases value with
  | object cell => exact if_pos direct
  | _ => rfl

/-- A step leaves the engine and the flags of a proxy as they are. -/
theorem Step.proxy? (step : Step before after) {cell : CellId} {now : Proxy}
    (inside : cell < before.store.cells.size) (found : after.store.proxy? cell = some now) :
    ∃ was, before.store.proxy? cell = some was ∧ was.engine = now.engine ∧
      was.flags = now.flags := by
  rw [Store.proxy?_eq_some] at found
  cases step with
  | change change =>
    rcases change.keeps.cells found with same | ⟨outside, -⟩ | admits
    · exact ⟨now, Store.proxy?_eq_some.mpr same, rfl, rfl⟩
    · exact absurd inside (Nat.not_lt_of_le outside)
    · exact absurd rfl (admits.plain now)
  | @overwrite use _ _ _ _ _ _ _ boxed =>
    dsimp only at found
    rcases Store.get?_put found with same | ⟨rfl, made⟩
    · exact ⟨now, Store.proxy?_eq_some.mpr same, rfl, rfl⟩
    · cases made
      exact ⟨_, Store.proxy?_eq_some.mpr (Store.get?_of_boxed boxed), rfl, rfl⟩
  | @attach use attached =>
    dsimp only at found
    rcases Store.get?_put found with same | ⟨-, made⟩
    · exact ⟨now, Store.proxy?_eq_some.mpr same, rfl, rfl⟩
    · cases made
  | _ => exact ⟨now, Store.proxy?_eq_some.mpr found, rfl, rfl⟩

/-- A proxy that a run leaves has the flags that it had before. -/
theorem Reaches.proxy? (reaches : Reaches start world) {cell : CellId} {now : Proxy}
    (inside : cell < start.store.cells.size) (found : world.store.proxy? cell = some now) :
    ∃ was, start.store.proxy? cell = some was ∧ was.flags = now.flags := by
  induction reaches generalizing now with
  | refl => exact ⟨now, found, rfl⟩
  | tail reached step inductionHypothesis =>
    have inside := Nat.lt_of_lt_of_le inside (Reaches.size_le reached)
    obtain ⟨between, known, -, same⟩ := step.proxy? inside found
    obtain ⟨was, first, flags⟩ := inductionHypothesis known
    exact ⟨was, first, flags.trans same⟩

/-- A step tells at most one event; a capability that it asks is not passed by. -/
theorem Step.offered (step : Step before after) :
    ∃ events, after.history = events ++ before.history ∧ ∀ offer, .offered offer ∈ events →
      dynamicIn? before.store offer.proxy (.object offer.object) = some offer.object := by
  have single {event : MemberEvent} (told : after.history = event :: before.history)
      (current : ∀ offer, event = .offered offer →
        dynamicIn? before.store offer.proxy (.object offer.object) = some offer.object) :
      ∃ events, after.history = events ++ before.history ∧ ∀ offer, .offered offer ∈ events →
        dynamicIn? before.store offer.proxy (.object offer.object) = some offer.object :=
    ⟨[event], told, fun offer member => current offer (List.mem_singleton.mp member).symm⟩
  cases step with
  | change change => exact ⟨[], change.keeps.history, nofun⟩
  | modules => exact ⟨[], rfl, nofun⟩
  | offer current =>
    refine single rfl ?_
    rintro _ ⟨⟩
    exact current
  | _ => exact single rfl nofun

/-- Every capability that a run asks was at a moment of it one that its proxy does not pass by. -/
theorem Reaches.offered (reaches : Reaches start world) :
    ∃ events, world.history = events ++ start.history ∧ ∀ offer, .offered offer ∈ events →
      ∃ moment, Reaches start moment ∧ Reaches moment world ∧
        dynamicIn? moment.store offer.proxy (.object offer.object) = some offer.object := by
  induction reaches with
  | refl => exact ⟨[], rfl, nofun⟩
  | @tail between after reached step inductionHypothesis =>
    obtain ⟨events, told, earlier⟩ := inductionHypothesis
    obtain ⟨added, last, current⟩ := step.offered
    refine ⟨added ++ events, ?_, fun offer member => ?_⟩
    · rw [last, told, List.append_assoc]
    · rcases List.mem_append.mp member with new | old
      · exact ⟨between, reached, .single step, current offer new⟩
      · obtain ⟨moment, first, second, found⟩ := earlier offer old
        exact ⟨moment, first, second.tail step, found⟩

/-- A capability that may be asked is behind a proxy without direct access. -/
theorem Store.proxy?_of_dynamicIn? {store : Store}
    (found : dynamicIn? store proxy (.object object) = some object) :
    ∃ contents, store.proxy? proxy = some contents ∧
      contents.flags.contains .directAccess = false := by
  unfold dynamicIn? at found
  split at found
  · next contents cell present same =>
    split at found
    · cases found
    · next closed => exact ⟨contents, present, Bool.eq_false_iff.mpr closed⟩
  · cases found

namespace Run

variable {Failure Result : Type}

/-- The capabilities that the run asks are asked through proxies without direct access, which they
have neither before nor after. -/
def AsksOpenly (run : Run Failure Result) (world : World) : Prop :=
  ∃ events, (run.outcome world).2.history = events ++ world.history ∧
    ∀ offer, .offered offer ∈ events →
      ¬ world.PassesBy offer.proxy ∧ ¬ (run.outcome world).2.PassesBy offer.proxy

theorem Leaves.asksOpenly {run : Run Failure Result} (reaches : Leaves Reaches run)
    (world : World) : run.AsksOpenly world := by
  obtain ⟨events, told, asked⟩ := (reaches world).offered
  refine ⟨events, told, fun offer member => ?_⟩
  obtain ⟨moment, first, second, found⟩ := asked offer member
  obtain ⟨contents, present, closed⟩ := Store.proxy?_of_dynamicIn? found
  constructor
  · rintro ⟨was, known, direct⟩
    obtain ⟨_, known', flags⟩ := first.proxy? (Store.lt_size_of_proxy? known) present
    rw [known'] at known
    cases known
    rw [flags, closed] at direct
    cases direct
  · rintro ⟨now, known, direct⟩
    obtain ⟨_, present', flags⟩ := second.proxy? (Store.lt_size_of_proxy? present) known
    rw [present'] at present
    cases present
    rw [← flags, closed] at direct
    cases direct

end Run

/-! ### Operations that are offered -/

/-- An operation that is offered: through which proxy and what it asks, what the capability is asked
to do, and what the operation does where that is not handled. -/
structure Offering where
  proxy : CellId
  request : Request
  /-- The cells that the operation uses. -/
  cells : List CellId
  ask : CellId → ScriptRun (Option Script.Value)
  static : Value → ScriptRun Script.Value

/-- An assignment that is handled answers with nothing. -/
def assignmentAnswer (handled : Bool) : Option Script.Value :=
  if handled then some .undefined else none

/-- How an operation is offered, if it is. -/
def Operation.offering? (calls : Calls) (engine : EngineId) : Operation → Option Offering
  | .get proxy name => some {
      proxy
      request := .get name
      cells := [proxy]
      ask := askGet calls engine name
      static := fun _ => getStatic calls engine proxy name }
  | .set proxy name value => some {
      proxy
      request := .set name
      cells := proxy :: value.cells
      ask := fun object => do return assignmentAnswer (← askSet engine name value object)
      static := fun _ => do
        setStatic calls engine proxy name value
        return .undefined }
  | .invokeMember proxy name arguments => some {
      proxy
      request := .invoke name
      cells := proxy :: arguments.flatMap Script.Value.cells
      ask := askBody calls engine (·.methods.get? name) arguments
      static := fun _ => Binding.invokeMember calls engine proxy name arguments }
  | .invoke proxy arguments => some {
      proxy
      request := .call
      cells := proxy :: arguments.flatMap Script.Value.cells
      ask := askBody calls engine (·.call) arguments
      static := fun current => callStatic calls engine proxy current arguments }
  | .getIndex proxy keys => some {
      proxy
      request := .getIndex
      cells := proxy :: keys.flatMap Script.Value.cells
      ask := askGetIndex calls engine keys
      static := fun current => getIndexStatic calls engine proxy current keys }
  | .setIndex proxy keys value => some {
      proxy
      request := .setIndex
      cells := proxy :: value.cells ++ keys.flatMap Script.Value.cells
      ask := fun object => do return assignmentAnswer (← askSetIndex engine keys value object)
      static := fun current => do
        setIndexStatic calls engine proxy current keys value
        return .undefined }
  | _ => none

/-- The operation that an offering is of. -/
def Offering.run (offering : Offering) : ScriptRun Script.Value := scope do
  holdCells offering.cells
  let current ← target offering.proxy
  match ← offer offering.proxy current offering.request none offering.ask with
  | some answer => return answer
  | none => offering.static current

/-- An offer is told before the capability is asked; nothing happens where there is none to ask. -/
theorem Binding.outcome_offer {Answer : Type} (value : Value) (request : Request)
    (unasked : Answer) (ask : CellId → ScriptRun Answer) (world : World) :
    (offer proxy value request unasked ask).outcome world =
      match dynamicIn? world.store proxy value with
      | some object =>
        (ask object).outcome
          { world with history := .offered ⟨proxy, object, request⟩ :: world.history }
      | none => (.ok unasked, world) := by
  unfold offer
  rw [outcome_bind, outcome_dynamicOf?]
  cases dynamicIn? world.store proxy value <;> rfl

/-- An assignment that is offered comes to the answer that the offer has. -/
theorem Binding.outcome_offer_assignment (value : Value) (request : Request)
    (ask : CellId → ScriptRun Bool) (static : ScriptRun Unit) (world : World) :
    ((offer proxy value request false ask >>= fun handled =>
        if handled then pure () else static) >>= fun _ =>
          pure Script.Value.undefined).outcome world =
      (do
        match ← offer proxy value request none (fun object => do
          return assignmentAnswer (← ask object)) with
        | some answer => return answer
        | none => do
          static
          return Script.Value.undefined : ScriptRun Script.Value).outcome world := by
  rw [bind_assoc, outcome_bind, outcome_bind, outcome_offer, outcome_offer]
  cases dynamicIn? world.store proxy value with
  | none => rfl
  | some object =>
    dsimp only
    rw [outcome_bind]
    rcases (ask object).outcome _ with ⟨halt | _ | _, after⟩
    · rfl
    · rfl
    · rfl

/-- An assignment that is offered comes to what its offering does. -/
theorem Offering.outcome_run_assignment (cells : List CellId) (request : Request)
    (ask : CellId → ScriptRun Bool) (static : Value → ScriptRun Unit) (world : World) :
    (do
      scope do
        holdCells cells
        let current ← target proxy
        if ← offer proxy current request false ask then return ()
        static current
      return Script.Value.undefined : ScriptRun Script.Value).outcome world =
      (Offering.run {
        proxy, request, cells
        ask := fun object => do return assignmentAnswer (← ask object)
        static := fun current => do
          static current
          return Script.Value.undefined }).outcome world := by
  rw [← outcome_scope_bind_pure, outcome_scope, Offering.run, outcome_scope, bind_assoc, bind_assoc,
    outcome_bind_of_ok (outcome_holdCells _ _), outcome_bind_of_ok (outcome_holdCells _ _),
    outcome_bind, outcome_bind]
  rcases (target proxy).outcome _ with ⟨halt | current, after⟩
  · rfl
  · dsimp only
    rw [outcome_offer_assignment]

/-- An operation that is offered comes to what its offering does. -/
theorem Operation.outcome_run {calls : Calls} {engine : EngineId} {operation : Operation}
    {offering : Offering} (offered : operation.offering? calls engine = some offering)
    (world : World) :
    (operation.run calls engine).outcome world = offering.run.outcome world := by
  cases operation with
  | set proxy name value =>
    cases offered
    exact Offering.outcome_run_assignment _ _ (askSet engine name value) _ world
  | setIndex proxy keys value =>
    cases offered
    exact Offering.outcome_run_assignment _ _ (askSetIndex engine keys value) _ world
  | get =>
    cases offered
    rfl
  | invokeMember =>
    cases offered
    rfl
  | invoke =>
    cases offered
    rfl
  | getIndex =>
    cases offered
    rfl
  | _ => cases offered

/-- Where what a capability is asked goes on by steps, so does the operation without it. -/
theorem Operation.offering_reaches {calls : Calls} (reach : calls.Reach Reaches) {engine : EngineId}
    {operation : Operation} {offering : Offering}
    (offered : operation.offering? calls engine = some offering) :
    (∀ object, Leaves Reaches (offering.ask object)) ∧
      ∀ value, Leaves Reaches (offering.static value) := by
  cases operation with
  | get proxy name =>
    cases offered
    exact ⟨askGet_reaches reach engine name, fun _ => getStatic_reaches reach engine proxy name⟩
  | set proxy name value =>
    cases offered
    exact ⟨fun object => .bind (askSet_reaches engine name value object) fun _ => .pure _,
      fun _ => .bind (setStatic_reaches reach engine proxy name value) fun _ => .pure _⟩
  | invokeMember proxy name arguments =>
    cases offered
    exact ⟨askBody_reaches reach engine _ arguments,
      fun _ => invokeMember_reaches reach engine proxy name arguments⟩
  | invoke proxy arguments =>
    cases offered
    exact ⟨askBody_reaches reach engine _ arguments,
      fun current => callStatic_reaches reach engine proxy current arguments⟩
  | getIndex proxy keys =>
    cases offered
    exact ⟨askGetIndex_reaches reach engine keys,
      fun current => getIndexStatic_reaches reach engine proxy current keys⟩
  | setIndex proxy keys value =>
    cases offered
    exact ⟨fun object => .bind (askSetIndex_reaches engine keys value object) fun _ => .pure _,
      fun current => .bind (setIndexStatic_reaches reach engine proxy current keys value)
        fun _ => .pure _⟩
  | _ => cases offered

/-- What a history told, a run goes on telling. -/
theorem Reaches.suffix (reaches : Reaches start world) : start.history <:+ world.history := by
  obtain ⟨events, told, -⟩ := reaches.offered
  exact ⟨events, told.symm⟩

namespace Offering

variable (offering : Offering)

/-- The world in which the capability of an object is asked. -/
def asked (object : CellId) (world : World) : World :=
  { (world.holding offering.cells).holding [object] with
    history := .offered ⟨offering.proxy, object, offering.request⟩ :: world.history }

/-- What follows the answer of a capability. -/
def goOn (value : Value) : Option Script.Value → ScriptRun Script.Value
  | some answer => return answer
  | none => offering.static value

/-- Where a capability is behind the proxy, it is asked first, and what it answers decides. -/
theorem outcome_run_of_dynamic (dynamic : world.dynamicBehind? offering.proxy = some object) :
    offering.run.outcome world = world.endScope
      ((offering.ask object >>= offering.goOn (.object object)).outcome
        (offering.asked object world)) := by
  obtain ⟨leads, found⟩ := World.dynamicBehind?_eq_some.mp dynamic
  have reached : (target offering.proxy).outcome (world.holding offering.cells) = _ :=
    outcome_target_of_ok leads
  have asks : (offer offering.proxy (.object object) offering.request none offering.ask).outcome
      ((world.holding offering.cells).holding (Value.object object).cells) =
      (offering.ask object).outcome (offering.asked object world) := by
    rw [outcome_offer, World.holding_store, World.holding_store, found]
    rfl
  unfold run
  rw [outcome_scope, outcome_bind_of_ok (outcome_holdCells _ _), outcome_bind_of_ok reached,
    outcome_bind_of_eq asks]
  rfl

/-- Where no capability is behind the proxy, the operation is what it is without. -/
theorem outcome_run_of_static {value : Value} (leads : world.targetOf offering.proxy = .ok value)
    (unasked : dynamicIn? world.store offering.proxy value = none) :
    offering.run.outcome world = world.endScope
      ((offering.static value).outcome ((world.holding offering.cells).holding value.cells)) := by
  have reached : (target offering.proxy).outcome (world.holding offering.cells) = _ :=
    outcome_target_of_ok leads
  have asks : (offer offering.proxy value offering.request none offering.ask).outcome
      ((world.holding offering.cells).holding value.cells) = _ := outcome_offer _ _ _ _ _
  rw [World.holding_store, World.holding_store, unasked] at asks
  unfold run
  rw [outcome_scope, outcome_bind_of_ok (outcome_holdCells _ _), outcome_bind_of_ok reached,
    outcome_bind_of_ok asks]
  rfl

/-- An operation on a proxy that leads to an object with a capability asks the capability first.
What is handled comes to the answer, and what fails to the failure; only what is not handled is
looked up among the members. -/
structure ComesFirst (run : ScriptRun Script.Value) (object : CellId) (world : World) : Prop where
  told : .offered ⟨offering.proxy, object, offering.request⟩ :: world.history <:+
    (run.outcome world).2.history
  handled : ∀ {answer after},
    (offering.ask object).outcome (offering.asked object world) = (.ok (some answer), after) →
      run.outcome world = world.endScope (.ok answer, after)
  failed : ∀ {halt after},
    (offering.ask object).outcome (offering.asked object world) = (.error halt, after) →
      run.outcome world = world.endScope (.error halt, after)
  declined : ∀ {after},
    (offering.ask object).outcome (offering.asked object world) = (.ok none, after) →
      run.outcome world = world.endScope ((offering.static (.object object)).outcome after)

end Offering

theorem Operation.comesFirst {calls : Calls} (reach : calls.Reach Reaches) {engine : EngineId}
    {operation : Operation} {offering : Offering}
    (offered : operation.offering? calls engine = some offering)
    (dynamic : world.dynamicBehind? offering.proxy = some object) :
    offering.ComesFirst (operation.run calls engine) object world := by
  have decided := (Operation.outcome_run offered world).trans
    (offering.outcome_run_of_dynamic dynamic)
  refine ⟨?_, fun ran => ?_, fun ran => ?_, fun ran => ?_⟩
  · have goesOn : Leaves Reaches (offering.ask object >>= offering.goOn (.object object)) := by
      obtain ⟨ask, static⟩ := Operation.offering_reaches reach offered
      refine .bind (ask object) fun answer => ?_
      cases answer with
      | none => exact static _
      | some answer => exact .pure _
    rw [decided]
    exact (goesOn (offering.asked object world)).suffix
  · rw [decided, outcome_bind_of_ok ran]
    rfl
  · rw [decided, outcome_bind_of_error ran]
  · rw [decided, outcome_bind_of_ok ran]
    rfl

/-! ### Assignments through calls -/

/-- An answer of nothing leaves the world as it was. -/
theorem Run.left_answering {Failure Result Next : Type} (run : Run Failure Result) (next : Next)
    (world : World) :
    ((run >>= fun _ => pure next).outcome world).2 = (run.outcome world).2 := by
  rw [outcome_bind]
  rcases run.outcome world with ⟨_ | _, after⟩ <;> rfl

/-- The proxy through which an operation assigns by a call. -/
def Operation.assignee? : Operation → Option CellId
  | .setInvoke proxy _ _ | .setInvokeMember proxy _ _ _ => some proxy
  | _ => none

/-- The first that happens, if anything does, is that the proxy is looked at. -/
def World.LooksFirst (proxy : CellId) (before after : World) : Prop :=
  after.history = before.history ∨
    ∃ scene : Scene, scene.proxy = proxy ∧ .looked scene :: before.history <:+ after.history

namespace Run

variable {Failure Result Next : Type}

/-- What only changes the world does not keep a run from looking first. -/
theorem Leaves.looksFirst_bind {run : Run Failure Result} {next : Result → Run Failure Next}
    (first : Leaves Changes run)
    (second : ∀ result, Leaves (World.LooksFirst proxy) (next result)) :
    Leaves (World.LooksFirst proxy) (run >>= next) := by
  intro world
  have history := (first world).history
  rw [outcome_bind]
  rcases ran : run.outcome world with ⟨halt | result, after⟩
  · rw [ran] at history
    exact .inl history
  · rw [ran] at history
    have looks : World.LooksFirst proxy after ((next result).outcome after).2 := second result after
    unfold World.LooksFirst at looks
    rwa [history] at looks

theorem Leaves.looksFirst_of_changes {run : Run Failure Result} (leaves : Leaves Changes run) :
    Leaves (World.LooksFirst proxy) run :=
  fun world => .inl (leaves world).history

theorem Leaves.looksFirst_scope {run : Run Failure Result}
    (leaves : Leaves (World.LooksFirst proxy) run) :
    Leaves (World.LooksFirst proxy) (Run.scope run) :=
  leaves

end Run

namespace Binding

variable {calls : Calls} (reach : calls.Reach Reaches) (engine : EngineId)

theorem look_bind_looksFirst {Next : Type} {next : Scene → ScriptRun Next}
    (goesOn : ∀ scene, (next scene).ReachesFrom Reaches (justLooked scene)) :
    Leaves (World.LooksFirst proxy) (look engine proxy >>= next) := by
  intro world
  rw [outcome_bind, outcome_look]
  cases world.targetOf proxy with
  | error error => exact .inl rfl
  | ok value =>
    let scene := sceneIn world engine proxy (subjectIn world.store value)
    let noted := { world.holding value.cells with history := .looked scene :: world.history }
    have onward := goesOn scene noted rfl
    exact .inr ⟨scene, rfl, onward.suffix⟩

include reach

/-- An assignment through a call of a member looks the member up at once. -/
theorem assignMember_looksFirst (name : String) (keys : List Script.Value)
    (value : Script.Value) :
    Leaves (World.LooksFirst proxy) (assignMember calls engine proxy name keys value) :=
  .looksFirst_scope (.looksFirst_bind (.holdCells _) fun _ =>
    look_bind_looksFirst engine fun scene =>
      assignFound_reachesFrom reach engine proxy scene name keys value)

/-- An assignment through a call of a proxy that leads to an object looks its members up at once. -/
theorem assignProxy_looksFirst (leads : world.targetOf proxy = .ok (.object object))
    (keys : List Script.Value) (value : Script.Value) :
    World.LooksFirst proxy world ((assignProxy calls engine proxy keys value).outcome world).2 := by
  let cells := proxy :: value.cells ++ keys.flatMap Script.Value.cells
  have subject : (subjectOf proxy).outcome (world.holding cells) =
      (.ok (subjectIn world.store (.object object)), (world.holding cells).holding [object]) := by
    have there : (world.holding cells).targetOf proxy = .ok (.object object) := leads
    rw [outcome_subjectOf, there]
    rfl
  unfold assignProxy
  rw [outcome_scope, outcome_bind_of_ok (outcome_holdCells _ _), outcome_bind_of_ok subject]
  generalize known : subjectIn world.store (.object object) = found
  cases found with
  | statics type => exact .inl rfl
  | plain value =>
    unfold subjectIn at known
    dsimp only at known
    split at known
    · cases known
    · cases known
      exact .inl rfl
  | member current key =>
    dsimp only
    refine Leaves.looksFirst_bind (defaultMember?_leaves engine proxy _) (fun name => ?_)
      ((world.holding cells).holding [object])
    cases name with
    | none => exact .looksFirst_of_changes (.bind (.typeText _) fun _ => .raise _)
    | some name => exact assignMember_looksFirst reach engine name keys value

/-- A plain assignment that a field or property gets by way of a call is offered after the look. -/
theorem assignMember_offers (dynamic : world.dynamicBehind? proxy = some object) {name : String}
    {slot : Slot} {rest : List Slot}
    (found : ((sceneIn world engine proxy (subjectIn world.store (.object object))).lookup
      name).visible = slot :: rest)
    (data : slot.declaration.isData = true) (value : Script.Value) :
    .offered ⟨proxy, object, .set name⟩ ::
        .looked (sceneIn world engine proxy (subjectIn world.store (.object object))) ::
          world.history <:+
      ((assignMember calls engine proxy name [] value).outcome world).2.history := by
  obtain ⟨leads, -⟩ := World.dynamicBehind?_eq_some.mp dynamic
  let scene := sceneIn world engine proxy (subjectIn world.store (.object object))
  let cells := proxy :: value.cells ++ ([] : List Script.Value).flatMap Script.Value.cells
  let noted := { (world.holding cells).holding [object] with
    history := .looked scene :: world.history }
  have looked : (look engine proxy).outcome (world.holding cells) = (.ok scene, noted) := by
    have there : (world.holding cells).targetOf proxy = .ok (.object object) := leads
    rw [outcome_look, there]
    rfl
  have passedOn : assignFound calls engine proxy scene name [] value =
      setMember calls engine proxy name value := by
    unfold assignFound
    dsimp only
    rw [found]
    dsimp only
    rcases Member.kind_of_isData data with kind | kind <;>
      · rw [kind]
        rfl
  have offered : (Operation.set proxy name value).offering? calls engine = some _ := rfl
  have still : noted.dynamicBehind? proxy = some object := dynamic
  have told := (Operation.comesFirst reach offered still).told
  unfold Operation.run at told
  rw [left_answering] at told
  unfold assignMember
  rw [outcome_scope, outcome_bind_of_ok (outcome_holdCells _ _), outcome_bind_of_ok looked,
    passedOn]
  exact told

end Binding

/-! ### All operations -/

/-- What an engine's script and the dynamic capabilities of objects make of each other. -/
structure World.Consults (world : World) (calls : Calls) (engine : EngineId) : Prop where
  /-- An operation that is offered comes to the capability first. -/
  first : ∀ {operation : Operation} {offering object},
    operation.offering? calls engine = some offering →
      world.dynamicBehind? offering.proxy = some object →
        offering.ComesFirst (operation.run calls engine) object world
  /-- Through a proxy of direct access it comes to the members alone. -/
  direct : ∀ {operation : Operation} {offering value},
    operation.offering? calls engine = some offering → world.PassesBy offering.proxy →
      world.targetOf offering.proxy = .ok value →
        (operation.run calls engine).outcome world = world.endScope
          ((offering.static value).outcome ((world.holding offering.cells).holding value.cells))
  /-- An assignment through a call comes to the members at once. -/
  assigned : ∀ {operation : Operation} {proxy object}, operation.assignee? = some proxy →
    world.dynamicBehind? proxy = some object →
      World.LooksFirst proxy world ((operation.run calls engine).outcome world).2
  /-- Only where that leaves a plain assignment to a field or property is it offered after all. -/
  passedOn : ∀ {proxy object name slot rest} (value : Script.Value),
    world.dynamicBehind? proxy = some object →
      let scene := sceneIn world engine proxy (subjectIn world.store (.object object))
      (scene.lookup name).visible = slot :: rest → slot.declaration.isData = true →
        .offered ⟨proxy, object, .set name⟩ :: .looked scene :: world.history <:+
          (((Operation.setInvokeMember proxy name [] value).run calls engine).outcome
            world).2.history
  /-- Through a proxy of direct access no capability is asked, however deep an operation goes. -/
  operation : ∀ operation : Operation, (operation.run calls engine).AsksOpenly world
  names : ∀ proxy, (memberNames engine proxy).AsksOpenly world
  deletion : ∀ object name, (deleteName engine object name).AsksOpenly world

/-- Whatever an engine's script does, in whichever world and however deep it goes: reading, writing,
calling and indexing an object that has a dynamic capability is offered to the capability first,
and never where the proxy has direct access. Assigning through a call is not offered. -/
theorem capabilities_are_consulted (depth : Nat) (engine : EngineId) (world : World) :
    world.Consults (Script.startWithin depth) engine where
  first offered dynamic := Operation.comesFirst (Script.startWithin_reach depth) offered dynamic
  direct {_ offering value} offered passes leads :=
    (Operation.outcome_run offered world).trans
      (offering.outcome_run_of_static leads (dynamicIn?_of_passesBy passes value))
  assigned {operation proxy object} assigns dynamic := by
    have leads := (World.dynamicBehind?_eq_some.mp dynamic).1
    have reach := Script.startWithin_reach depth
    cases operation with
    | setInvoke _ keys value =>
      cases assigns
      unfold Operation.run
      rw [left_answering]
      exact assignProxy_looksFirst reach engine leads keys value
    | setInvokeMember _ name keys value =>
      cases assigns
      unfold Operation.run
      rw [left_answering]
      exact assignMember_looksFirst reach engine name keys value world
    | _ => cases assigns
  passedOn value dynamic found data := by
    unfold Operation.run
    rw [left_answering]
    exact assignMember_offers (Script.startWithin_reach depth) engine dynamic found data value
  operation operation := (Operation.run_reaches (Script.startWithin_reach depth) engine
    operation).asksOpenly world
  names proxy := (memberNames_reaches engine proxy).asksOpenly world
  deletion object name := (deleteName_reaches engine object name).asksOpenly world

/-! ### A bag -/

/-- What was asked of which capability, if that is what happened. -/
def Binding.MemberEvent.offer? : MemberEvent → Option Offer
  | .offered offer => some offer
  | _ => none

namespace World

/-- A class of bags, with an indexer that can be written. -/
def bagClass : HostType where
  name := "Bag"
  kind := .reference
  members := [
    { declaring := 0, declaringAccess := none, name := "Item", kind := .indexer, isStatic := false
      isPrivate := false, parameters := [{ name := "index", type := .numeric .int32 }]
      type := .string, access := none, rename := none
      implementation := .accessor
        (some (.code (some "get") [.answer (.literal (.constant (.string "static")))]))
        (some (.code (some "set") [])) }]

/-- An engine, a bag whose capability handles some operations, and a proxy of the bag. -/
def withBag (handled : List Capability) (flags : ItemFlags) : World where
  store := {
    types := ⟨#[bagClass]⟩
    cells := #[
      some (.object {
        type := 0
        dynamic := some {
          values := [("1", .string "dynamic")]
          handled
          failing := []
          methods := []
          call := none } }),
      some (.proxy ⟨0, .reference (.object 0), none, flags⟩)] }
  engines := #[Engine.new "A" {} none]
  objects := [("bag", .object 0)]

end World

/-- The bag is asked for a key first. What it handles, it answers; what it does not handle, its
indexer answers after it; and with direct access only its indexer is asked. -/
theorem capabilities_are_consulted_of_bag :
    let ask := (Operation.getIndex 1 [.int 1]).run (Script.startWithin 3) 0
    let asked (world : World) :=
      [.offered ⟨1, 0, .getIndex⟩] <:+ (ask.outcome world).2.history
    let answer (world : World) := (ask.outcome world).1.toOption
    asked (.withBag [.getIndex] .none) ∧
      answer (.withBag [.getIndex] .none) = some (.string "dynamic") ∧
      asked (.withBag [] .none) ∧ answer (.withBag [] .none) = some (.string "static") ∧
      ask.AsksOpenly (.withBag [.getIndex] .directAccess) ∧
      answer (.withBag [.getIndex] .directAccess) = some (.string "static") := by
  have consults := capabilities_are_consulted 3 0
  have asked (handled : List Capability) :
      [.offered ⟨1, 0, .getIndex⟩] <:+ (((Operation.getIndex 1 [.int 1]).run
        (Script.startWithin 3) 0).outcome (.withBag handled .none)).2.history := by
    have offered : (Operation.getIndex 1 [.int 1]).offering? (Script.startWithin 3) 0 = some _ := rfl
    have dynamic : (World.withBag handled .none).dynamicBehind? 1 = some 0 := rfl
    exact ((consults _).first offered dynamic).told
  refine ⟨asked _, ?_, asked _, ?_, (consults _).operation _, ?_⟩
  · decide +kernel
  · decide +kernel
  · decide +kernel

/-- A bag that handles every operation is not offered an assignment through a call, which runs the
static indexer; it is offered the same assignment at keys. -/
theorem assignments_pass_capability_by :
    let world := World.withBag [.get, .set, .delete, .getIndex, .setIndex] .none
    let left (operation : Operation) :=
      ((operation.run (Script.startWithin 3) 0).outcome world).2
    let offers (operation : Operation) := (left operation).history.filterMap MemberEvent.offer?
    let bodies (operation : Operation) := (left operation).log.toList.filterMap LogEntry.label?
    world.dynamicBehind? 1 = some 0 ∧
      offers (.setIndex 1 [.int 1] (.string "new")) = [⟨1, 0, .setIndex⟩] ∧
      bodies (.setIndex 1 [.int 1] (.string "new")) = [] ∧
      offers (.setInvoke 1 [.int 1] (.string "new")) = [] ∧
      bodies (.setInvoke 1 [.int 1] (.string "new")) = ["set"] ∧
      offers (.setInvokeMember 1 "Item" [.int 1] (.string "new")) = [] ∧
      bodies (.setInvokeMember 1 "Item" [.int 1] (.string "new")) = ["set"] := by
  decide +kernel

end ScriptBridge
