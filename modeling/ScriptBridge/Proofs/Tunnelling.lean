/-
This file follows what is applied to an object through its default member: arguments
of a call, or keys and a value to assign at them. Where the member reads as a value and
does not take what is given, the application goes on with the value, one call deeper but
in frames that have all ended. So it ends where the chain of values does, and nowhere
if the chain does not.
-/

import ScriptBridge.Proofs.DefaultMember
import ScriptBridge.Proofs.ProxyLives

namespace ScriptBridge

open Host Run Binding

/-! ### Passages -/

namespace Binding

/-- The member of a name that applications go through, if they go on: a field or a property, or
the first method that can be read. -/
def Scene.passage? (scene : Scene) (name : String) : Option Slot :=
  match (scene.lookup name).visible with
  | [] => none
  | first :: _ =>
    if first.declaration.isData then some first
    else if first.isKind .method then ((scene.lookup name).ofKind .method).find? Slot.isGetter
    else none

/-- What the member answers. -/
def readPassage (calls : Calls) (engine : EngineId) (scene : Scene) (slot : Slot) :
    ScriptRun Script.Value :=
  if slot.isKind .method then invokeSlot calls engine scene slot {} []
  else readSlot calls engine scene slot

end Binding

/-- What is applied to a value: arguments of a call, or keys and a value to assign at them. -/
inductive Application
  | call (arguments : List Script.Value)
  | assign (keys : List Script.Value) (value : Script.Value)

namespace Application

/-- Applies it to a value. -/
def run (application : Application) (calls : Calls) (engine : EngineId) (callee : Script.Value) :
    ScriptRun Script.Value :=
  match application with
  | call arguments => calls.callValue engine callee arguments
  | assign keys value => do
    calls.assignThrough engine callee keys value
    return .undefined

/-- Is it more than the member of the name takes itself? -/
def exceeds (application : Application) (scene : Scene) (name : String) (slot : Slot) : Bool :=
  match application with
  | call arguments =>
    if slot.isKind .method then missesCount scene.slots name arguments.length
    else !arguments.isEmpty
  | assign keys _ => slot.isKind .method || !keys.isEmpty

/-- The world with what is given in use, and the proxy that it is given to. -/
def given (application : Application) (world : World) (proxy : CellId) : World :=
  match application with
  | call arguments => world.holding (proxy :: arguments.flatMap Script.Value.cells)
  | assign keys value =>
    (world.holding [proxy]).holding (proxy :: value.cells ++ keys.flatMap Script.Value.cells)

end Application

variable {calls : Calls} {engine : EngineId} {world : World} {proxy : CellId} {value : Value}
  {key : TypeKey} {name : String} {slot : Slot} {application : Application}

/-- An application to the object behind the proxy goes through the slot of its default member. -/
structure World.HasPassage (world : World) (engine : EngineId) (proxy : CellId) (value : Value)
    (key : TypeKey) (name : String) (slot : Slot) (application : Application) : Prop where
  leads : world.LeadsTo proxy value key
  ordinary : ∀ delegate, value ≠ .delegate delegate
  named : (sceneIn world engine proxy (.member value key)).callName? = some name
  passage : (sceneIn world engine proxy (.member value key)).passage? name = some slot
  exceeds : application.exceeds (sceneIn world engine proxy (.member value key)) name slot = true

/-- The world in which the member of an object is read, once it has been looked up. -/
def Application.entered (application : Application) (world : World) (engine : EngineId)
    (proxy : CellId) (value : Value) (key : TypeKey) : World :=
  let ready := (application.given world proxy).holding value.cells
  { ready with
    history := .looked (sceneIn world engine proxy (.member value key)) :: ready.history }

namespace Binding

/-! ### Arguments that no overload takes -/

/-- An overload that does not take that many arguments does not match. -/
theorem attempt_of_unfit {arguments : List Script.Value}
    (unfit : slot.implementation.acceptsCount arguments.length = false) :
    attempt engine arguments world slot = .error (.raised .count) := by
  have refused : prepare engine slot.implementation.parameters arguments world =
      (.error (.raised .count), world) := by
    unfold prepare
    unfold Member.acceptsCount at unfit
    rw [unfit]
    rfl
  unfold attempt
  rw [refused]

/-- Where no overload matches, none is chosen. -/
theorem choose_of_unmatched {declared : Nat} {attempts : List (Except (Halt Mismatch) Match)}
    (unmatched : ∀ attempt ∈ attempts, attempt.toOption = none) :
    ∃ error, choose name declared attempts = .error error := by
  unfold choose
  rw [List.filterMap_eq_nil_iff.mpr unmatched]
  exact ⟨_, rfl⟩

/-- Where no overload of the name takes that many arguments, the call fails and changes nothing. -/
theorem outcome_resolve_of_missed (engine : EngineId) {scene : Scene}
    {arguments : List Script.Value}
    (missed : missesCount scene.slots name arguments.length = true) (world : World) :
    ∃ error, (resolve engine name ((scene.lookup name).ofKind .method)
      (scene.lookup name).declared arguments).outcome world = (.error (.raised error), world) := by
  have unmatched : ∀ attempted ∈ ((scene.lookup name).ofKind .method).map
      (attempt engine arguments world), attempted.toOption = none := by
    intro attempted member
    obtain ⟨slot, candidate, rfl⟩ := List.mem_map.mp member
    obtain ⟨offered, seen⟩ := List.mem_filter.mp (List.mem_filter.mp candidate).1
    have known : slot.isNamed name = true := by
      unfold Slot.isNamed
      rw [((Bool.and_eq_true _ _).mp seen).2, Bool.true_or]
    have unfit := List.all_eq_true.mp ((Bool.and_eq_true _ _).mp missed).2 slot offered
    rw [known, Bool.not_true, Bool.false_or, Bool.not_eq_true'] at unfit
    rw [attempt_of_unfit unfit]
    rfl
  obtain ⟨error, refused⟩ := choose_of_unmatched unmatched
  refine ⟨error, ?_⟩
  show resolve engine name _ _ arguments world = _
  unfold resolve
  rw [refused]

/-! ### Applications go through -/

/-- A passage is the first member of the name, or the first that can be read of its methods. -/
theorem passage?_cases {scene : Scene} (passage : scene.passage? name = some slot) :
    (∃ rest, (scene.lookup name).visible = slot :: rest ∧ slot.declaration.isData = true) ∨
      ((∃ first rest, (scene.lookup name).visible = first :: rest ∧
          first.declaration.kind = .method) ∧
        ((scene.lookup name).ofKind .method).find? Slot.isGetter = some slot ∧
          slot.isKind .method = true) := by
  unfold Scene.passage? at passage
  split at passage
  · cases passage
  · next first rest visible =>
    split at passage
    · next data =>
      cases passage
      exact .inl ⟨rest, visible, data⟩
    · split at passage
      · next method =>
        refine .inr ⟨⟨first, rest, visible, eq_of_beq method⟩, passage, ?_⟩
        exact (List.mem_filter.mp (List.mem_of_find?_eq_some passage)).2
      · cases passage

/-- A field or a property is no method. -/
theorem isKind_method_of_isData (data : slot.declaration.isData = true) :
    slot.isKind .method = false ∧
      (slot.declaration.kind = .field ∨ slot.declaration.kind = .property) := by
  have kinds := Member.kind_of_isData data
  refine ⟨?_, kinds⟩
  unfold Slot.isKind
  rcases kinds with kind | kind <;>
    · rw [kind]
      rfl

/-- A call of a name that its passage does not take goes on with what that answers. -/
theorem outcome_invokeFound_of_passage {scene : Scene} {arguments : List Script.Value}
    (passage : scene.passage? name = some slot)
    (exceeds : (Application.call arguments).exceeds scene name slot = true) (world : World) :
    (invokeFound calls engine scene name arguments).outcome world = (do
      let answer ← held (readPassage calls engine scene slot)
      calls.callValue engine answer arguments).outcome world := by
  unfold invokeFound readPassage
  unfold Application.exceeds at exceeds
  rcases passage?_cases passage with
    ⟨rest, visible, data⟩ | ⟨⟨first, rest, visible, kind⟩, getter, method⟩
  · obtain ⟨plain, kind⟩ := isKind_method_of_isData data
    rw [plain] at exceeds
    have given : arguments.isEmpty = false := Bool.not_eq_true' _ ▸ exceeds
    rw [visible, plain]
    dsimp only
    rcases kind with kind | kind <;>
      · rw [kind, given]
        rfl
  · rw [method] at exceeds
    obtain ⟨error, refused⟩ := outcome_resolve_of_missed engine exceeds world
    rw [visible, method]
    dsimp only
    rw [kind]
    dsimp only
    unfold invokeMethod
    dsimp only
    rw [outcome_bind, outcome_settle, refused]
    dsimp only
    rw [getter, show missesCount scene.slots name arguments.length = true from exceeds]
    rfl

/-- An assignment through such a name goes on with it too. -/
theorem outcome_assignFound_of_passage {scene : Scene} {keys : List Script.Value}
    {assigned : Script.Value} (passage : scene.passage? name = some slot)
    (exceeds : (Application.assign keys assigned).exceeds scene name slot = true) (world : World) :
    (assignFound calls engine proxy scene name keys assigned).outcome world = (do
      let answer ← held (readPassage calls engine scene slot)
      calls.assignThrough engine answer keys assigned).outcome world := by
  unfold assignFound readPassage
  unfold Application.exceeds at exceeds
  dsimp only at exceeds ⊢
  rcases passage?_cases passage with
    ⟨rest, visible, data⟩ | ⟨⟨first, rest, visible, kind⟩, getter, method⟩
  · obtain ⟨plain, kind⟩ := isKind_method_of_isData data
    rw [plain, Bool.false_or, Bool.not_eq_true'] at exceeds
    rw [visible, plain]
    dsimp only
    rcases kind with kind | kind <;>
      · rw [kind, exceeds]
        rfl
  · rw [visible, method]
    dsimp only
    rw [kind]
    dsimp only
    rw [getter]
    rfl

/-- In the world in which the proxy and what is given are in use, calling the name of a passage
goes on with its answer once the passage was looked up. -/
theorem result_invokeMember_of_passage {arguments : List Script.Value}
    (leads : world.LeadsTo proxy value key)
    (passage : (sceneIn world engine proxy (.member value key)).passage? name = some slot)
    (exceeds : (Application.call arguments).exceeds (sceneIn world engine proxy (.member value key))
      name slot = true)
    (inUse : ∀ cell ∈ proxy :: arguments.flatMap Script.Value.cells, cell ∈ world.held) :
    ((invokeMember calls engine proxy name arguments).outcome world).1 =
      ((do
        let answer ← held
          (readPassage calls engine (sceneIn world engine proxy (.member value key)) slot)
        calls.callValue engine answer arguments).outcome
          { world.holding value.cells with
            history :=
              .looked (sceneIn world engine proxy (.member value key)) :: world.history }).1 := by
  unfold invokeMember
  rw [outcome_scope, outcome_bind_of_ok (outcome_holdCells_of_mem inUse),
    outcome_bind_of_ok (outcome_look_of_leads leads engine),
    outcome_invokeFound_of_passage passage exceeds]

theorem result_assignMember_of_passage {keys : List Script.Value} {assigned : Script.Value}
    (leads : world.LeadsTo proxy value key)
    (passage : (sceneIn world engine proxy (.member value key)).passage? name = some slot)
    (exceeds : (Application.assign keys assigned).exceeds
      (sceneIn world engine proxy (.member value key)) name slot = true)
    (inUse : ∀ cell ∈ proxy :: assigned.cells ++ keys.flatMap Script.Value.cells,
      cell ∈ world.held) :
    ((assignMember calls engine proxy name keys assigned).outcome world).1 =
      ((do
        let answer ← held
          (readPassage calls engine (sceneIn world engine proxy (.member value key)) slot)
        calls.assignThrough engine answer keys assigned).outcome
          { world.holding value.cells with
            history :=
              .looked (sceneIn world engine proxy (.member value key)) :: world.history }).1 := by
  unfold assignMember
  rw [outcome_scope, outcome_bind_of_ok (outcome_holdCells_of_mem inUse),
    outcome_bind_of_ok (outcome_look_of_leads leads engine),
    outcome_assignFound_of_passage passage exceeds]

end Binding

theorem Application.outcome_bind_assign {read : ScriptRun Script.Value} {keys : List Script.Value}
    {assigned : Script.Value} :
    (do (assign keys assigned).run calls engine (← read)).outcome world =
      (((do calls.assignThrough engine (← read) keys assigned).outcome world).1.map
          fun _ => Script.Value.undefined,
        ((do calls.assignThrough engine (← read) keys assigned).outcome world).2) :=
  (congrArg (Run.outcome · world) (bind_assoc _ _ _).symm).trans (Operation.outcome_answering rfl)

/-- What is applied through a passage goes on, one call deeper, with what the passage answers. -/
theorem World.HasPassage.result_run
    (has : world.HasPassage engine proxy value key name slot application) (depth : Nat) :
    ((application.run (Script.startWithin (depth + 1)) engine (.proxy proxy)).outcome world).1 =
      ((do
        let answer ← Run.held (readPassage (Script.startWithin depth) engine
          (sceneIn world engine proxy (.member value key)) slot)
        application.run (Script.startWithin depth) engine answer).outcome
          (application.entered world engine proxy value key)).1 := by
  obtain ⟨leads, ordinary, named, passage, exceeds⟩ := has
  cases application with
  | call arguments =>
    show ((callValue (Script.startWithin depth) engine (.proxy proxy) arguments).outcome world).1 =
      _
    have inUse := held_holding world (proxy :: arguments.flatMap Script.Value.cells)
    unfold callValue
    rw [outcome_scope, outcome_bind_of_ok (outcome_holdCells _ _)]
    dsimp only [Script.Value.cells, List.singleton_append]
    rw [outcome_callProxy_of_name (leads.holding _) ordinary named, outcome_keeping,
      World.holding_eq_self inUse, outcome_keeping]
    rw [result_invokeMember_of_passage ((leads.holding _).holding _) passage exceeds
      fun cell member => World.mem_held_holding.mpr (.inr (inUse cell member)),
      World.holding_eq_self (held_holding _ value.cells)]
    rfl
  | assign keys assigned =>
    show ((do
        assignThrough (Script.startWithin depth) engine (.proxy proxy) keys assigned
        return Script.Value.undefined : ScriptRun Script.Value).outcome world).1 = _
    have inUse := held_holding (world.holding [proxy])
      (proxy :: assigned.cells ++ keys.flatMap Script.Value.cells)
    unfold assignThrough
    rw [Operation.outcome_answering rfl, outcome_scope, outcome_bind_of_ok (outcome_holdCells _ _)]
    dsimp only [Script.Value.cells]
    rw [outcome_assignProxy_of_name (leads.holding _) named, outcome_keeping, outcome_keeping]
    dsimp only
    rw [result_assignMember_of_passage (((leads.holding _).holding _).holding _) passage exceeds
      fun cell member => World.mem_held_holding.mpr (.inr (inUse cell member)),
      World.holding_eq_self (held_holding _ value.cells)]
    rw [Application.outcome_bind_assign]
    rfl

/-! ### Chains of answers -/

namespace Application

/-- Where calls of a depth can be started, what is applied to the value in the world goes on with
the answer, in the world that reading it leaves. -/
inductive GoesOn (application : Application) (engine : EngineId) (depth : Nat) :
    World → Script.Value → World → Script.Value → Prop
  | through {world after : World} {proxy : CellId} {value : Value} {key : TypeKey} {name : String}
      {slot : Slot} {answer : Script.Value}
      (has : world.HasPassage engine proxy value key name slot application)
      (reads : (held (readPassage (Script.startWithin depth) engine
        (sceneIn world engine proxy (.member value key)) slot)).outcome
          (application.entered world engine proxy value key) = (.ok answer, after)) :
      GoesOn application engine depth world (.proxy proxy) after answer

/-- The application goes on a number of times, after which calls of the depth are left. -/
inductive Chain (application : Application) (engine : EngineId) (depth : Nat) :
    Nat → World → Script.Value → World → Script.Value → Prop
  | done (world : World) (callee : Script.Value) :
      Chain application engine depth 0 world callee world callee
  | next {count : Nat} {world between last : World} {callee answer final : Script.Value}
      (goes : application.GoesOn engine (depth + count) world callee between answer)
      (rest : Chain application engine depth count between answer last final) :
      Chain application engine depth (count + 1) world callee last final

/-- From these values in these worlds the application goes on with others of them, as long as calls
can be started. -/
def NeverLeaves (application : Application) (engine : EngineId)
    (among : World → Script.Value → Prop) : Prop :=
  ∀ world callee, among world callee → ∃ proxy value key name slot, callee = .proxy proxy ∧
    world.HasPassage engine proxy value key name slot application ∧
      ∀ depth, match (held (readPassage (Script.startWithin depth) engine
          (sceneIn world engine proxy (.member value key)) slot)).outcome
            (application.entered world engine proxy value key) with
        | (.ok answer, after) => among after answer
        | (.error halt, _) => halt = .exhausted

variable {depth count : Nat} {last : World} {callee final : Script.Value}

/-- What is applied to a chain of answers comes to what is applied to the last. -/
theorem result_of_chain (chain : application.Chain engine depth count world callee last final) :
    ((application.run (Script.startWithin (depth + count)) engine callee).outcome world).1 =
      ((application.run (Script.startWithin depth) engine final).outcome last).1 := by
  induction chain with
  | done => rfl
  | @next count world between last callee answer final goes rest inductionHypothesis =>
    obtain ⟨has, reads⟩ := goes
    rw [← inductionHypothesis, ← Nat.add_assoc, has.result_run, outcome_bind_of_ok reads]

/-- Where the answers have no end, no depth is enough. -/
theorem exhausted_of_neverLeaves {among : World → Script.Value → Prop}
    (endless : application.NeverLeaves engine among) : ∀ {world : World} {callee : Script.Value},
      among world callee → ∀ depth,
        ((application.run (Script.startWithin depth) engine callee).outcome world).1 =
          .error .exhausted := by
  intro world callee member depth
  induction depth generalizing world callee with
  | zero => cases application <;> rfl
  | succ depth inductionHypothesis =>
    obtain ⟨proxy, value, key, name, slot, rfl, has, goes⟩ := endless world callee member
    have goes := goes depth
    rw [has.result_run, outcome_bind]
    rcases reads : (held (readPassage (Script.startWithin depth) engine
      (sceneIn world engine proxy (.member value key)) slot)).outcome
        (application.entered world engine proxy value key) with ⟨halt | answer, after⟩
    · rw [reads] at goes
      exact congrArg Except.error goes
    · rw [reads] at goes
      exact inductionHypothesis goes

end Application

/-! ### An object that answers with itself -/

/-- A property that answers with the object it is read on. -/
def Host.Member.itself : Member where
  declaring := 0
  declaringAccess := none
  name := "Me"
  kind := .property
  isStatic := false
  isPrivate := false
  parameters := []
  type := .object
  access := none
  rename := none
  implementation := .accessor (some (.code none [.answer .self])) none

/-- A class of objects whose default member answers with the object. -/
def Host.HostType.mirror : HostType where
  name := "Mirror"
  kind := .reference
  defaultMember := some "Me"
  members := [.itself]

/-- Script runs on an engine that allows three frames, and has a mirror in hand. -/
def World.withMirror (history : List MemberEvent) : World where
  store := {
    types := ⟨#[.mirror]⟩
    cells := #[some (.object { type := 0 }),
      some (.proxy ⟨0, .reference (.object 0), none, .none⟩)] }
  engines := #[{ Engine.new "main" { maxDepth := 3 } none with
    cache := { references := [(⟨0, none, .none⟩, 1)], roots := [(1, .object 0)] }
    session := { frames := (default : FrameStack).push .script, state := .running, maxDepth := 3 } }]
  objects := [("mirror", .object 0)]
  held := [1, 0]
  history := history

namespace World

theorem withMirror_isSettled (history : List MemberEvent) : (withMirror history).IsSettled := by
  intro cell living
  match cell with
  | 0 => exact List.mem_of_elem_eq_true rfl
  | 1 => exact List.mem_of_elem_eq_true rfl
  | cell + 2 =>
    unfold Store.isLive at living
    rw [Store.get?_of_size_le (Nat.le_add_left 2 cell)] at living
    cases living

theorem withMirror_findReference (history : List MemberEvent) :
    (Bridge.findReference 0 (.object 0) none .none).outcome (withMirror history) =
      (.ok 1, { withMirror history with held := [1, 1, 0] }) := by
  have keyed : ReferenceKey.of? (.object 0) none .none = some ⟨0, none, .none⟩ := rfl
  rw [IsSettled.outcome_findReference (withMirror_isSettled history) rfl keyed]
  rfl

/-- The mirror is marshaled as its proxy. -/
theorem withMirror_toScript (calls : Calls) (history : List MemberEvent) :
    (Bridge.toScript calls 0 (.object 0) .object).outcome (withMirror history) =
      (.ok (.proxy 1), withMirror history) := by
  have inUse : (holdCells (Value.object 0).cells : ScriptRun Unit).outcome (withMirror history) =
      (.ok (), withMirror history) := rfl
  have roomy : (Bridge.reserve 0).outcome (withMirror history) = (.ok (), withMirror history) := rfl
  have proxied : (Bridge.proxyReference 0 (.object 0) .object .none).outcome (withMirror history) =
      (.ok 1, { withMirror history with held := [1, 1, 0] }) := by
    unfold Bridge.proxyReference
    rw [outcome_bind_of_ok inUse, outcome_bind_of_ok (outcome_readStore _ _),
      outcome_bind_of_ok roomy]
    exact withMirror_findReference history
  unfold Bridge.toScript Run.engine
  rw [outcome_scope, outcome_bind_of_ok inUse, outcome_bind_of_ok (outcome_observe _ _)]
  dsimp only
  rw [outcome_bind_of_ok proxied]
  rfl

/-- Its default member answers with it and leaves the world as it was, but for what is noted. -/
theorem withMirror_reads (calls : Calls) (history past : List MemberEvent) :
    ∃ later, (readPassage calls 0 (sceneIn (withMirror past) 0 1 (.member (.object 0) 0))
      (.plain .itself)).outcome (withMirror history) = (.ok (.proxy 1), withMirror later) := by
  set scene := sceneIn (withMirror past) 0 1 (.member (.object 0) 0)
  have accessed : (Run.held (readAccessor calls 0 scene (.plain .itself)
      (.code none [.answer .self]) [])).outcome (withMirror history) =
        (.ok (.object 0), withMirror (.used ⟨scene, .plain .itself,
          .read (.code none [.answer .self])⟩ :: history)) := rfl
  have reads : readPassage calls 0 scene (.plain .itself) = scope (do
      let value ← Run.held (readAccessor calls 0 scene (.plain .itself)
        (.code none [.answer .self]) [])
      Bridge.toScript calls 0 value .object) := rfl
  rw [reads, outcome_scope, outcome_bind_of_ok accessed, withMirror_toScript]
  exact ⟨_, rfl⟩

theorem withMirror_chain (history : List MemberEvent) :
    (withMirror history).store.types.chain 0 = [0] := by
  rw [TypeTable.chain]
  rfl

theorem withMirror_slots (history : List MemberEvent) :
    (sceneIn (withMirror history) 0 1 (.member (.object 0) 0)).slots = [.plain .itself] := by
  show collectSlots _ ((withMirror history).store.types.chain 0) _ = _
  rw [withMirror_chain]
  rfl

theorem withMirror_leads (history : List MemberEvent) :
    (withMirror history).LeadsTo 1 (.object 0) 0 := ⟨rfl, rfl, rfl⟩

/-- Whatever is applied to the mirror goes through its default member. -/
theorem withMirror_hasPassage {application : Application} (history : List MemberEvent)
    (exceeds : ∀ scene, application.exceeds scene "Me" (.plain .itself) = true) :
    (withMirror history).HasPassage 0 1 (.object 0) 0 "Me" (.plain .itself) application where
  leads := withMirror_leads history
  ordinary := nofun
  named := by
    refine callName?_of_declared ?_
    show (withMirror history).store.types.defaultMember? 0 = some "Me"
    unfold TypeTable.defaultMember?
    rw [withMirror_chain]
    rfl
  passage := by
    unfold Scene.passage? Scene.lookup
    dsimp only
    rw [withMirror_slots]
    rfl
  exceeds := exceeds _

/-- The mirror, in one of the worlds in which script has nothing else in hand. -/
def IsMirror (world : World) (callee : Script.Value) : Prop :=
  callee = .proxy 1 ∧ ∃ history, world = withMirror history

theorem withMirror_neverLeaves {application : Application}
    (exceeds : ∀ scene, application.exceeds scene "Me" (.plain .itself) = true)
    (enters : ∀ history, ∃ later,
      application.entered (withMirror history) 0 1 (.object 0) 0 = withMirror later) :
    application.NeverLeaves 0 IsMirror := by
  rintro _ _ ⟨rfl, history, rfl⟩
  refine ⟨1, .object 0, 0, "Me", .plain .itself, rfl, withMirror_hasPassage history exceeds, ?_⟩
  intro depth
  obtain ⟨past, entered⟩ := enters history
  obtain ⟨later, reads⟩ := withMirror_reads (Script.startWithin depth) past history
  rw [entered, outcome_held_eq_ok.mpr ⟨_, reads, rfl⟩]
  exact ⟨rfl, later, rfl⟩

theorem withMirror_neverLeaves_call :
    (Application.call [.int 1]).NeverLeaves 0 IsMirror :=
  withMirror_neverLeaves (fun _ => rfl) fun _ => ⟨_, rfl⟩

theorem withMirror_neverLeaves_assign :
    (Application.assign [.int 1] (.int 2)).NeverLeaves 0 IsMirror :=
  withMirror_neverLeaves (fun _ => rfl) fun _ => ⟨_, rfl⟩

/-- A call of it goes on with it. -/
theorem withMirror_chain_call (depth : Nat) :
    ∃ later, (Application.call [.int 1]).Chain 0 depth 1 (withMirror []) (.proxy 1)
      (withMirror later) (.proxy 1) := by
  obtain ⟨later, reads⟩ := withMirror_reads (Script.startWithin depth)
    [.looked (sceneIn (withMirror []) 0 1 (.member (.object 0) 0))] []
  exact ⟨later, .next (.through (withMirror_hasPassage [] fun _ => rfl)
    (outcome_held_eq_ok.mpr ⟨_, reads, rfl⟩)) (.done _ _)⟩

end World

theorem withMirror_isMirror (history : List MemberEvent) :
    World.IsMirror (.withMirror history) (.proxy 1) := ⟨rfl, history, rfl⟩

/-- The default member of the mirror answers and leaves everything as it was, and yet neither a
call of the mirror ends nor an assignment through one: no depth is enough, though the engine allows
three frames. -/
theorem calls_of_mirrors_never_end :
    (∀ depth, ∃ later, (getMember (Script.startWithin depth) 0 1 "Me").outcome (.withMirror []) =
      (.ok (.proxy 1), .withMirror later)) ∧
      ∀ application ∈ [Application.call [.int 1], .assign [.int 1] (.int 2)], ∀ depth,
        ((application.run (Script.startWithin depth) 0 (.proxy 1)).outcome (.withMirror [])).1 =
          .error .exhausted := by
  refine ⟨fun depth => ?_, fun application member depth => ?_⟩
  · have found : ((sceneIn (.withMirror []) 0 1 (.member (.object 0) 0)).lookup "Me").visible =
        [.plain .itself] := by
      unfold Scene.lookup
      rw [World.withMirror_slots]
      rfl
    have answers : (getMember (Script.startWithin depth) 0 1 "Me").outcome (.withMirror []) = _ :=
      outcome_getMember (World.withMirror_leads []) (List.mem_of_elem_eq_true rfl)
        (fun cell member => List.mem_cons_of_mem _ member) found
    obtain ⟨later, reads⟩ := World.withMirror_reads (Script.startWithin depth)
      [.looked (sceneIn (.withMirror []) 0 1 (.member (.object 0) 0))] []
    have asSlot : readPassage (Script.startWithin depth) 0
        (sceneIn (.withMirror []) 0 1 (.member (.object 0) 0)) (.plain .itself) =
          readSlot (Script.startWithin depth) 0
            (sceneIn (.withMirror []) 0 1 (.member (.object 0) 0)) (.plain .itself) := rfl
    rw [asSlot] at reads
    exact ⟨later, answers.trans reads⟩
  · rcases List.mem_cons.mp member with rfl | other
    · exact Application.exhausted_of_neverLeaves World.withMirror_neverLeaves_call
        (withMirror_isMirror []) depth
    · rw [List.mem_singleton.mp other]
      exact Application.exhausted_of_neverLeaves World.withMirror_neverLeaves_assign
        (withMirror_isMirror []) depth

/-! ### Where applications end -/

/-- A call of an object, or an assignment through one, ends where the chain of the answers of
default members does: after any number of them it comes to what is applied to the last answer, for
which that many calls fewer can be started. Where the answers have no end, no depth is enough. The
frames that an engine allows bound neither. -/
theorem applications_end_with_answers (application : Application) (engine : EngineId) :
    (∀ (depth count : Nat) (world last : World) (callee final : Script.Value),
      application.Chain engine depth count world callee last final →
        ((application.run (Script.startWithin (depth + count)) engine callee).outcome world).1 =
          ((application.run (Script.startWithin depth) engine final).outcome last).1) ∧
      ∀ among : World → Script.Value → Prop, application.NeverLeaves engine among →
        ∀ world callee, among world callee → ∀ depth,
          ((application.run (Script.startWithin depth) engine callee).outcome world).1 =
            .error .exhausted :=
  ⟨fun _ _ _ _ _ _ => Application.result_of_chain,
    fun _ endless _ _ => Application.exhausted_of_neverLeaves endless⟩

/-- The mirror called with an argument answers with itself once, and comes to the call of the
answer. -/
theorem applications_end_with_answers_of_mirror :
    (∃ later, (Application.call [.int 1]).Chain 0 0 1 (.withMirror []) (.proxy 1)
        (.withMirror later) (.proxy 1) ∧
      (((Application.call [.int 1]).run (Script.startWithin 1) 0 (.proxy 1)).outcome
          (.withMirror [])).1 =
        (((Application.call [.int 1]).run (Script.startWithin 0) 0 (.proxy 1)).outcome
          (.withMirror later)).1) ∧
      (Application.call [.int 1]).NeverLeaves 0 World.IsMirror ∧
        World.IsMirror (.withMirror []) (.proxy 1) ∧
          (((Application.call [.int 1]).run (Script.startWithin 1) 0 (.proxy 1)).outcome
            (.withMirror [])).1 = .error .exhausted := by
  obtain ⟨chains, ends⟩ := applications_end_with_answers (.call [.int 1]) 0
  refine ⟨?_, World.withMirror_neverLeaves_call, withMirror_isMirror [], ?_⟩
  · obtain ⟨later, chain⟩ := World.withMirror_chain_call 0
    exact ⟨later, chain, chains 0 1 _ _ _ _ chain⟩
  · exact ends World.IsMirror World.withMirror_neverLeaves_call _ _ (withMirror_isMirror []) 1

end ScriptBridge
