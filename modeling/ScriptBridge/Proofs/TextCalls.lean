/-
This file says where the text of a proxy comes from. Asking for it calls a name, and the
call goes to the members that script sees under that name: to a method that takes no
arguments, if one does so at less cost than any other, and to a field or a property,
which is read. Only where script sees none of them is the text the one that every value
has by itself. So a method of the name that needs arguments leaves a proxy without a
text, and so do methods among which the call cannot choose, an indexer and an event.
-/

import ScriptBridge.Proofs.OverloadChoice
import ScriptBridge.Proofs.Receivers

namespace ScriptBridge

open Host Run Bridge Binding Conversion

namespace Binding

variable {calls : Calls} {engine : EngineId} {world : World} {proxy : CellId} {name : String}
  {slot : Slot} {prepared : Prepared} {candidates : List Slot} {declared : Nat}

/-! ### Calls without arguments -/

/-- The cost of leaving out the arguments for parameters, on top of a cost. -/
def costOfNone : Cost → List Parameter → Cost
  | cost, [] => cost
  | cost, parameter :: rest =>
    if parameter.collects then { cost with expanded := true }
    else costOfNone { cost with defaults := cost.defaults + 1 } rest

/-- Does the slot take a call without arguments? -/
def Slot.takesNone (slot : Slot) : Bool := slot.implementation.acceptsCount 0

/-- The cost of calling the slot without arguments. -/
def Slot.costOfNone (slot : Slot) : Cost := Binding.costOfNone {} slot.implementation.parameters

/-- Places that no argument is left for are filled, at a cost that the parameters tell. -/
theorem prepareFrom_none (engine : EngineId) (parameters : List Parameter) :
    ∀ (prepared : Prepared) (world : World), ∃ result ready,
      (prepareFrom engine prepared parameters []).outcome world = (.ok result, ready) ∧
        result.cost = Binding.costOfNone prepared.cost parameters := by
  induction parameters with
  | nil => exact fun prepared world => ⟨prepared, world, rfl, rfl⟩
  | cons parameter rest inductionHypothesis =>
    intro prepared world
    unfold prepareFrom Binding.costOfNone
    cases collects : parameter.collects with
    | true => exact ⟨_, _, rfl, rfl⟩
    | false => exact inductionHypothesis (prepared.addDefault parameter) world

theorem prepare_none (engine : EngineId) (slot : Slot) :
    prepare engine slot.implementation.parameters [] =
      if slot.takesNone then prepareFrom engine {} slot.implementation.parameters []
      else raise .count := rfl

theorem prepare_none_of_takesNone (engine : EngineId) (world : World)
    (takes : slot.takesNone = true) :
    ∃ prepared ready, (prepare engine slot.implementation.parameters []).outcome world =
      (.ok prepared, ready) ∧ prepared.cost = slot.costOfNone := by
  rw [prepare_none, if_pos takes]
  exact prepareFrom_none engine _ {} world

theorem prepare_none_of_not_takesNone (engine : EngineId) (world : World)
    (refuses : slot.takesNone = false) :
    (prepare engine slot.implementation.parameters []).outcome world =
      (.error (.raised .count), world) := by
  rw [prepare_none, if_neg (Bool.eq_false_iff.mp refuses)]
  rfl

theorem cost_of_takes_none (takes : Takes engine [] world slot prepared) :
    slot.takesNone = true ∧ prepared.cost = slot.costOfNone := by
  obtain ⟨after, made⟩ := takes
  cases none : slot.takesNone with
  | false =>
    rw [prepare_none_of_not_takesNone engine world none] at made
    cases made
  | true =>
    obtain ⟨other, ready, prepares, cost⟩ := prepare_none_of_takesNone engine world none
    cases made.symm.trans prepares
    exact ⟨rfl, cost⟩

/-! ### The choice without arguments -/

/-- Where no candidate takes a call without arguments, the member is missing, whatever the others
would take. -/
theorem resolve_none_missing (engine : EngineId) (name : String) (declared : Nat) (world : World)
    (refuse : ∀ slot ∈ candidates, slot.takesNone = false) :
    (resolve engine name candidates declared []).outcome world =
      (.error (.raised (.missingMember name)), world) := by
  refine resolve_eq_missingMember.mpr ⟨fun slot member prepared takes => ?_, ?_⟩
  · have takes := (cost_of_takes_none takes).1
    rw [refuse slot member] at takes
    cases takes
  · rintro error ⟨-, slot, after, rfl, fails⟩
    rw [prepare_none_of_not_takesNone engine world (refuse slot List.mem_cons_self)] at fails
    cases fails

/-- A candidate that takes a call without arguments at the least cost is found, or shares that cost
with another. -/
theorem resolve_none_cases (engine : EngineId) (name : String) (declared : Nat) (world : World)
    (some_ : ∃ slot ∈ candidates, slot.takesNone = true) :
    (∃ left slot right prepared ready, candidates = left ++ slot :: right ∧
      slot.takesNone = true ∧
      (∀ other ∈ left ++ right, other.takesNone = true →
        slot.costOfNone.compare other.costOfNone = .lt) ∧
      (prepare engine slot.implementation.parameters []).outcome world = (.ok prepared, ready) ∧
      (resolve engine name candidates declared []).outcome world =
        (.ok (slot, prepared), ready)) ∨
    ∃ left first middle second right, candidates = left ++ first :: middle ++ second :: right ∧
      first.takesNone = true ∧ second.takesNone = true ∧ first.costOfNone = second.costOfNone ∧
      (∀ other ∈ candidates, other.takesNone = true →
        (first.costOfNone.compare other.costOfNone).isLE) ∧
      (resolve engine name candidates declared []).outcome world =
        (.error (.raised (.ambiguousMember name)), world) := by
  have takes {slot : Slot} (none : slot.takesNone = true) :
      ∃ prepared, Takes engine [] world slot prepared ∧ prepared.cost = slot.costOfNone := by
    obtain ⟨prepared, ready, prepares, cost⟩ := prepare_none_of_takesNone engine world none
    exact ⟨prepared, ⟨ready, prepares⟩, cost⟩
  rcases scanned : cheapest (matchesOf engine [] world candidates) with
    - | ⟨best, - | ⟨next, rest⟩⟩
  · obtain ⟨slot, member, none⟩ := some_
    obtain ⟨prepared, taken, -⟩ := takes none
    exact absurd taken (cheapest_matchesOf_eq_nil.mp scanned slot member prepared)
  · have resolved : (resolve engine name candidates declared []).outcome world =
        (.ok (best.slot, best.prepared), best.world) := resolve_eq_ok.mpr scanned
    obtain ⟨left, right, split, prepares, cheaper⟩ := resolve_ok_iff.mp resolved
    obtain ⟨none, cost⟩ := cost_of_takes_none ⟨_, prepares⟩
    refine .inl ⟨left, best.slot, right, _, _, split, none, fun other member takesToo => ?_,
      prepares, resolved⟩
    obtain ⟨rival, taken, same⟩ := takes takesToo
    rw [← cost, ← same]
    exact cheaper other member rival taken
  · have resolved : (resolve engine name candidates declared []).outcome world =
        (.error (.raised (.ambiguousMember name)), world) :=
      resolve_eq_ambiguous.mpr ⟨best, next, rest, scanned⟩
    obtain ⟨left, first, middle, second, right, one, two, split, takesOne, takesTwo, same, least⟩ :=
      resolve_ambiguous_iff.mp resolved
    obtain ⟨none, cost⟩ := cost_of_takes_none takesOne
    obtain ⟨noneToo, costToo⟩ := cost_of_takes_none takesTwo
    refine .inr ⟨left, first, middle, second, right, split, none, noneToo,
      cost.symm.trans (same.trans costToo), fun other member takesToo => ?_, resolved⟩
    obtain ⟨rival, taken, sameCost⟩ := takes takesToo
    rw [← cost, ← sameCost]
    exact least other member rival taken

/-! ### Members of a name -/

theorem mem_foldl_addSlot {members : List Member} {slots : List Slot}
    (member : slot ∈ members.foldl addSlot slots) :
    slot ∈ slots ∨ ∃ shown ∈ members, slot = .plain shown := by
  induction members generalizing slots with
  | nil => exact .inl member
  | cons first rest inductionHypothesis =>
    rcases inductionHypothesis member with among | ⟨shown, among, rfl⟩
    · unfold addSlot at among
      split at among
      · exact .inl among
      · refine (List.mem_append.mp among).imp_right fun last => ?_
        exact ⟨first, List.mem_cons_self, List.mem_singleton.mp last⟩
    · exact .inr ⟨shown, List.mem_cons_of_mem _ among, rfl⟩

/-- The slots collected are for members that are selected. -/
theorem selects_of_mem_collectSlots {table : TypeTable} {chain : List TypeKey}
    {selects : Member → Bool} (member : slot ∈ collectSlots table chain selects) :
    selects slot.declaration = true := by
  rcases mem_foldl_addSlot member with none | ⟨shown, among, rfl⟩
  · cases none
  · obtain ⟨key, -, among⟩ := List.mem_flatMap.mp among
    exact (Bool.and_eq_true_iff.mp (List.mem_filter.mp among).2).2

/-- Whatever view they are seen through, the members of an instance are members of instances. -/
theorem isInstanceMember_of_mem_instanceSlots {table : TypeTable} {key : TypeKey}
    {view : Option TypeKey} (member : slot ∈ instanceSlots table key view) :
    slot.declaration.isInstanceMember = true := by
  unfold instanceSlots at member
  dsimp only at member
  split at member
  · exact selects_of_mem_collectSlots member
  · split at member
    · obtain ⟨interface, -, among⟩ := List.mem_flatMap.mp member
      obtain ⟨declaration, -, shown⟩ := List.mem_filterMap.mp among
      obtain ⟨declares, carried⟩ := Option.ite_none_right_eq_some.mp shown
      obtain ⟨carrier, -, rfl⟩ := Option.map_eq_some_iff.mp carried
      exact (Bool.and_eq_true_iff.mp declares).2
    · split at member
      · obtain ⟨base, among, rfl⟩ := List.mem_map.mp member
        have ofBase := selects_of_mem_collectSlots among
        split
        · exact ofBase
        · exact ofBase
      · exact selects_of_mem_collectSlots member

/-- No constructor is among the members of a scene. -/
theorem kind_ne_constructor {scene : Scene} (member : slot ∈ scene.slots) :
    slot.declaration.kind ≠ .constructor := by
  unfold Scene.slots Subject.slots at member
  split at member
  · exact bne_iff_ne.mp (Bool.and_eq_true_iff.mp (selects_of_mem_collectSlots member)).2
  · exact bne_iff_ne.mp (Bool.and_eq_true_iff.mp (isInstanceMember_of_mem_instanceSlots member)).2
  · cases member

/-! ### Ways to a text -/

/-- What a call of the name of texts without arguments comes to, given what script sees. -/
inductive TextEnds (calls : Calls) (engine : EngineId) (scene : Scene) (target : Value)
    (looked : World) : Except (Halt ScriptError) Script.Value × World → Prop
  /-- Script sees nothing under the name: the value is asked for its own text. -/
  | own (unseen : (scene.lookup toStringName).visible = []) :
      TextEnds calls engine scene target looked
        ((do return .string (← valueText target) : ScriptRun Script.Value).outcome looked)
  /-- One method takes no arguments at less cost than all others, and runs. -/
  | overload {slot : Slot} {left right : List Slot} {prepared : Prepared} {ready : World}
      (methods : scene.namesMethods toStringName)
      (split : (scene.lookup toStringName).ofKind .method = left ++ slot :: right)
      (none : slot.takesNone = true)
      (cheaper : ∀ other ∈ left ++ right, other.takesNone = true →
        slot.costOfNone.compare other.costOfNone = .lt)
      (prepares : (prepare engine slot.implementation.parameters []).outcome looked =
        (.ok prepared, ready)) :
      TextEnds calls engine scene target looked
        ((invokeSlot calls engine scene slot prepared []).outcome ready)
  /-- No method takes a call without arguments. -/
  | missing (methods : scene.namesMethods toStringName)
      (refuse : ∀ slot ∈ (scene.lookup toStringName).ofKind .method, slot.takesNone = false) :
      TextEnds calls engine scene target looked
        (.error (.raised (.missingMember toStringName)), looked)
  /-- Two methods take no arguments at the same cost, and none at less. -/
  | ambiguous {first second : Slot} {left middle right : List Slot}
      (methods : scene.namesMethods toStringName)
      (split : (scene.lookup toStringName).ofKind .method =
        left ++ first :: middle ++ second :: right)
      (none : first.takesNone = true) (noneToo : second.takesNone = true)
      (same : first.costOfNone = second.costOfNone)
      (least : ∀ other ∈ (scene.lookup toStringName).ofKind .method, other.takesNone = true →
        (first.costOfNone.compare other.costOfNone).isLE) :
      TextEnds calls engine scene target looked
        (.error (.raised (.ambiguousMember toStringName)), looked)
  /-- A field or a property is read. -/
  | data {first : Slot} {rest : List Slot}
      (visible : (scene.lookup toStringName).visible = first :: rest)
      (isData : first.declaration.isData = true) :
      TextEnds calls engine scene target looked
        ((held (readSlot calls engine scene first)).outcome looked)
  /-- An indexer is read at no keys. -/
  | indexer {first : Slot} {rest : List Slot}
      (visible : (scene.lookup toStringName).visible = first :: rest)
      (isIndexer : first.declaration.kind = .indexer) :
      TextEnds calls engine scene target looked
        ((readIndexer calls engine scene toStringName []).outcome looked)
  /-- An event is not called. -/
  | event {first : Slot} {rest : List Slot}
      (visible : (scene.lookup toStringName).visible = first :: rest)
      (isEvent : first.declaration.kind = .event) :
      TextEnds calls engine scene target looked
        (.error (.raised (eventError toStringName)), looked)

/-- A method without parameters can be called without arguments, so none is gone through. -/
theorem invokeMethod_textEnds {scene : Scene} {target : Value} (looked : World)
    (methods : scene.namesMethods toStringName) :
    TextEnds calls engine scene target looked
      ((invokeMethod calls engine scene toStringName []).outcome looked) := by
  have untunnelled : missesCount scene.slots toStringName ([] : List Script.Value).length = false :=
    rfl
  have failing {error : ScriptError}
      (refused : (resolve engine toStringName ((scene.lookup toStringName).ofKind .method)
        (scene.lookup toStringName).declared []).outcome looked =
          (.error (.raised error), looked)) :
      (invokeMethod calls engine scene toStringName []).outcome looked =
        (.error (.raised error), looked) := by
    unfold invokeMethod
    dsimp only
    rw [outcome_bind_of_ok (outcome_settle_eq_error.mpr refused)]
    dsimp only
    rw [untunnelled]
    split
    · next impossible => cases impossible
    · rfl
  by_cases some_ : ∃ slot ∈ (scene.lookup toStringName).ofKind .method, slot.takesNone = true
  · rcases resolve_none_cases engine toStringName (scene.lookup toStringName).declared looked
        some_ with
      ⟨left, slot, right, prepared, ready, split, none, cheaper, prepares, resolved⟩ |
      ⟨left, first, middle, second, right, split, none, noneToo, same, least, refused⟩
    · have called : (invokeMethod calls engine scene toStringName []).outcome looked =
          (invokeSlot calls engine scene slot prepared []).outcome ready := by
        unfold invokeMethod
        dsimp only
        rw [outcome_bind_of_ok (outcome_settle_eq_ok.mpr resolved)]
      rw [called]
      exact .overload methods split none cheaper prepares
    · rw [failing refused]
      exact .ambiguous methods split none noneToo same least
  · have refuse : ∀ slot ∈ (scene.lookup toStringName).ofKind .method, slot.takesNone = false :=
      fun slot member => Bool.eq_false_iff.mpr fun takes => some_ ⟨slot, member, takes⟩
    rw [failing (resolve_none_missing engine toStringName _ looked refuse)]
    exact .missing methods refuse

/-- Where no member answers for it, the call of the name of texts is for the text of the value. -/
theorem outcome_invokeOther_text (calls : Calls) (engine : EngineId) (target : Value)
    (world : World) :
    (invokeOther calls engine (subjectIn world.store target) toStringName []).outcome world =
      (do return .string (← valueText target) : ScriptRun Script.Value).outcome world := by
  unfold subjectIn
  split
  · next type =>
    have read : (valueText (.type type) : ScriptRun String).outcome world =
        (.ok (world.store.types.display type), world) := rfl
    rw [outcome_bind_of_ok read]
    rfl
  · split
    · rfl
    · rfl

theorem invokeFound_textEnds {scene : Scene} {target : Value} (looked : World)
    (shown : scene.subject = subjectIn looked.store target) :
    TextEnds calls engine scene target looked
      ((invokeFound calls engine scene toStringName []).outcome looked) := by
  unfold invokeFound
  split
  · next unseen =>
    rw [shown, outcome_invokeOther_text]
    exact .own unseen
  · next first rest visible =>
    have read (isData : first.declaration.isData = true) :
        TextEnds calls engine scene target looked ((do
          let value ← held (readSlot calls engine scene first)
          if ([] : List Script.Value).isEmpty then return value
          else calls.callValue engine value [] : ScriptRun Script.Value).outcome looked) := by
      have onlyRead : (do
          let value ← held (readSlot calls engine scene first)
          if ([] : List Script.Value).isEmpty then return value
          else calls.callValue engine value [] : ScriptRun Script.Value) =
            held (readSlot calls engine scene first) := bind_pure _
      rw [onlyRead]
      exact .data visible isData
    cases kind : first.declaration.kind with
    | method => exact invokeMethod_textEnds looked ⟨first, rest, visible, kind⟩
    | indexer => exact .indexer visible kind
    | field | property => exact read (by unfold Member.isData; rw [kind]; rfl)
    | event => exact .event visible kind
    | constructor =>
      have among : first ∈ (scene.lookup toStringName).visible := visible ▸ List.mem_cons_self
      exact absurd kind (kind_ne_constructor (List.mem_filter.mp among).1)

/-! ### The text of a proxy -/

/-- Where no capability is asked, a call of a name is one of what script sees under it. -/
theorem outcome_invoke_of_plain {target : Value} (leads : world.targetOf proxy = .ok target)
    (plain : world.dynamicBehind? proxy = none) (calls : Calls) (engine : EngineId) (name : String)
    (arguments : List Script.Value) :
    ∃ looked, world.Glances looked ∧
      (Binding.invoke calls engine proxy name arguments).outcome world =
        world.endScope ((invokeFound calls engine
          (sceneIn world engine proxy (subjectIn world.store target)) name arguments).outcome
            looked) := by
  let cells := proxy :: arguments.flatMap Script.Value.cells
  let ready := (world.holding cells).holding target.cells
  have held : world.Glances (ready.holding cells) := RunRelation.held world _
  have looks : (look engine proxy).outcome (ready.holding cells) =
      (.ok (sceneIn world engine proxy (subjectIn world.store target)),
        ((look engine proxy).outcome (ready.holding cells)).2) := by
    rw [outcome_look, held.targetOf.trans leads]
    rfl
  have glances := look_glances engine proxy (ready.holding cells)
  rw [looks] at glances
  refine ⟨_, RunRelation.trans held glances, ?_⟩
  have led : (Binding.target proxy).outcome (world.holding cells) = (.ok target, ready) :=
    outcome_target_of_ok leads
  have unasked : (offerInvoke calls engine proxy target name arguments).outcome ready =
      (.ok none, ready) := outcome_offer_of_none plain leads
  unfold Binding.invoke
  rw [outcome_scope, outcome_bind_of_ok (outcome_holdCells _ _), outcome_bind_of_ok led,
    outcome_bind_of_ok unasked]
  dsimp only
  unfold invokeMember
  rw [outcome_scope, outcome_bind_of_ok (outcome_holdCells _ _), outcome_bind_of_ok looks]
  rfl

end Binding

/-- Who keeps the cells that a run keeps sees the same of it. -/
theorem Run.outcome_keeping_holding {Failure Result : Type} (cells : List CellId)
    (run : Run Failure Result) (world : World) :
    (keeping cells run).outcome (world.holding cells) =
      (world.holding cells).endScope ((keeping cells run).outcome world) := by
  have again : (world.holding cells).holding cells = world.holding cells :=
    World.holding_eq_self fun cell member => World.mem_held_holding.mpr (.inl member)
  rw [outcome_keeping, outcome_keeping, again]
  rfl

/-- Where script needs the text of a proxy, the name of texts is called. -/
theorem Script.outcome_textOf_proxy (calls : Calls) (engine : EngineId) (proxy : CellId)
    (world : World) :
    (Script.textOf calls engine (.proxy proxy)).outcome world =
      (((Binding.invoke calls engine proxy toStringName []).outcome world).1.map
          fun value => value.toString?.getD "",
        ((Binding.invoke calls engine proxy toStringName []).outcome world).2) := by
  have called : (Binding.invoke calls engine proxy toStringName []).outcome
      (world.holding [proxy]) = (world.holding [proxy]).endScope
        ((Binding.invoke calls engine proxy toStringName []).outcome world) :=
    outcome_keeping_holding [proxy] _ world
  have left : ((Binding.invoke calls engine proxy toStringName []).outcome world).2.held =
      world.held := rfl
  have asked : Script.textOf calls engine (.proxy proxy) = keeping [proxy] (do
      return (← Binding.invoke calls engine proxy toStringName []).toString?.getD "") := rfl
  rw [asked, outcome_keeping]
  generalize (Binding.invoke calls engine proxy toStringName []).outcome world = answer
    at called left ⊢
  obtain ⟨halt | value, after⟩ := answer
  · rw [outcome_bind_of_error called, ← left]
    rfl
  · rw [outcome_bind_of_ok called, ← left]
    rfl

/-- Asking a proxy that no capability stands behind for its text ends in one of the ways above, by
a call in script as well as where script needs a text. -/
theorem texts_come_from_visible_members (calls : Calls) (engine : EngineId) {world : World}
    {proxy : CellId} {target : Value} (leads : world.targetOf proxy = .ok target)
    (plain : world.dynamicBehind? proxy = none) :
    ∃ looked outcome, world.Glances looked ∧
      TextEnds calls engine (sceneIn world engine proxy (subjectIn world.store target)) target
        looked outcome ∧
      (Binding.invoke calls engine proxy toStringName []).outcome world = world.endScope outcome ∧
      (Script.textOf calls engine (.proxy proxy)).outcome world = world.endScope
        (outcome.1.map fun value => value.toString?.getD "", outcome.2) := by
  obtain ⟨looked, glances, called⟩ :=
    outcome_invoke_of_plain leads plain calls engine toStringName []
  refine ⟨looked, _, glances, invokeFound_textEnds looked ?_, called, ?_⟩
  · show subjectIn world.store target = _
    rw [glances.store]
  · rw [Script.outcome_textOf_proxy, called]
    rfl

/-! ### A method that needs an argument -/

/-- A method for the text of something in a base. -/
def Host.Member.textInBase : Member where
  declaring := 0
  declaringAccess := none
  name := toStringName
  kind := .method
  isStatic := false
  isPrivate := false
  parameters := [{ name := "base", type := .numeric .int32 }]
  type := .string
  access := none
  rename := none
  implementation := .invoke (.code none [.answer (.literal (.constant (.string "text")))])

namespace World

/-- A widget, whose type has no other method for texts, a proxy of it, and a proxy of a number. -/
def withWidget : World where
  store := {
    types := ⟨#[{ name := "Widget", kind := .reference, members := [.textInBase] }]⟩
    cells := #[some (.object { type := 0 }),
      some (.proxy ⟨0, .reference (.object 0), none, .none⟩),
      some (.proxy ⟨0, .boxed (.integer ⟨.int32, 5, by decide⟩), none, .none⟩)] }
  engines := #[Engine.new "main" {} none]

end World

/-- A number has no members, and is asked for its own text. -/
theorem texts_come_from_visible_members_of_number :
    let number : Value := .integer ⟨.int32, 5, by decide⟩
    World.withWidget.targetOf 2 = .ok number ∧ World.withWidget.dynamicBehind? 2 = none ∧
      ((Script.textOf (Script.startWithin 1) 0 (.proxy 2)).outcome .withWidget).1 = .ok "5" := by
  intro number
  have leads : World.withWidget.targetOf 2 = .ok number := rfl
  have plain : World.withWidget.dynamicBehind? 2 = none := rfl
  refine ⟨leads, plain, ?_⟩
  obtain ⟨looked, outcome, glances, ends, -, text⟩ :=
    texts_come_from_visible_members (Script.startWithin 1) 0 leads plain
  have unseen : ((sceneIn .withWidget 0 2 (subjectIn World.withWidget.store number)).lookup
      toStringName).visible = [] := rfl
  have unnamed : ¬(sceneIn .withWidget 0 2 (subjectIn World.withWidget.store number)).namesMethods
      toStringName := by
    rintro ⟨first, rest, visible, -⟩
    rw [unseen] at visible
    cases visible
  rw [text]
  cases ends with
  | own => rfl
  | overload methods | missing methods | ambiguous methods => exact absurd methods unnamed
  | data visible | indexer visible | event visible =>
    rw [unseen] at visible
    cases visible

/-- The only method of the name needs an argument. A widget has a text of its own, but asking for it
fails because a member is missing. -/
theorem method_with_parameter_hides_text :
    let scene := sceneIn .withWidget 0 1 (subjectIn World.withWidget.store (.object 0))
    World.withWidget.targetOf 1 = .ok (.object 0) ∧ World.withWidget.dynamicBehind? 1 = none ∧
      (scene.lookup toStringName).visible.any Slot.takesNone = false ∧
      World.withWidget.store.text? (.object 0) = some "Widget" ∧
      errorName? ((Binding.invoke (Script.startWithin 1) 0 1 toStringName []).outcome
        .withWidget).1 = some "MissingMember" := by
  refine ⟨rfl, rfl, ?_, ?_, ?_⟩ <;> decide +kernel

end ScriptBridge
