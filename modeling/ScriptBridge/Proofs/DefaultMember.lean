/-
This file says what a call of an object comes to, and an assignment through one, where
the object is asked for no dynamic capability. Both are those of a name: the name that
the type declares for its default member, and if it declares none, that of the first
indexer which script sees. A name that nothing visible bears is called in vain, and so
are keys where nothing visible is declared as an indexer.
-/

import ScriptBridge.Proofs.CallForms

namespace ScriptBridge

/-- Nothing that follows changes what a run fails with. -/
theorem Run.result_bind_of_error {Failure Result Next : Type} {run : Run Failure Result}
    {world : World} {halt : Halt Failure} (failed : (run.outcome world).1 = .error halt)
    (next : Result → Run Failure Next) : ((run >>= next).outcome world).1 = .error halt := by
  rw [outcome_bind_of_error (Prod.ext failed rfl)]

namespace Binding

open Host Run

variable {world : World} {engine : EngineId} {proxy : CellId} {value : Host.Value} {key : TypeKey}
  {name : String} {calls : Calls}

/-! ### What calls look for -/

theorem callName?_of_undeclared {scene : Scene} (ofMember : scene.subject = .member value key)
    (undeclared : scene.declaredName? = none) :
    scene.callName? = scene.indexer?.map (·.declaration.scriptName) := by
  unfold Scene.callName?
  rw [ofMember, undeclared, Option.none_or]

/-- In one scene calls of a value look for one and the same. -/
theorem Scene.CallsAlike.refl {scene : Scene} (ofValue : ∀ type, scene.subject ≠ .statics type)
    (hosts : ∀ name, scene.Hosts name) : scene.CallsAlike scene where
  bare := rfl
  ofValue := ofValue
  found := by
    cases named : scene.callName? with
    | none => exact .inl ⟨rfl, rfl⟩
    | some name => exact .inr ⟨name, name, rfl, rfl, .refl scene name, .inl ⟨rfl, hosts name⟩⟩

/-! ### Calls go by name -/

theorem outcome_target_of_leads (leads : world.LeadsTo proxy value key) :
    (target proxy).outcome world = (.ok value, world.holding value.cells) := by
  unfold target
  rw [outcome_bind_of_ok (outcome_observe _ _), leads.target,
    outcome_bind_of_ok (outcome_ofExcept_ok _ _), outcome_hold]
  rfl

/-- What is in use in a world that holds the cells. -/
theorem held_holding (world : World) (cells : List CellId) :
    ∀ cell ∈ cells, cell ∈ (world.holding cells).held :=
  fun _ member => World.mem_held_holding.mpr (.inl member)

theorem outcome_subjectOf_bind {Result : Type} (leads : world.LeadsTo proxy value key)
    (next : Subject → ScriptRun Result) :
    (subjectOf proxy >>= next).outcome world =
      (next (.member value key)).outcome (world.holding value.cells) := by
  unfold subjectOf
  rw [bind_assoc, outcome_bind_of_ok (outcome_target_of_leads leads),
    outcome_bind_of_ok (outcome_readStore _ _), World.holding_store, subjectIn_of_leads leads]

/-- Calling an object that is no delegate calls the name that calls of it look for. -/
theorem outcome_callProxy_of_name (leads : world.LeadsTo proxy value key)
    (ordinary : ∀ delegate, value ≠ .delegate delegate)
    (named : (sceneIn world engine proxy (.member value key)).callName? = some name)
    (arguments : List Script.Value) :
    (callProxy calls engine proxy arguments).outcome world =
      (keeping (proxy :: arguments.flatMap Script.Value.cells)
        (keeping value.cells (invokeMember calls engine proxy name arguments))).outcome world := by
  set given := proxy :: arguments.flatMap Script.Value.cells
  have leads := leads.holding given
  have again : ((world.holding given).holding value.cells).LeadsTo proxy value key :=
    leads.holding value.cells
  have asked : (defaultMember? engine proxy (.member value key)).outcome
      ((world.holding given).holding value.cells) =
        (.ok (some name), (world.holding given).holding value.cells) :=
    (outcome_defaultMember?_eq engine proxy _ _).trans
      (congrArg (fun name => (Except.ok name, _)) named)
  have static : (callStatic calls engine proxy value arguments).outcome
      ((world.holding given).holding value.cells) =
        (invokeMember calls engine proxy name arguments).outcome
          ((world.holding given).holding value.cells) := by
    unfold callStatic
    rw [outcome_bind_of_ok (outcome_subjectOf_of_leads again (held_holding _ _))]
    cases value with
    | delegate delegate => exact absurd rfl (ordinary delegate)
    | _ => exact outcome_bind_of_ok asked
  have offered : (offerCall calls engine proxy value arguments).outcome
      ((world.holding given).holding value.cells) = (.ok none, _) :=
    outcome_offerCall again arguments
  unfold callProxy
  rw [outcome_scope, outcome_bind_of_ok (outcome_holdCells _ _),
    outcome_bind_of_ok (outcome_target_of_leads leads), outcome_bind_of_ok offered]
  dsimp only
  rw [static, outcome_keeping, outcome_keeping]

/-- Assigning through a call of an object assigns through a call of that name. -/
theorem outcome_assignProxy_of_name (leads : world.LeadsTo proxy value key)
    (named : (sceneIn world engine proxy (.member value key)).callName? = some name)
    (keys : List Script.Value) (assigned : Script.Value) :
    (assignProxy calls engine proxy keys assigned).outcome world =
      (keeping (proxy :: assigned.cells ++ keys.flatMap Script.Value.cells)
        (keeping value.cells
          (assignMember calls engine proxy name keys assigned))).outcome world := by
  set given := proxy :: assigned.cells ++ keys.flatMap Script.Value.cells
  have leads := leads.holding given
  have asked : (defaultMember? engine proxy (.member value key)).outcome
      ((world.holding given).holding value.cells) =
        (.ok (some name), (world.holding given).holding value.cells) :=
    (outcome_defaultMember?_eq engine proxy _ _).trans
      (congrArg (fun name => (Except.ok name, _)) named)
  unfold assignProxy
  rw [outcome_scope, outcome_bind_of_ok (outcome_holdCells _ _), outcome_subjectOf_bind leads]
  dsimp only
  rw [outcome_bind_of_ok asked, outcome_keeping, outcome_keeping]

/-! ### Names that nothing bears -/

/-- A name that script sees nothing under is no member. -/
theorem result_invokeMember_of_missing (leads : world.LeadsTo proxy value key)
    (ordinary : ∀ delegate, value ≠ .delegate delegate)
    (nothing : ((sceneIn world engine proxy (.member value key)).lookup name).visible = [])
    (untold : name ≠ toStringName) (arguments : List Script.Value) :
    ((invokeMember calls engine proxy name arguments).outcome world).1 =
      .error (.raised (.missingMember name)) := by
  have leads := leads.holding (proxy :: arguments.flatMap Script.Value.cells)
  have looked := outcome_look_of_leads leads engine
  have other : (name == toStringName && arguments.isEmpty) = false := by
    rw [beq_false_of_ne untold, Bool.false_and]
  unfold invokeMember invokeFound
  rw [outcome_scope, outcome_bind_of_ok (outcome_holdCells _ _), outcome_bind_of_ok looked]
  have nothing : ((sceneIn (world.holding (proxy :: arguments.flatMap Script.Value.cells)) engine
      proxy (.member value key)).lookup name).visible = [] := nothing
  rw [nothing]
  dsimp only
  unfold invokeOther
  rw [other]
  cases value with
  | delegate delegate => exact absurd rfl (ordinary delegate)
  | _ => rfl

theorem result_assignMember_of_missing (leads : world.LeadsTo proxy value key)
    (nothing : ((sceneIn world engine proxy (.member value key)).lookup name).visible = [])
    (keys : List Script.Value) (assigned : Script.Value) :
    ((assignMember calls engine proxy name keys assigned).outcome world).1 =
      .error (.raised (.missingMember name)) := by
  set given := proxy :: assigned.cells ++ keys.flatMap Script.Value.cells
  have looked := outcome_look_of_leads (leads.holding given) engine
  have nothing : ((sceneIn (world.holding given) engine proxy
      (.member value key)).lookup name).visible = [] := nothing
  unfold assignMember assignFound
  rw [outcome_scope, outcome_bind_of_ok (outcome_holdCells _ _), outcome_bind_of_ok looked]
  dsimp only
  rw [nothing]
  rfl

/-- A call of an object whose default member script sees nothing under the name of is in vain. -/
theorem result_callProxy_of_missing (leads : world.LeadsTo proxy value key)
    (ordinary : ∀ delegate, value ≠ .delegate delegate)
    (named : (sceneIn world engine proxy (.member value key)).callName? = some name)
    (nothing : ((sceneIn world engine proxy (.member value key)).lookup name).visible = [])
    (untold : name ≠ toStringName) (arguments : List Script.Value) :
    ((callProxy calls engine proxy arguments).outcome world).1 =
      .error (.raised (.missingMember name)) := by
  rw [outcome_callProxy_of_name leads ordinary named, outcome_keeping, outcome_keeping]
  exact result_invokeMember_of_missing ((leads.holding _).holding _) ordinary nothing untold _

theorem result_assignProxy_of_missing (leads : world.LeadsTo proxy value key)
    (named : (sceneIn world engine proxy (.member value key)).callName? = some name)
    (nothing : ((sceneIn world engine proxy (.member value key)).lookup name).visible = [])
    (keys : List Script.Value) (assigned : Script.Value) :
    ((assignProxy calls engine proxy keys assigned).outcome world).1 =
      .error (.raised (.missingMember name)) := by
  rw [outcome_assignProxy_of_name leads named, outcome_keeping, outcome_keeping]
  exact result_assignMember_of_missing ((leads.holding _).holding _) nothing _ _

/-! ### Keys that no indexer takes -/

/-- The error of keys for a value that has no indexer. -/
def unindexed (store : Store) (value : Host.Value) : ScriptError :=
  .notSupported s!"{store.typeText value} has no indexer"

theorem outcome_offerGetIndex (leads : world.LeadsTo proxy value key)
    (keys : List Script.Value) :
    (offerGetIndex calls engine proxy value keys).outcome world = (.ok none, world) := by
  unfold offerGetIndex offer
  rw [outcome_bind_of_ok (outcome_dynamicOf?_of_leads leads _)]
  rfl

theorem outcome_offerSetIndex (leads : world.LeadsTo proxy value key)
    (keys : List Script.Value) (assigned : Script.Value) :
    (offerSetIndex engine proxy value keys assigned).outcome world = (.ok false, world) := by
  unfold offerSetIndex offer
  rw [outcome_bind_of_ok (outcome_dynamicOf?_of_leads leads _)]
  rfl

/-- Keys other than a single text are for indexers. -/
theorem result_getIndex_of_unindexed (leads : world.LeadsTo proxy value key)
    (nothing : ((sceneIn world engine proxy (.member value key)).lookup
      Member.indexerName).visible = [])
    {keys : List Script.Value} (unnamed : ∀ name, keys ≠ [.string name]) :
    ((getIndex calls engine proxy keys).outcome world).1 =
      .error (.raised (unindexed world.store value)) := by
  set given := proxy :: keys.flatMap Script.Value.cells
  have leads := leads.holding given
  have offered : (offerGetIndex calls engine proxy value keys).outcome
      ((world.holding given).holding value.cells) = (.ok none, _) :=
    outcome_offerGetIndex (leads.holding value.cells) keys
  have looked := outcome_look_of_leads (leads.holding value.cells) engine
  unfold getIndex
  rw [outcome_scope, outcome_bind_of_ok (outcome_holdCells _ _),
    outcome_bind_of_ok (outcome_target_of_leads leads), outcome_bind_of_ok offered]
  unfold getIndexStatic Lookup.ofKind
  dsimp only
  rw [outcome_bind_of_ok looked]
  have nothing : ((sceneIn ((world.holding given).holding value.cells) engine proxy
      (.member value key)).lookup Member.indexerName).visible = [] := nothing
  rw [nothing]
  split
  · next other => cases other
  · split
    · next indexed _ => cases indexed
    · exact absurd rfl (unnamed _)
    · rfl

theorem result_setIndex_of_unindexed (leads : world.LeadsTo proxy value key)
    (nothing : ((sceneIn world engine proxy (.member value key)).lookup
      Member.indexerName).visible = [])
    {keys : List Script.Value} (unnamed : ∀ name, keys ≠ [.string name])
    (assigned : Script.Value) :
    ((setIndex calls engine proxy keys assigned).outcome world).1 =
      .error (.raised (unindexed world.store value)) := by
  set given := proxy :: assigned.cells ++ keys.flatMap Script.Value.cells
  have leads := leads.holding given
  have offered : (offerSetIndex engine proxy value keys assigned).outcome
      ((world.holding given).holding value.cells) = (.ok false, _) :=
    outcome_offerSetIndex (leads.holding value.cells) keys assigned
  have looked := outcome_look_of_leads (leads.holding value.cells) engine
  unfold setIndex
  rw [outcome_scope, outcome_bind_of_ok (outcome_holdCells _ _),
    outcome_bind_of_ok (outcome_target_of_leads leads), outcome_bind_of_ok offered]
  unfold setIndexStatic Lookup.ofKind
  rw [if_neg Bool.false_ne_true, outcome_bind_of_ok looked]
  have nothing : ((sceneIn ((world.holding given).holding value.cells) engine proxy
      (.member value key)).lookup Member.indexerName).visible = [] := nothing
  rw [nothing]
  split
  · next other => cases other
  · split
    · next indexed _ => cases indexed
    · exact absurd rfl (unnamed _)
    · rfl

end Binding

end ScriptBridge
