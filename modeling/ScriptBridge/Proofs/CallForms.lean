/-
This file proves that the ways to reach what an object keeps at keys come to the
same. Calling the object, calling the name that its indexers bear, calling what
that name reads as and calling the getter of that all read through the indexer
that fits the keys; the assignments through these calls all write through it. A
name that reads as a value is read first, and the arguments go to the value. The
cells that a call needs are in use all through it, whoever makes the call.
-/

import ScriptBridge.Proofs.HiddenAnnotations

namespace ScriptBridge

open Host Run Binding

/-! ### Instances and their indexers -/

namespace World

/-- The proxy leads to an instance of a registered type, about which no dynamic capability is
asked. -/
structure LeadsTo (world : World) (proxy : CellId) (value : Host.Value) (key : TypeKey) :
    Prop where
  target : world.targetOf proxy = .ok value
  typed : world.store.typeOf value = .named key
  unasked : dynamicIn? world.store proxy value = none

/-- Calling the instance behind the proxy reaches indexers: its type declares no default member, and
of its members script sees under the name the indexers that it sees, and no others. -/
structure IsIndexed (world : World) (engine : EngineId) (proxy : CellId) (value : Host.Value)
    (key : TypeKey) (name : String) : Prop where
  undeclared : world.store.types.defaultMember? key = none
  named : ∀ slot ∈ (sceneIn world engine proxy (.member value key)).slots,
    (sceneIn world engine proxy (.member value key)).sight.sees slot = true →
      (slot.declaration.scriptName = name ↔ slot.isKind .indexer = true)
  shown : ∃ slot ∈ (sceneIn world engine proxy (.member value key)).slots,
    (sceneIn world engine proxy (.member value key)).sight.sees slot = true ∧
      slot.isKind .indexer = true
  /-- A delegate type has a signature in place of members. -/
  memberless : ∀ delegate, value = .delegate delegate →
    (sceneIn world engine proxy (.member value key)).slots = []

end World

variable {world : World} {engine : EngineId} {proxy : CellId} {value : Host.Value} {key : TypeKey}
  {name : String} {calls : Calls}

/-! ### What is in use already -/

namespace Run

variable {Failure Result : Type}

/-- The run of someone who keeps cells in use all through it. -/
def keeping (cells : List CellId) (run : Run Failure Result) : Run Failure Result :=
  scope (do holdCells cells; run)

theorem outcome_keeping (cells : List CellId) (run : Run Failure Result) (world : World) :
    (keeping cells run).outcome world =
      ((run.outcome (world.holding cells)).1,
        { (run.outcome (world.holding cells)).2 with held := world.held }) := rfl

theorem outcome_keeping_of_eq {cells : List CellId} {run other : Run Failure Result}
    (same : run.outcome (world.holding cells) = other.outcome (world.holding cells)) :
    (keeping cells run).outcome world = (keeping cells other).outcome world := by
  rw [outcome_keeping, outcome_keeping, same]

/-- In the end nothing tells whether a run had a scope of its own. -/
theorem outcome_keeping_scope {cells : List CellId} {run other : Run Failure Result}
    (same : run.outcome (world.holding cells) = (scope other).outcome (world.holding cells)) :
    (keeping cells run).outcome world = (keeping cells other).outcome world := by
  rw [outcome_keeping, outcome_keeping, same]
  rfl

end Run

namespace Binding

theorem outcome_holdCells_of_mem {Failure : Type} {cells : List CellId}
    (inUse : ∀ cell ∈ cells, cell ∈ world.held) :
    (holdCells cells : Run Failure Unit).outcome world = (.ok (), world) := by
  rw [outcome_holdCells, World.holding_eq_self inUse]

/-- A run that comes to one with a scope of its own does so from a scope as well. -/
theorem outcome_scope_of_eq {Failure Result : Type} {run inner : Run Failure Result}
    (same : run.outcome world = (scope inner).outcome world) :
    (scope run).outcome world = (scope inner).outcome world := by
  rw [outcome_scope, same, outcome_scope]

theorem subjectIn_of_leads (leads : world.LeadsTo proxy value key) :
    subjectIn world.store value = .member value key := by
  have typed := leads.typed
  unfold subjectIn
  cases value with
  | type type => cases typed
  | _ =>
    dsimp only
    rw [typed]

theorem outcome_target (leads : world.LeadsTo proxy value key)
    (inUse : ∀ cell ∈ value.cells, cell ∈ world.held) :
    (target proxy).outcome world = (.ok value, world) := by
  unfold target
  rw [outcome_bind_of_ok (outcome_observe _ _), leads.target,
    outcome_bind_of_ok (outcome_ofExcept_ok _ _), outcome_hold]
  exact congrArg (Prod.mk _) (World.holding_eq_self inUse)

theorem outcome_subjectOf_of_leads (leads : world.LeadsTo proxy value key)
    (inUse : ∀ cell ∈ value.cells, cell ∈ world.held) :
    (subjectOf proxy).outcome world = (.ok (.member value key), world) := by
  unfold subjectOf
  rw [outcome_bind_of_ok (outcome_target leads inUse), outcome_readStore, subjectIn_of_leads leads]

/-! ### Nothing is offered -/

theorem outcome_dynamicOf?_of_leads (leads : world.LeadsTo proxy value key) (request : Request) :
    (dynamicOf? proxy value request).outcome world = (.ok none, world) := by
  rw [outcome_dynamicOf?, leads.unasked]

theorem outcome_offerGet (leads : world.LeadsTo proxy value key) (name : String) :
    (offerGet calls engine proxy value name).outcome world = (.ok none, world) := by
  unfold offerGet offer
  rw [outcome_bind_of_ok (outcome_dynamicOf?_of_leads leads _)]
  rfl

theorem outcome_offerInvoke (leads : world.LeadsTo proxy value key) (name : String)
    (arguments : List Script.Value) :
    (offerInvoke calls engine proxy value name arguments).outcome world = (.ok none, world) := by
  unfold offerInvoke offer
  rw [outcome_bind_of_ok (outcome_dynamicOf?_of_leads leads _)]
  rfl

theorem outcome_offerCall (leads : world.LeadsTo proxy value key)
    (arguments : List Script.Value) :
    (offerCall calls engine proxy value arguments).outcome world = (.ok none, world) := by
  unfold offerCall offer
  rw [outcome_bind_of_ok (outcome_dynamicOf?_of_leads leads _)]
  rfl

/-! ### The name of the indexers -/

/-- The member that calling the instance reaches bears the name of its indexers. -/
theorem outcome_defaultMember? (indexed : world.IsIndexed engine proxy value key name) :
    (defaultMember? engine proxy (.member value key)).outcome world = (.ok (some name), world) := by
  unfold defaultMember?
  rw [outcome_bind_of_ok (outcome_types _)]
  dsimp only
  rw [indexed.undeclared]
  unfold sceneOf
  rw [outcome_bind_of_ok (outcome_observe _ _)]
  generalize shows : sceneIn world engine proxy (.member value key) = scene
  obtain ⟨slot, offered, seen, isIndexer⟩ := indexed.shown
  have found : (scene.slots.find? fun slot =>
      slot.isKind .indexer && scene.sight.sees slot).isSome = true := by
    rw [List.find?_isSome]
    exact ⟨slot, shows ▸ offered, by rw [isIndexer, ← shows, seen]; rfl⟩
  obtain ⟨first, found⟩ := Option.isSome_iff_exists.mp found
  have isFirst := List.find?_some found
  rw [Bool.and_eq_true] at isFirst
  have named : first.declaration.scriptName = name :=
    (indexed.named first (shows ▸ List.mem_of_find?_eq_some found) (shows ▸ isFirst.2)).mpr
      isFirst.1
  rw [found]
  exact congrArg (fun name => (Except.ok (some name), world)) named

/-- Under the name script sees an indexer first. -/
theorem lookup_of_indexed (indexed : world.IsIndexed engine proxy value key name) :
    ∃ first rest, ((sceneIn world engine proxy (.member value key)).lookup name).visible =
        first :: rest ∧
      first.declaration.kind = .indexer ∧ first.declaration.scriptName = name := by
  generalize shows : sceneIn world engine proxy (.member value key) = scene
  obtain ⟨slot, offered, seen, isIndexer⟩ := indexed.shown
  rw [shows] at offered seen
  have member : slot ∈ (scene.lookup name).visible := by
    refine List.mem_filter.mpr ⟨offered, ?_⟩
    rw [seen, (indexed.named slot (shows ▸ offered) (shows ▸ seen)).mpr isIndexer, beq_self_eq_true]
    rfl
  obtain ⟨first, rest, found⟩ := List.exists_cons_of_ne_nil (List.ne_nil_of_mem member)
  refine ⟨first, rest, found, ?_⟩
  have isFirst : first ∈ (scene.lookup name).visible := found ▸ List.mem_cons_self
  obtain ⟨offered, holds⟩ := List.mem_filter.mp isFirst
  rw [Bool.and_eq_true, beq_iff_eq] at holds
  exact ⟨beq_iff_eq.mp ((indexed.named first (shows ▸ offered) (shows ▸ holds.1)).mp holds.2),
    holds.2⟩

/-! ### Reading and writing at keys -/

/-- Reads at keys through the indexers of a name. -/
def readAt (calls : Calls) (engine : EngineId) (proxy : CellId) (name : String)
    (keys : List Script.Value) : ScriptRun Script.Value := scope do
  readIndexer calls engine (← look engine proxy) name keys

/-- Writes at keys through the indexers of a name. -/
def writeAt (calls : Calls) (engine : EngineId) (proxy : CellId) (name : String)
    (keys : List Script.Value) (assigned : Script.Value) : ScriptRun Unit := scope do
  writeIndexer calls engine (← look engine proxy) name keys assigned

theorem outcome_look_of_leads (leads : world.LeadsTo proxy value key) (engine : EngineId) :
    (look engine proxy).outcome world =
      (.ok (sceneIn world engine proxy (.member value key)),
        { world.holding value.cells with
          history :=
            .looked (sceneIn world engine proxy (.member value key)) :: world.history }) := by
  rw [outcome_look, leads.target]
  dsimp only
  rw [subjectIn_of_leads leads]

/-- What a call of a name starts with where what it needs is in use: a look. -/
theorem outcome_look_bind (leads : world.LeadsTo proxy value key) {Result : Type}
    {cells : List CellId} (inUse : ∀ cell ∈ cells, cell ∈ world.held)
    {next other : Scene → ScriptRun Result}
    (same : next (sceneIn world engine proxy (.member value key)) =
      other (sceneIn world engine proxy (.member value key))) :
    (scope (do holdCells cells; next (← look engine proxy))).outcome world =
      (scope (do other (← look engine proxy))).outcome world := by
  have looked := outcome_look_of_leads leads engine
  rw [outcome_scope, outcome_scope, outcome_bind_of_ok (outcome_holdCells_of_mem inUse),
    outcome_bind_of_ok looked, outcome_bind_of_ok looked, same]

/-- Calling the name of the indexers reads through them. -/
theorem outcome_invokeMember (leads : world.LeadsTo proxy value key)
    (indexed : world.IsIndexed engine proxy value key name) {keys : List Script.Value}
    (inUse : ∀ cell ∈ proxy :: keys.flatMap Script.Value.cells, cell ∈ world.held) :
    (invokeMember calls engine proxy name keys).outcome world =
      (readAt calls engine proxy name keys).outcome world := by
  obtain ⟨first, rest, found, isIndexer, -⟩ := lookup_of_indexed indexed
  refine outcome_look_bind leads inUse ?_
  unfold invokeFound
  rw [found]
  dsimp only
  rw [isIndexer]

/-- Assigning through a call of that name writes through them. -/
theorem outcome_assignMember (leads : world.LeadsTo proxy value key)
    (indexed : world.IsIndexed engine proxy value key name) {keys : List Script.Value}
    {assigned : Script.Value}
    (inUse : ∀ cell ∈ proxy :: assigned.cells ++ keys.flatMap Script.Value.cells,
      cell ∈ world.held) :
    (assignMember calls engine proxy name keys assigned).outcome world =
      (writeAt calls engine proxy name keys assigned).outcome world := by
  obtain ⟨first, rest, found, isIndexer, -⟩ := lookup_of_indexed indexed
  refine outcome_look_bind leads inUse ?_
  unfold assignFound
  dsimp only
  rw [found]
  dsimp only
  rw [isIndexer]

/-! ### The forms of a call -/

/-- Calling a name of an instance that no capability is asked about calls the member. -/
theorem outcome_invoke (leads : world.LeadsTo proxy value key) {arguments : List Script.Value}
    (inUse : ∀ cell ∈ proxy :: arguments.flatMap Script.Value.cells, cell ∈ world.held)
    (reached : ∀ cell ∈ value.cells, cell ∈ world.held) :
    (Binding.invoke calls engine proxy name arguments).outcome world =
      (invokeMember calls engine proxy name arguments).outcome world := by
  unfold Binding.invoke
  refine outcome_scope_of_eq ?_
  rw [outcome_bind_of_ok (outcome_holdCells_of_mem inUse),
    outcome_bind_of_ok (outcome_target leads reached),
    outcome_bind_of_ok (outcome_offerInvoke leads name arguments)]
  rfl

/-- Calling the instance calls the name of its indexers. -/
theorem outcome_callProxy (leads : world.LeadsTo proxy value key)
    (indexed : world.IsIndexed engine proxy value key name) {arguments : List Script.Value}
    (inUse : ∀ cell ∈ proxy :: arguments.flatMap Script.Value.cells, cell ∈ world.held)
    (reached : ∀ cell ∈ value.cells, cell ∈ world.held) :
    (callProxy calls engine proxy arguments).outcome world =
      (invokeMember calls engine proxy name arguments).outcome world := by
  have named := outcome_defaultMember? indexed
  unfold callProxy
  refine outcome_scope_of_eq ?_
  rw [outcome_bind_of_ok (outcome_holdCells_of_mem inUse),
    outcome_bind_of_ok (outcome_target leads reached),
    outcome_bind_of_ok (outcome_offerCall leads arguments)]
  dsimp only
  unfold callStatic
  rw [outcome_bind_of_ok (outcome_subjectOf_of_leads leads reached)]
  cases value with
  | delegate delegate =>
    obtain ⟨slot, offered, -⟩ := indexed.shown
    rw [indexed.memberless delegate rfl] at offered
    cases offered
  | _ => exact (outcome_bind_of_ok named).trans rfl

/-- Assigning through a call of the instance assigns through a call of that name. -/
theorem outcome_assignProxy (leads : world.LeadsTo proxy value key)
    (indexed : world.IsIndexed engine proxy value key name) {keys : List Script.Value}
    {assigned : Script.Value}
    (inUse : ∀ cell ∈ proxy :: assigned.cells ++ keys.flatMap Script.Value.cells,
      cell ∈ world.held)
    (reached : ∀ cell ∈ value.cells, cell ∈ world.held) :
    (assignProxy calls engine proxy keys assigned).outcome world =
      (assignMember calls engine proxy name keys assigned).outcome world := by
  unfold assignProxy
  refine outcome_scope_of_eq ?_
  rw [outcome_bind_of_ok (outcome_holdCells_of_mem inUse),
    outcome_bind_of_ok (outcome_subjectOf_of_leads leads reached)]
  exact (outcome_bind_of_ok (outcome_defaultMember? indexed)).trans rfl

/-- Calling what the name reads as calls the name. -/
theorem outcome_callValue_member {handle : CellId} {member : BoundMember}
    (names : world.store.member handle = member) (callable : member.kind = .indexer)
    {arguments : List Script.Value}
    (inUse : ∀ cell ∈ handle :: arguments.flatMap Script.Value.cells, cell ∈ world.held) :
    (callValue calls engine (.member handle) arguments).outcome world =
      (invokeMember calls engine member.proxy member.name arguments).outcome world := by
  unfold callValue
  refine outcome_scope_of_eq ((outcome_bind_of_ok (outcome_holdCells_of_mem inUse)).trans ?_)
  dsimp only
  rw [outcome_bind_of_ok (outcome_readStore _ _), names]
  unfold callBound
  rw [callable]
  rfl

/-- Assigning through it assigns through a call of the name. -/
theorem outcome_assignThrough_member {handle : CellId} {member : BoundMember}
    (names : world.store.member handle = member) (callable : member.kind = .indexer)
    {keys : List Script.Value} {assigned : Script.Value} (inUse : handle ∈ world.held) :
    (Binding.assignThrough calls engine (.member handle) keys assigned).outcome world =
      (assignMember calls engine member.proxy member.name keys assigned).outcome world := by
  have handled : ∀ cell ∈ [handle], cell ∈ world.held := by
    rintro cell is
    rwa [List.mem_singleton.mp is]
  unfold Binding.assignThrough
  refine outcome_scope_of_eq ((outcome_bind_of_ok (outcome_holdCells_of_mem handled)).trans ?_)
  dsimp only
  rw [outcome_bind_of_ok (outcome_readStore _ _), names, callable]
  rfl

/-! ### Names that read as values -/

/-- Reading a name of an instance that no capability is asked about looks at the proxy and reads
the first member of the name. -/
theorem outcome_getMember (leads : world.LeadsTo proxy value key) (inUse : proxy ∈ world.held)
    (reached : ∀ cell ∈ value.cells, cell ∈ world.held) {slot : Slot} {rest : List Slot}
    (found : ((sceneIn world engine proxy (.member value key)).lookup name).visible = slot :: rest) :
    (getMember calls engine proxy name).outcome world =
      (readSlot calls engine (sceneIn world engine proxy (.member value key)) slot).outcome
        { world with
          history :=
            .looked (sceneIn world engine proxy (.member value key)) :: world.history } := by
  have handled : ∀ cell ∈ [proxy], cell ∈ world.held := by
    rintro cell is
    rwa [List.mem_singleton.mp is]
  have looked := outcome_look_of_leads leads engine
  rw [World.holding_eq_self reached] at looked
  unfold getMember getStatic readSlot
  rw [outcome_scope, outcome_bind_of_ok (outcome_holdCells_of_mem handled),
    outcome_bind_of_ok (outcome_target leads reached),
    outcome_bind_of_ok (outcome_offerGet leads name)]
  dsimp only
  rw [outcome_bind_of_ok looked]
  dsimp only
  rw [found]
  rfl

/-- What starts with a look and a reading of the member starts with reading the name. -/
theorem outcome_look_bind_of_read (leads : world.LeadsTo proxy value key)
    (reached : ∀ cell ∈ value.cells, cell ∈ world.held) {slot : Slot} {rest : List Slot}
    (found : ((sceneIn world engine proxy (.member value key)).lookup name).visible = slot :: rest)
    {Result : Type} {cells : List CellId} (inUse : ∀ cell ∈ proxy :: cells, cell ∈ world.held)
    {next : Scene → ScriptRun Result} {goal : Script.Value → ScriptRun Result}
    (same : next (sceneIn world engine proxy (.member value key)) = do
      goal (← held (readSlot calls engine (sceneIn world engine proxy (.member value key)) slot))) :
    (scope (do holdCells (proxy :: cells); next (← look engine proxy))).outcome world =
      (scope (do goal (← held (getMember calls engine proxy name)))).outcome world := by
  have looked := outcome_look_of_leads leads engine
  rw [World.holding_eq_self reached] at looked
  have reads : (getMember calls engine proxy name).outcome world = _ :=
    outcome_getMember leads (inUse proxy List.mem_cons_self) reached found
  refine outcome_scope_congr ?_
  rw [outcome_bind_of_ok (outcome_holdCells_of_mem inUse), outcome_bind_of_ok looked, same]
  exact (outcome_bind_of_eq (outcome_bind_of_eq reads hold) goal).symm

/-- Calling a name that reads as a value, with arguments, calls the value. -/
theorem outcome_invokeMember_of_data (leads : world.LeadsTo proxy value key)
    (reached : ∀ cell ∈ value.cells, cell ∈ world.held) {slot : Slot} {rest : List Slot}
    (found : ((sceneIn world engine proxy (.member value key)).lookup name).visible = slot :: rest)
    (data : slot.declaration.isData = true) {arguments : List Script.Value}
    (given : arguments.isEmpty = false)
    (inUse : ∀ cell ∈ proxy :: arguments.flatMap Script.Value.cells, cell ∈ world.held) :
    (invokeMember calls engine proxy name arguments).outcome world =
      (scope (do
        let answer ← held (getMember calls engine proxy name)
        calls.callValue engine answer arguments)).outcome world := by
  refine outcome_look_bind_of_read leads reached found inUse ?_
  unfold invokeFound
  rw [found]
  dsimp only
  rcases Member.kind_of_isData data with kind | kind <;>
    · rw [kind, given]
      rfl

/-- Assigning through a call of a name that reads as a value, with keys, assigns through the
value. -/
theorem outcome_assignMember_of_data (leads : world.LeadsTo proxy value key)
    (reached : ∀ cell ∈ value.cells, cell ∈ world.held) {slot : Slot} {rest : List Slot}
    (found : ((sceneIn world engine proxy (.member value key)).lookup name).visible = slot :: rest)
    (data : slot.declaration.isData = true) {keys : List Script.Value} {assigned : Script.Value}
    (given : keys.isEmpty = false)
    (inUse : ∀ cell ∈ proxy :: assigned.cells ++ keys.flatMap Script.Value.cells,
      cell ∈ world.held) :
    (assignMember calls engine proxy name keys assigned).outcome world =
      (scope (do
        let answer ← held (getMember calls engine proxy name)
        calls.assignThrough engine answer keys assigned)).outcome world := by
  refine outcome_look_bind_of_read leads reached found inUse ?_
  unfold assignFound
  dsimp only
  rw [found]
  dsimp only
  rcases Member.kind_of_isData data with kind | kind <;>
    · rw [kind, given]
      rfl

end Binding

/-! ### The name of the indexers as a value -/

/-- A cell keeps what it holds when another is made, or is the one that is made. -/
theorem Store.get?_create_cases (store : Store) (made : Cell) (cell : CellId) :
    (store.create made).1.get? cell = store.get? cell ∨
      (store.create made).1.get? cell = some made ∧ store.get? cell = none := by
  rcases Nat.lt_trichotomy cell store.cells.size with inside | rfl | beyond
  · exact .inl (get?_create_of_lt inside)
  · exact .inr ⟨get?_create_size _ _, get?_of_size_le (Nat.le_refl _)⟩
  · rw [get?_of_size_le (by rwa [size_create]), get?_of_size_le (Nat.le_of_lt beyond)]
    exact .inl rfl

namespace World

/-- The world after a name was read as a bound member. -/
def binding (world : World) (member : BoundMember) (scene : Scene) : World :=
  { (world.create (.member member)).1 with history := .looked scene :: world.history }

variable {member : BoundMember} {scene : Scene}

theorem get?_binding (cell : CellId) :
    (world.binding member scene).store.get? cell = world.store.get? cell ∨
      (world.binding member scene).store.get? cell = some (.member member) ∧
        world.store.get? cell = none :=
  world.store.get?_create_cases (.member member) cell

theorem store_binding_proxy (cell : CellId) :
    (world.binding member scene).store.proxy cell = world.store.proxy cell := by
  unfold Store.proxy
  rcases get?_binding cell with same | ⟨made, missing⟩
  · rw [same]
  · rw [made, missing]

theorem engine_binding (engine : EngineId) :
    (world.binding member scene).engine engine = world.engine engine := rfl

theorem targetOf_binding (reached : world.targetOf proxy = .ok value) :
    (world.binding member scene).targetOf proxy = .ok value := by
  have lives {cell : CellId} (living : world.store.isLive cell = true) :
      (world.binding member scene).store.isLive cell = true := Store.isLive_create living
  unfold targetOf at reached ⊢
  rw [store_binding_proxy]
  dsimp only at reached ⊢
  rw [engine_binding]
  split at reached
  · cases reached
  · next serving =>
    rw [if_neg serving]
    cases target : (world.store.proxy proxy).target with
    | reference stands =>
      rw [target] at reached
      dsimp only at reached ⊢
      cases identity : stands.identity? with
      | none =>
        rw [identity] at reached
        exact reached
      | some cell =>
        rw [identity] at reached
        dsimp only at reached ⊢
        split at reached
        · next living => rw [if_pos (lives living), reached]
        · cases reached
    | boxed stands | type stands =>
      rw [target] at reached
      exact reached

theorem typeOf_binding (typed : world.store.typeOf value = .named key) :
    (world.binding member scene).store.typeOf value = .named key := by
  rw [← typed]
  cases value with
  | object cell =>
    refine congrArg TypeRef.named ?_
    unfold Store.objectType
    rcases get?_binding cell with same | ⟨made, missing⟩
    · rw [same]
    · rw [made, missing]
  | delegate cell =>
    refine congrArg TypeRef.named ?_
    unfold Store.delegateType
    rcases get?_binding cell with same | ⟨made, missing⟩
    · rw [same]
    · rw [made, missing]
  | array cell | box cell => cases typed
  | _ => rfl

theorem dynamicIn?_binding (proxy : CellId) (value : Host.Value) :
    dynamicIn? (world.binding member scene).store proxy value =
      dynamicIn? world.store proxy value := by
  have proxied : (world.binding member scene).store.proxy? proxy = world.store.proxy? proxy := by
    unfold Store.proxy?
    rcases get?_binding proxy with same | ⟨made, missing⟩
    · rw [same]
    · rw [made, missing]
  have objects (cell : CellId) :
      (world.binding member scene).store.object? cell = world.store.object? cell := by
    unfold Store.object?
    rcases get?_binding cell with same | ⟨made, missing⟩
    · rw [same]
    · rw [made, missing]
  unfold dynamicIn?
  simp only [proxied, objects]

theorem member_binding :
    (world.binding member scene).store.member world.store.cells.size = member := by
  have found : (world.binding member scene).store.get? world.store.cells.size =
      some (.member member) := Store.get?_create_size _ _
  unfold Store.member
  rw [found]

/-- The proxy leads where it led. -/
theorem LeadsTo.binding (leads : world.LeadsTo proxy value key) :
    (world.binding member scene).LeadsTo proxy value key where
  target := targetOf_binding leads.target
  typed := typeOf_binding leads.typed
  unasked := (dynamicIn?_binding proxy value).trans leads.unasked

theorem sceneIn_binding (engine : EngineId) (proxy : CellId) (subject : Subject) :
    sceneIn (world.binding member scene) engine proxy subject =
      sceneIn world engine proxy subject := by
  unfold sceneIn
  rw [store_binding_proxy]
  rfl

theorem IsIndexed.binding (indexed : world.IsIndexed engine proxy value key name) :
    (world.binding member scene).IsIndexed engine proxy value key name := by
  obtain ⟨undeclared, named, shown, memberless⟩ := indexed
  rw [← sceneIn_binding engine proxy (.member value key)] at named shown memberless
  exact ⟨undeclared, named, shown, memberless⟩

end World

namespace Binding

/-- Reading the name of the indexers gives a handle of that name. -/
theorem outcome_getMember_of_indexed (leads : world.LeadsTo proxy value key)
    (indexed : world.IsIndexed engine proxy value key name) (inUse : proxy ∈ world.held)
    (reached : ∀ cell ∈ value.cells, cell ∈ world.held) :
    (getMember calls engine proxy name).outcome world =
      (.ok (.member world.store.cells.size),
        world.binding ⟨proxy, name, .indexer⟩ (sceneIn world engine proxy (.member value key))) := by
  obtain ⟨first, rest, found, isIndexer, named⟩ := lookup_of_indexed indexed
  rw [outcome_getMember leads inUse reached found]
  unfold readSlot
  dsimp only
  rw [isIndexer, named]
  rfl

/-! ### Proxies that lead nowhere -/

/-- A run in a scope fails where it starts with what fails. -/
theorem outcome_scope_of_error {First Result : Type} {cells : List CellId}
    {first : ScriptRun First} {next : First → ScriptRun Result} {error : ScriptError}
    (fails : first.outcome (world.holding cells) = (.error (.raised error), world.holding cells)) :
    (scope (do holdCells cells; next (← first))).outcome world =
      (.error (.raised error), world) := by
  rw [outcome_scope, outcome_bind_of_ok (outcome_holdCells _ _), outcome_bind_of_error fails]
  rfl

section

variable {error : ScriptError} (lost : world.targetOf proxy = .error error)
include lost

theorem outcome_target_of_error :
    (target proxy).outcome world = (.error (.raised error), world) := by
  unfold target
  rw [outcome_bind_of_ok (outcome_observe _ _), lost]
  rfl

theorem outcome_subjectOf_of_error :
    (subjectOf proxy).outcome world = (.error (.raised error), world) := by
  rw [outcome_subjectOf, lost]

theorem outcome_look_of_error :
    (look engine proxy).outcome world = (.error (.raised error), world) := by
  rw [outcome_look, lost]

theorem outcome_invokeMember_of_error (arguments : List Script.Value) :
    (invokeMember calls engine proxy name arguments).outcome world =
      (.error (.raised error), world) :=
  outcome_scope_of_error (outcome_look_of_error lost)

theorem outcome_assignMember_of_error (keys : List Script.Value) (assigned : Script.Value) :
    (assignMember calls engine proxy name keys assigned).outcome world =
      (.error (.raised error), world) :=
  outcome_scope_of_error (outcome_look_of_error lost)

theorem outcome_invoke_of_error (arguments : List Script.Value) :
    (Binding.invoke calls engine proxy name arguments).outcome world =
      (.error (.raised error), world) :=
  outcome_scope_of_error (outcome_target_of_error lost)

theorem outcome_callProxy_of_error (arguments : List Script.Value) :
    (callProxy calls engine proxy arguments).outcome world = (.error (.raised error), world) :=
  outcome_scope_of_error (outcome_target_of_error lost)

theorem outcome_assignProxy_of_error (keys : List Script.Value) (assigned : Script.Value) :
    (assignProxy calls engine proxy keys assigned).outcome world =
      (.error (.raised error), world) :=
  outcome_scope_of_error (outcome_subjectOf_of_error lost)

end

end Binding

/-! ### The forms of a call -/

namespace Operation

/-- The ways to read at keys: to call the object, the name of its indexers, what that name reads as,
and the getter of that. -/
def readForms (proxy : CellId) (name : String) (handle : CellId) (keys : List Script.Value) :
    List Operation := [
  .invoke proxy keys,
  .invokeMember proxy name keys,
  .call (.member handle) keys,
  .callBound ⟨proxy, name, .indexerGet⟩ keys,
  .invokeBound ⟨proxy, name, .indexer⟩ "get" keys]

/-- The ways to write at keys: to assign through these calls, and to call the setter. -/
def writeForms (proxy : CellId) (name : String) (handle : CellId) (keys : List Script.Value)
    (assigned : Script.Value) : List Operation := [
  .setInvoke proxy keys assigned,
  .setInvokeMember proxy name keys assigned,
  .assignThrough (.member handle) keys assigned,
  .callBound ⟨proxy, name, .indexerSet⟩ (keys ++ [assigned]),
  .invokeBound ⟨proxy, name, .indexer⟩ "set" (keys ++ [assigned])]

variable {handle : CellId} {keys : List Script.Value} {assigned : Script.Value}

/-- Every way to read calls the name, or comes to what calling it does. -/
theorem outcome_of_mem_readForms {outcome : Except (Halt ScriptError) Script.Value × World}
    (names : world.store.member handle = ⟨proxy, name, .indexer⟩)
    (inUse : ∀ cell ∈ handle :: keys.flatMap Script.Value.cells, cell ∈ world.held)
    (called : (Binding.invokeMember calls engine proxy name keys).outcome world = outcome)
    (invoked : (Binding.invoke calls engine proxy name keys).outcome world = outcome)
    (reached : (callProxy calls engine proxy keys).outcome world = outcome) :
    ∀ form ∈ readForms proxy name handle keys, (form.run calls engine).outcome world = outcome := by
  intro form member
  unfold readForms at member
  simp only [List.mem_cons, List.not_mem_nil, or_false] at member
  rcases member with rfl | rfl | rfl | rfl | rfl
  · exact reached
  · exact invoked
  · exact (outcome_callValue_member names rfl inUse).trans called
  · exact called
  · exact called

/-- What follows an assignment tells nothing but whether it failed. -/
theorem outcome_answering {run : ScriptRun Unit} {outcome : Except (Halt ScriptError) Unit × World}
    (ran : run.outcome world = outcome) :
    (do run; return .undefined : ScriptRun Script.Value).outcome world =
      (outcome.1.map fun _ => .undefined, outcome.2) := by
  rw [outcome_bind, ran]
  rcases outcome with ⟨_ | _, after⟩ <;> rfl

/-- Every way to write assigns through a call of the name, or comes to what that does. -/
theorem outcome_of_mem_writeForms {outcome : Except (Halt ScriptError) Unit × World}
    (names : world.store.member handle = ⟨proxy, name, .indexer⟩) (inUse : handle ∈ world.held)
    (called : (assignMember calls engine proxy name keys assigned).outcome world = outcome)
    (reached : (assignProxy calls engine proxy keys assigned).outcome world = outcome) :
    ∀ form ∈ writeForms proxy name handle keys assigned,
      (form.run calls engine).outcome world =
        (outcome.1.map fun _ => .undefined, outcome.2) := by
  have setter : Binding.callBound calls engine ⟨proxy, name, .indexerSet⟩ (keys ++ [assigned]) =
      (do assignMember calls engine proxy name keys assigned; return Script.Value.undefined) := by
    unfold Binding.callBound
    dsimp only
    rw [List.getLast?_concat, List.dropLast_concat]
  intro form member
  unfold writeForms at member
  simp only [List.mem_cons, List.not_mem_nil, or_false] at member
  rcases member with rfl | rfl | rfl | rfl | rfl
  · exact outcome_answering reached
  · exact outcome_answering called
  · exact outcome_answering ((outcome_assignThrough_member names rfl inUse).trans called)
  · exact (congrArg (Run.outcome · world) setter).trans (outcome_answering called)
  · exact (congrArg (Run.outcome · world) setter).trans (outcome_answering called)

end Operation

/-- The ways to put a call agree, for one proxy, keys and a value to assign, while cells are in
use. -/
structure World.CallsAlike (world : World) (calls : Calls) (engine : EngineId) (proxy : CellId)
    (keys : List Script.Value) (assigned : Script.Value) (cells : List CellId) : Prop where
  /-- Where the proxy leads nowhere, all fail with the error of that. -/
  lost : ∀ {name handle error}, handle ∈ cells →
    world.store.member handle = ⟨proxy, name, .indexer⟩ → world.targetOf proxy = .error error →
      ∀ form ∈ Operation.readForms proxy name handle keys ++
          Operation.writeForms proxy name handle keys assigned,
        (keeping cells (form.run calls engine)).outcome world = (.error (.raised error), world)
  /-- The name of the indexers reads as a handle of theirs, which changes nothing else. -/
  named : ∀ {value key name}, world.LeadsTo proxy value key → (∀ cell ∈ value.cells, cell ∈ cells) →
    world.IsIndexed engine proxy value key name →
      ∃ handle after,
        (keeping cells ((Operation.get proxy name).run calls engine)).outcome world =
            (.ok (.member handle), after) ∧
          after.store.member handle = ⟨proxy, name, .indexer⟩ ∧
          after.LeadsTo proxy value key ∧ after.IsIndexed engine proxy value key name
  /-- Every way to read at keys reads through the indexer that fits the keys. -/
  reads : ∀ {value key name handle}, world.LeadsTo proxy value key →
    (∀ cell ∈ value.cells, cell ∈ cells) → world.IsIndexed engine proxy value key name →
      handle ∈ cells → world.store.member handle = ⟨proxy, name, .indexer⟩ →
        ∀ form ∈ Operation.readForms proxy name handle keys,
          (keeping cells (form.run calls engine)).outcome world =
            (keeping cells (readAt calls engine proxy name keys)).outcome world
  /-- Every way to write at keys writes through the indexer that fits the keys. -/
  writes : ∀ {value key name handle}, world.LeadsTo proxy value key →
    (∀ cell ∈ value.cells, cell ∈ cells) → world.IsIndexed engine proxy value key name →
      handle ∈ cells → world.store.member handle = ⟨proxy, name, .indexer⟩ →
        ∀ form ∈ Operation.writeForms proxy name handle keys assigned,
          (keeping cells (form.run calls engine)).outcome world =
            (keeping cells (do
              writeAt calls engine proxy name keys assigned
              return Script.Value.undefined)).outcome world
  /-- A call, with keys, of a name that reads as a value calls the value. -/
  onward : ∀ {value key name slot rest}, world.LeadsTo proxy value key →
    (∀ cell ∈ value.cells, cell ∈ cells) →
      ((sceneIn world engine proxy (.member value key)).lookup name).visible = slot :: rest →
        slot.declaration.isData = true → keys ≠ [] →
          (keeping cells ((Operation.invokeMember proxy name keys).run calls engine)).outcome world =
            (keeping cells (do
              let answer ← Run.held ((Operation.get proxy name).run calls engine)
              calls.callValue engine answer keys)).outcome world
  /-- An assignment through such a call assigns through the value. -/
  assignsOnward : ∀ {value key name slot rest}, world.LeadsTo proxy value key →
    (∀ cell ∈ value.cells, cell ∈ cells) →
      ((sceneIn world engine proxy (.member value key)).lookup name).visible = slot :: rest →
        slot.declaration.isData = true → keys ≠ [] →
          (keeping cells
              ((Operation.setInvokeMember proxy name keys assigned).run calls engine)).outcome world =
            (keeping cells (do
              let answer ← Run.held ((Operation.get proxy name).run calls engine)
              calls.assignThrough engine answer keys assigned
              return Script.Value.undefined)).outcome world

theorem World.LeadsTo.holding (leads : world.LeadsTo proxy value key) (cells : List CellId) :
    (world.holding cells).LeadsTo proxy value key :=
  ⟨leads.target, leads.typed, leads.unasked⟩

theorem World.IsIndexed.holding (indexed : world.IsIndexed engine proxy value key name)
    (cells : List CellId) : (world.holding cells).IsIndexed engine proxy value key name :=
  ⟨indexed.undeclared, indexed.named, indexed.shown, indexed.memberless⟩

/-- However a call is put, whatever it starts and in whichever world, it comes to the same, while
the cells that it needs are in use. -/
theorem calls_alike (calls : Calls) (engine : EngineId) (world : World) (proxy : CellId)
    (keys : List Script.Value) (assigned : Script.Value) (cells : List CellId)
    (needed : ∀ cell ∈ proxy :: assigned.cells ++ keys.flatMap Script.Value.cells, cell ∈ cells) :
    world.CallsAlike calls engine proxy keys assigned cells := by
  have inUse {part : List CellId} (some : ∀ cell ∈ part, cell ∈ cells) :
      ∀ cell ∈ part, cell ∈ (world.holding cells).held := fun cell member =>
    World.mem_held_holding.mpr (.inl (some cell member))
  have keyed : ∀ cell ∈ keys.flatMap Script.Value.cells, cell ∈ cells := fun cell member =>
    needed cell (List.mem_append_right _ member)
  have writing := inUse needed
  have reading := inUse (List.forall_mem_cons.mpr ⟨needed proxy List.mem_cons_self, keyed⟩)
  have calling {handle : CellId} (among : handle ∈ cells) :=
    inUse (List.forall_mem_cons.mpr ⟨among, keyed⟩)
  have handles {handle : CellId} {member : BoundMember}
      (names : world.store.member handle = member) :
      (world.holding cells).store.member handle = member := names
  constructor
  case lost =>
    intro name handle error among names lost form member
    have lost : (world.holding cells).targetOf proxy = .error error := lost
    have fails : (form.run calls engine).outcome (world.holding cells) =
        (.error (.raised error), world.holding cells) := by
      rcases List.mem_append.mp member with read | write
      · exact Operation.outcome_of_mem_readForms (handles names) (calling among)
          (outcome_invokeMember_of_error lost keys) (outcome_invoke_of_error lost keys)
          (outcome_callProxy_of_error lost keys) form read
      · exact Operation.outcome_of_mem_writeForms (handles names)
          (calling among handle List.mem_cons_self)
          (outcome_assignMember_of_error lost keys assigned)
          (outcome_assignProxy_of_error lost keys assigned) form write
    rw [outcome_keeping, fails]
    rfl
  case named =>
    intro value key name leads reached indexed
    have reads : (getMember calls engine proxy name).outcome (world.holding cells) = _ :=
      outcome_getMember_of_indexed (leads.holding cells) (indexed.holding cells)
        (reading proxy List.mem_cons_self) (inUse reached)
    refine ⟨world.store.cells.size,
      world.binding ⟨proxy, name, .indexer⟩ (sceneIn world engine proxy (.member value key)), ?_,
      World.member_binding, leads.binding, indexed.binding⟩
    unfold Operation.run
    rw [outcome_keeping, reads]
    rfl
  case reads =>
    intro value key name handle leads reached indexed among names form member
    have leads := leads.holding cells
    have indexed := indexed.holding cells
    have called : (invokeMember calls engine proxy name keys).outcome (world.holding cells) = _ :=
      outcome_invokeMember leads indexed reading
    exact outcome_keeping_of_eq (Operation.outcome_of_mem_readForms (handles names) (calling among)
      called ((outcome_invoke leads reading (inUse reached)).trans called)
      ((outcome_callProxy leads indexed reading (inUse reached)).trans called) form member)
  case writes =>
    intro value key name handle leads reached indexed among names form member
    have leads := leads.holding cells
    have indexed := indexed.holding cells
    have called : (assignMember calls engine proxy name keys assigned).outcome
        (world.holding cells) = _ := outcome_assignMember leads indexed writing
    refine outcome_keeping_of_eq ((Operation.outcome_of_mem_writeForms (handles names)
      (calling among handle List.mem_cons_self) called
      ((outcome_assignProxy leads indexed writing (inUse reached)).trans called) form
      member).trans ?_)
    exact (Operation.outcome_answering rfl).symm
  case onward =>
    intro value key name slot rest leads reached found data given
    have leads := leads.holding cells
    refine outcome_keeping_scope ((outcome_invoke leads reading (inUse reached)).trans ?_)
    exact outcome_invokeMember_of_data leads (inUse reached) found data
      (List.isEmpty_eq_false_iff.mpr given) reading
  case assignsOnward =>
    intro value key name slot rest leads reached found data given
    have leads := leads.holding cells
    have called : (assignMember calls engine proxy name keys assigned).outcome
        (world.holding cells) = _ :=
      outcome_assignMember_of_data leads (inUse reached) found data
        (List.isEmpty_eq_false_iff.mpr given) writing
    have rest : (do
        let answer ← Run.held (getMember calls engine proxy name)
        calls.assignThrough engine answer keys assigned
        return Script.Value.undefined : ScriptRun Script.Value) = do
        (do
          let answer ← Run.held (getMember calls engine proxy name)
          calls.assignThrough engine answer keys assigned)
        return Script.Value.undefined := (bind_assoc _ _ _).symm
    refine outcome_keeping_scope ((Operation.outcome_answering called).trans ?_)
    rw [← Operation.outcome_answering rfl, ← outcome_scope_bind_pure, ← rest]
    rfl

/-! ### An item and its indexer -/

namespace World

/-- An engine, an item with an indexer, a proxy of the item and a handle of its indexer. -/
def withHandle (access : Option Access) : World :=
  { withItem access with
    store := {
      types := (withItem access).store.types
      cells := #[
        some (.object { type := 1 }),
        some (.proxy ⟨0, .reference (.object 0), none, .none⟩),
        some (.member ⟨1, "Item", .indexer⟩)] } }

theorem withHandle_leadsTo (access : Option Access) :
    (withHandle access).LeadsTo 1 (.object 0) 1 where
  target := rfl
  typed := rfl
  unasked := by rcases access with _ | _ | _ | _ <;> decide +kernel

/-- Of the members that script sees, those of the name are the indexers. -/
theorem withHandle_named (access : Option Access) :
    ∀ slot ∈ (sceneIn (withHandle access) 0 1 (.member (.object 0) 1)).slots,
      (sceneIn (withHandle access) 0 1 (.member (.object 0) 1)).sight.sees slot = true →
        (slot.declaration.scriptName = "Item" ↔ slot.isKind .indexer = true) := by
  have named : (sceneIn (withHandle access) 0 1 (.member (.object 0) 1)).slots.all (fun slot =>
      decide (slot.declaration.scriptName = "Item" ↔ slot.isKind .indexer = true)) = true := by
    rcases access with _ | _ | _ | _ <;> decide +kernel
  exact fun slot offered _ => of_decide_eq_true (List.all_eq_true.mp named slot offered)

theorem withHandle_isIndexed : (withHandle none).IsIndexed 0 1 (.object 0) 1 "Item" where
  undeclared := by decide +kernel
  named := withHandle_named none
  shown := by
    have shown : (sceneIn (withHandle none) 0 1 (.member (.object 0) 1)).slots.any (fun slot =>
        (sceneIn (withHandle none) 0 1 (.member (.object 0) 1)).sight.sees slot &&
          slot.isKind .indexer) = true := by
      decide +kernel
    obtain ⟨slot, offered, both⟩ := List.any_eq_true.mp shown
    exact ⟨slot, offered, Bool.and_eq_true_iff.mp both⟩
  memberless := nofun

end World

/-- The name of the error that a run fails with. -/
def errorName? : Except (Halt ScriptError) Script.Value → Option String
  | .error (.raised error) => some error.name
  | _ => none

/-- Calling the item, and calling the handle, gives what its indexer keeps. -/
theorem calls_alike_of_item :
    let world := World.withHandle none
    let calls := Script.startWithin 3
    let called (form : Operation) := (keeping [0, 1, 2] (form.run calls 0)).outcome world
    called (.invoke 1 [.int 1]) = called (.call (.member 2) [.int 1]) ∧
      (called (.invoke 1 [.int 1])).1.toOption = some (.string "item") := by
  have alike := calls_alike (Script.startWithin 3) 0 (.withHandle none) 1 [.int 1] .null [0, 1, 2]
    (by decide)
  have handle : (World.withHandle none).store.member 2 = ⟨1, "Item", .indexer⟩ := rfl
  have reads := alike.reads (World.withHandle_leadsTo none) (by decide)
    World.withHandle_isIndexed (by decide) handle
  refine ⟨(reads _ ?_).trans (reads _ ?_).symm, ?_⟩
  · exact List.mem_cons_self
  · exact List.mem_cons_of_mem _ (List.mem_cons_of_mem _ List.mem_cons_self)
  · decide +kernel

/-- Where script sees no indexer, the members that it sees under the name are exactly the indexers
that it sees, none. Calling the item then fails because it has no default member, and calling the
name because there is no such member. -/
theorem calls_differ_without_indexers :
    let world := World.withHandle (some .hidden)
    let scene := sceneIn world 0 1 (.member (.object 0) 1)
    let called (form : Operation) := (form.run (Script.startWithin 3) 0).outcome world
    world.LeadsTo 1 (.object 0) 1 ∧ world.store.types.defaultMember? 1 = none ∧
      (∀ slot ∈ scene.slots, scene.sight.sees slot = true →
        (slot.declaration.scriptName = "Item" ↔ slot.isKind .indexer = true)) ∧
      errorName? (called (.invoke 1 [.int 1])).1 = some "NotSupported" ∧
      errorName? (called (.invokeMember 1 "Item" [.int 1])).1 = some "MissingMember" := by
  refine ⟨World.withHandle_leadsTo _, ?_, World.withHandle_named _, ?_, ?_⟩
  · decide +kernel
  · decide +kernel
  · decide +kernel

end ScriptBridge
