/-
This file takes every operation on a proxy in two worlds that differ in annotations only.
Up to the last look of an operation nothing has changed a cell; so where the proxy
finds in both worlds the same under the names that the operation looks for, it still
does then, and from there on the operation agrees, where what it starts does.
-/

import ScriptBridge.Proofs.AccessControl
import ScriptBridge.Proofs.Facing

namespace ScriptBridge

open Host Binding Bridge Run

/-! ### Related scenes -/

namespace Binding

instance : SceneRelation Scene.Alike where
  bare alike := alike.bare
  nothing bare value plain := by
    have offered := slots_of_plain plain
    have offeredTwin := slots_of_plain ((Scene.subject_of_bare bare).symm.trans plain)
    refine ⟨bare, plain ▸ nofun, by rw [offered, offeredTwin], fun slot member => ?_⟩
    rw [offered] at member
    cases member

instance (name : String) : SceneRelation (Scene.Finds · · name name) where
  bare finds := finds.bare
  nothing bare _ plain := Scene.finds_of_nothing bare plain name name

instance (name : String) : SceneRelation (Scene.FindsHosted · · name) where
  bare finds := finds.bare
  nothing bare _ plain :=
    ⟨Scene.finds_of_nothing bare plain name name, Scene.hosts_of_nothing plain name⟩

instance (keys : List Script.Value) : SceneRelation (Scene.KeysAlike keys) where
  bare alike := alike.indexers.bare
  nothing bare _ plain :=
    ⟨Scene.finds_of_nothing bare plain _ _, fun _ _ => Scene.finds_of_nothing bare plain _ _⟩

instance : SceneRelation Scene.CallsAlike where
  bare alike := alike.bare
  nothing bare _ plain :=
    ⟨bare, plain ▸ nofun, .inl ⟨callName?_of_plain plain,
      callName?_of_plain ((Scene.subject_of_bare bare).symm.trans plain)⟩⟩

/-! ### Operations -/

variable {free : Annotated} {cut : Prop} {calls twin : Calls} {proxy : CellId}
  (agree : calls.Agree free cut twin) (engine : EngineId)

include agree

theorem getMember_agreesFrom (name : String) :
    AgreesFrom free cut (World.Faces engine proxy (Scene.Finds · · name name)) Eq
      (getMember calls engine proxy name) (getMember twin engine proxy name) := by
  refine .inScope (.leaves_bind (target_agrees proxy) (target_leaves proxy) (target_leaves proxy)
    fun current => ?_)
  refine .offer (offerGet_agrees agree engine proxy current name)
    (offerGet_wanesFor engine proxy current name) (offerGet_wanesFor engine proxy current name)
    (.look fun finds => Agrees.agreesFrom ?_) fun value => .pure _
  rcases finds.first with ⟨left, right⟩ | ⟨first, _, firstTwin, _, left, right, pair⟩
  · rw [left, right, Scene.subject_of_bare finds.bare]
    exact readOther_agrees agree engine proxy _ name
  · rw [left, right]
    exact readSlot_agrees agree engine finds.bare pair.bare (scriptName_eq_of_first left right)

theorem setMember_agreesFrom (name : String) (value : Script.Value) :
    AgreesFrom free cut (World.Faces engine proxy (Scene.Finds · · name name)) Eq
      (setMember calls engine proxy name value) (setMember twin engine proxy name value) := by
  refine .inScope (.leaves_bind (target_agrees proxy) (target_leaves proxy) (target_leaves proxy)
    fun current => ?_)
  have wanes := offerSet_wanesFor engine proxy current name value
  refine .wanes_bind (offerSet_agrees engine proxy current name value) wanes wanes
    (fun taken refused => ?_) fun taken accepted => ?_
  · rw [refused]
    refine .look fun {scene sceneTwin} finds => Agrees.agreesFrom ?_
    have written := setSlot_agrees agree engine finds value
    rw [← Scene.subject_of_bare finds.bare]
    split
    · exact writeBox_agrees engine _ value
    · exact written
  · rw [eq_true_of_ne_false accepted]
    exact .pure _

/-- Keys are read alike where what they look for is found alike. -/
theorem getIndex_agreesFrom (keys : List Script.Value) :
    AgreesFrom free cut (World.Faces engine proxy (Scene.KeysAlike keys)) Eq
      (getIndex calls engine proxy keys) (getIndex twin engine proxy keys) := by
  refine .inScope (.leaves_bind (target_agrees proxy) (target_leaves proxy) (target_leaves proxy)
    fun current => ?_)
  refine .offer (offerGetIndex_agrees agree engine proxy current keys)
    (offerGetIndex_wanesFor engine proxy current keys)
    (offerGetIndex_wanesFor engine proxy current keys) (.look fun {scene sceneTwin} found => ?_)
    fun value => .pure _
  have indexed := readIndexer_agrees agree engine found.indexers keys
  rw [← Scene.subject_of_bare found.indexers.bare, ← found.indexers.isEmpty_ofKind]
  split
  · exact (readElement_agrees agree engine _ _).agreesFrom
  · split
    · exact indexed.agreesFrom
    · next nothing _ => exact .now (getMember_agreesFrom agree engine _) (found.named rfl nothing)
    · exact (Agrees.bind_same (.typeText _) fun _ => .raise _).agreesFrom

theorem setIndex_agreesFrom (keys : List Script.Value) (value : Script.Value) :
    AgreesFrom free cut (World.Faces engine proxy (Scene.KeysAlike keys)) Eq
      (setIndex calls engine proxy keys value) (setIndex twin engine proxy keys value) := by
  refine .inScope (.leaves_bind (target_agrees proxy) (target_leaves proxy) (target_leaves proxy)
    fun current => ?_)
  have wanes := offerSetIndex_wanesFor engine proxy current keys value
  refine .wanes_bind (offerSetIndex_agrees engine proxy current keys value) wanes wanes
    (fun taken refused => ?_) fun taken accepted => ?_
  · rw [refused]
    refine .look fun {scene sceneTwin} found => ?_
    have indexed := writeIndexer_agrees agree engine found.indexers keys value
    rw [← Scene.subject_of_bare found.indexers.bare, ← found.indexers.isEmpty_ofKind]
    split
    · exact (writeElement_agrees engine _ _ value).agreesFrom
    · split
      · exact indexed.agreesFrom
      · next nothing _ =>
        exact .now (setMember_agreesFrom agree engine _ value) (found.named rfl nothing)
      · exact (Agrees.bind_same (.typeText _) fun _ => .raise _).agreesFrom
  · rw [eq_true_of_ne_false accepted]
    exact .pure _

/-- A member that is called by name answers alike. -/
theorem invokeMember_agreesFrom (name : String) (arguments : List Script.Value) :
    AgreesFrom free cut (World.Faces engine proxy (Scene.FindsHosted · · name)) Eq
      (invokeMember calls engine proxy name arguments)
      (invokeMember twin engine proxy name arguments) :=
  .inScope (.look fun finds => (invokeFound_agrees agree engine finds arguments).agreesFrom)

theorem invoke_agreesFrom (name : String) (arguments : List Script.Value) :
    AgreesFrom free cut (World.Faces engine proxy (Scene.FindsHosted · · name)) Eq
      (Binding.invoke calls engine proxy name arguments)
      (Binding.invoke twin engine proxy name arguments) := by
  refine .inScope (.leaves_bind (target_agrees proxy) (target_leaves proxy) (target_leaves proxy)
    fun current => ?_)
  exact .offer (offerInvoke_agrees agree engine proxy current name arguments)
    (offerInvoke_wanesFor engine proxy current name arguments)
    (offerInvoke_wanesFor engine proxy current name arguments)
    (invokeMember_agreesFrom agree engine name arguments) fun value => .pure _

omit agree in
/-- What is constructed is a type, which such a proxy does not stand for. -/
theorem construct_agreesFrom (arguments : List Script.Value) :
    AgreesFrom free cut (World.Faces engine proxy Scene.Alike) Eq
      (construct calls engine proxy arguments) (construct twin engine proxy arguments) := by
  refine .inScope (.look fun {scene sceneTwin} alike => Agrees.agreesFrom ?_)
  dsimp only
  rw [← Scene.subject_of_bare alike.bare]
  cases subject : scene.subject with
  | statics type => exact absurd subject (alike.ofValue type)
  | member value key => exact .bind_same (.typeText _) fun _ => .raise _
  | plain value => exact .bind_same (.typeText _) fun _ => .raise _

/-- What calls look for answers alike. -/
theorem invokeMember_agreesNow {scene sceneTwin : Scene} {name nameTwin : String}
    (finds : scene.Finds sceneTwin name nameTwin)
    (same : (name = nameTwin ∧ scene.Hosts name) ∨
      ∃ first rest, (scene.lookup name).visible = first :: rest ∧
        first.declaration.kind = .indexer) {related : Scene → Scene → Prop}
    (arguments : List Script.Value) :
    AgreesFrom free cut (World.FacesNow engine proxy related scene sceneTwin) Eq
      (invokeMember calls engine proxy name arguments)
      (invokeMember twin engine proxy nameTwin arguments) := by
  rcases same with ⟨rfl, hosts⟩ | ⟨first, rest, found, indexer⟩
  · exact .now (invokeMember_agreesFrom agree engine name arguments) ⟨finds, hosts⟩
  · refine .inScopeOfSees (.look_of_sees ?_)
    exact invokeFound_agrees_of_indexer agree engine finds found indexer arguments

omit agree in
/-- What is done with a default member is done alike with the one that the other scene finds. -/
theorem defaultMember_agreesFrom (proxy : CellId) {scene sceneTwin : Scene}
    (alike : scene.CallsAlike sceneTwin) (current : Value) {Next : Type}
    {use useTwin : String → ScriptRun Next}
    (used : ∀ {name nameTwin}, scene.Finds sceneTwin name nameTwin →
      (name = nameTwin ∧ scene.Hosts name ∨
        ∃ first rest, (scene.lookup name).visible = first :: rest ∧
          first.declaration.kind = .indexer) →
      AgreesFrom free cut (World.FacesNow engine proxy Scene.CallsAlike scene sceneTwin) Eq
        (use name) (useTwin nameTwin)) :
    AgreesFrom free cut (World.FacesNow engine proxy Scene.CallsAlike scene sceneTwin) Eq
      (do
        match ← defaultMember? engine proxy scene.subject with
        | some name => use name
        | none => raise (.notSupported s!"{← typeText current} has no default member"))
      (do
        match ← defaultMember? engine proxy scene.subject with
        | some name => useTwin name
        | none => raise (.notSupported s!"{← typeText current} has no default member")) := by
  refine .callName ?_
  rcases alike.found with ⟨unnamed, unnamedTwin⟩ | ⟨name, nameTwin, named, namedTwin, finds, same⟩
  · rw [unnamed, unnamedTwin]
    exact (Agrees.bind_same (.typeText _) fun _ => .raise _).agreesFrom
  · rw [named, namedTwin]
    exact used finds same

/-- A call of a proxy answers alike where what it looks for is found alike. -/
theorem callProxy_agreesFrom (arguments : List Script.Value) :
    AgreesFrom free cut (World.Faces engine proxy Scene.CallsAlike) Eq
      (callProxy calls engine proxy arguments) (callProxy twin engine proxy arguments) := by
  refine .inScope (.leaves_bind (target_agrees proxy) (target_leaves proxy) (target_leaves proxy)
    fun current => ?_)
  refine .offer (offerCall_agrees agree engine proxy current arguments)
    (offerCall_wanesFor engine proxy current arguments)
    (offerCall_wanesFor engine proxy current arguments)
    (.subject fun {scene sceneTwin} alike => ?_) fun value => .pure _
  have defaults := defaultMember_agreesFrom engine proxy alike current fun finds same =>
    invokeMember_agreesNow agree engine finds same arguments
  have bare := alike.bare
  have ofValue := alike.ofValue
  cases subject : scene.subject with
  | statics type => exact absurd subject (ofValue type)
  | member value key =>
    rw [subject] at defaults
    cases value with
    | delegate cell => exact (callDelegate_agrees agree engine cell arguments).agreesFrom
    | _ => exact defaults
  | plain value =>
    have keys : Scene.KeysAlike arguments scene sceneTwin := SceneRelation.nothing bare subject
    have refused : IsBlind free cut (do
        raise (.notSupported s!"{← typeText value} is not callable") : ScriptRun Script.Value) :=
      .bind_same (.typeText _) fun _ => .raise _
    cases value with
    | array cell =>
      rcases arguments with - | ⟨key, - | ⟨other, rest⟩⟩
      · exact refused.agreesFrom
      · exact .now (getIndex_agreesFrom agree engine _) keys
      · exact refused.agreesFrom
    | _ => exact refused.agreesFrom

/-! ### Assignment through calls -/

theorem assignMember_agreesFrom (name : String) (keys : List Script.Value)
    (value : Script.Value) :
    AgreesFrom free cut (World.Faces engine proxy (Scene.FindsHosted · · name)) Eq
      (assignMember calls engine proxy name keys value)
      (assignMember twin engine proxy name keys value) := by
  refine .inScope (.look fun {scene sceneTwin} finds => ?_)
  unfold assignFound
  dsimp only
  rcases finds.first with ⟨left, right⟩ | ⟨first, _, firstTwin, _, left, right, pair⟩
  · rw [left, right]
    exact (Agrees.raise _).agreesFrom
  · have named := scriptName_eq_of_first left right
    rw [left, right]
    dsimp only
    rw [← Slot.kind_of_bare pair.bare]
    cases first.declaration.kind with
    | indexer => exact (writeIndexer_agrees agree engine finds.toFinds keys value).agreesFrom
    | field | property =>
      cases keys.isEmpty with
      | true => exact .now (setMember_agreesFrom agree engine name value) finds.toFinds
      | false =>
        refine (Agrees.bind_same
          (.held (readSlot_agrees agree engine finds.bare pair.bare named)) ?_).agreesFrom
        exact fun inner => agree.assignThrough engine inner keys value
    | method =>
      dsimp only
      rcases finds.getter with ⟨left, right⟩ | ⟨getter, getterTwin, left, right, pair⟩
      · rw [left, right]
        exact (Agrees.raise _).agreesFrom
      · have hosted := finds.hosted.of_mem_ofKind (List.mem_of_find?_eq_some left)
        rw [left, right]
        refine (Agrees.bind_same
          (.held (invokeSlot_agrees agree engine finds.bare pair.bare hosted {} [])) ?_).agreesFrom
        exact fun inner => agree.assignThrough engine inner keys value
    | event => exact (Agrees.raise _).agreesFrom
    | constructor => exact (Agrees.raise _).agreesFrom

/-- What assignments through calls look for is assigned through alike. -/
theorem assignMember_agreesNow {scene sceneTwin : Scene} {name nameTwin : String}
    (finds : scene.Finds sceneTwin name nameTwin)
    (same : (name = nameTwin ∧ scene.Hosts name) ∨
      ∃ first rest, (scene.lookup name).visible = first :: rest ∧
        first.declaration.kind = .indexer) {related : Scene → Scene → Prop}
    (keys : List Script.Value) (value : Script.Value) :
    AgreesFrom free cut (World.FacesNow engine proxy related scene sceneTwin) Eq
      (assignMember calls engine proxy name keys value)
      (assignMember twin engine proxy nameTwin keys value) := by
  rcases same with ⟨rfl, hosts⟩ | ⟨first, rest, found, indexer⟩
  · exact .now (assignMember_agreesFrom agree engine name keys value) ⟨finds, hosts⟩
  · refine .inScopeOfSees (.look_of_sees ?_)
    obtain ⟨other, others, foundTwin, pair⟩ := finds.first_of_cons found
    unfold assignFound
    dsimp only
    rw [found, foundTwin]
    dsimp only
    rw [← Slot.kind_of_bare pair.bare, indexer]
    exact writeIndexer_agrees agree engine finds keys value

/-- An assignment through a call of a proxy has the same effect where what it looks for is found
alike. -/
theorem assignProxy_agreesFrom (keys : List Script.Value) (value : Script.Value) :
    AgreesFrom free cut (World.Faces engine proxy Scene.CallsAlike) Eq
      (assignProxy calls engine proxy keys value) (assignProxy twin engine proxy keys value) := by
  refine .inScope (.subject fun {scene sceneTwin} alike => ?_)
  have bare := alike.bare
  have ofValue := alike.ofValue
  cases subject : scene.subject with
  | statics type => exact absurd subject (ofValue type)
  | member current key =>
    have named := defaultMember_agreesFrom engine proxy alike current fun finds same =>
      assignMember_agreesNow agree engine finds same keys value
    rw [subject] at named
    exact named
  | plain current =>
    have found : Scene.KeysAlike keys scene sceneTwin := SceneRelation.nothing bare subject
    cases current with
    | array cell => exact .now (setIndex_agreesFrom agree engine keys value) found
    | _ => exact (Agrees.raise _).agreesFrom

/-! ### Bound members -/

/-- A handler that is connected is attached alike, and answered with a connection. -/
theorem connect_agreesFrom (member : BoundMember) (arguments : List Script.Value) :
    AgreesFrom free cut
      (World.Faces engine member.proxy (Scene.FindsHosted · · member.name)) Eq
      (connect calls engine member arguments) (connect twin engine member arguments) := by
  refine .inScope (.look fun {scene sceneTwin} finds => Agrees.agreesFrom ?_)
  have found := finds.ofKind .event
  dsimp only
  rw [← Scene.subject_of_bare finds.bare]
  generalize (scene.lookup member.name).ofKind .event = events at found ⊢
  generalize (sceneTwin.lookup member.name).ofKind .event = eventsTwin at found ⊢
  cases found with
  | nil => exact .raise _
  | @cons slot other _ _ pair _ =>
    dsimp only
    rw [← Slot.implementation_of_bare pair.bare, ← Slot.type_of_bare pair.bare,
      ← Slot.implementationName_of_bare pair.bare]
    cases slot.implementation.implementation with
    | event =>
      refine .bind_same (handlerOf_agrees engine _ arguments) fun handler => ?_
      refine .bind_same (attach_agrees engine finds.bare pair.bare _ _ handler) fun _ => ?_
      refine .bind_same (.create _) fun connection => ?_
      exact toScript_agrees agree engine _ _
    | _ => exact .raise _

theorem callBound_agreesFrom (member : BoundMember) (arguments : List Script.Value) :
    AgreesFrom free cut
      (World.Faces engine member.proxy (Scene.FindsHosted · · member.name)) Eq
      (callBound calls engine member arguments) (callBound twin engine member arguments) := by
  have invoked : AgreesFrom free cut
      (World.Faces engine member.proxy (Scene.FindsHosted · · member.name)) Eq
      (invokeMember calls engine member.proxy member.name arguments)
      (invokeMember twin engine member.proxy member.name arguments) :=
    invokeMember_agreesFrom agree engine member.name arguments
  unfold callBound
  cases member.kind with
  | method | indexer | indexerGet => exact invoked
  | indexerSet =>
    dsimp only
    cases arguments.getLast? with
    | some value =>
      exact .andAnswer (assignMember_agreesFrom agree engine member.name _ value) _
    | none => exact (Agrees.raise _).agreesFrom
  | event => exact (Agrees.raise _).agreesFrom
  | eventConnect => exact connect_agreesFrom agree engine member arguments

theorem invokeBound_agreesFrom (member : BoundMember) (name : String)
    (arguments : List Script.Value) :
    AgreesFrom free cut
      (World.Faces engine member.proxy (Scene.FindsHosted · · member.name)) Eq
      (invokeBound calls engine member name arguments)
      (invokeBound twin engine member name arguments) := by
  unfold invokeBound
  cases BoundKind.inner? member.kind name with
  | some kind => exact callBound_agreesFrom agree engine { member with kind } arguments
  | none => exact (Agrees.raise _).agreesFrom

omit agree in
/-- A bound member that is called or assigned through leads to the proxy that it is bound to. -/
theorem member_agreesFrom {Result : Type} {cells : List CellId} {cell : CellId}
    {next nextTwin : BoundMember → ScriptRun Result}
    (goes : ∀ member, AgreesFrom free cut (World.Faces engine member.proxy Scene.Alike) Eq
      (next member) (nextTwin member)) :
    AgreesFrom free cut (fun left right =>
        World.Faces engine (left.store.member cell).proxy Scene.Alike left right) Eq
      (scope do
        holdCells cells
        next (← readStore (·.member cell)))
      (scope do
        holdCells cells
        nextTwin (← readStore (·.member cell))) := by
  refine .scope (.bind (fun _ left right =>
    World.Faces engine (left.store.member cell).proxy Scene.Alike left right)
    (Agrees.holdCells cells).agreesFrom (fun bare was ran ranTwin _ after => ?_) fun _ => ?_)
  · cases ran
    cases ranTwin
    exact was.wanes bare (.of_same rfl rfl) (.of_same rfl rfl) after
  · refine .bind (fun member => World.Faces engine member.proxy Scene.Alike)
      (Agrees.readStore fun _ => rfl).agreesFrom (fun _ was ran ranTwin _ _ => ?_)
      fun {member _} same => same ▸ goes member
    cases ran
    cases ranTwin
    exact was

end Binding

/-- The proxy that a value leads to. -/
def Script.Value.proxy? (store : Store) : Script.Value → Option CellId
  | .proxy cell => some cell
  | .member cell => some (store.member cell).proxy
  | _ => none

namespace Binding

variable {free : Annotated} {cut : Prop} {calls twin : Calls} {proxy : CellId}
  {left right : World} (agree : calls.Agree free cut twin) (engine : EngineId)
  (alike : left.Alike free right) (faces : World.Faces engine proxy Scene.Alike left right)

include agree alike faces

theorem callValue_agree {callee : Script.Value} (leads : callee.proxy? left.store = some proxy)
    (arguments : List Script.Value) :
    Agree free cut Eq ((callValue calls engine callee arguments).outcome left)
      ((callValue twin engine callee arguments).outcome right) := by
  cases callee with
  | proxy cell =>
    cases leads
    exact AgreesFrom.inScope (callProxy_agreesFrom agree engine arguments) alike
      (faces.mono Scene.Alike.callsAlike)
  | member cell =>
    cases leads
    refine member_agreesFrom engine (fun member => ?_) alike faces
    exact (callBound_agreesFrom agree engine member arguments).narrow fun _ _ was =>
      was.mono fun alike => alike.findsHosted _
  | _ => cases leads

theorem assignThrough_agree {callee : Script.Value} (leads : callee.proxy? left.store = some proxy)
    (keys : List Script.Value) (value : Script.Value) :
    Agree free cut Eq ((assignThrough calls engine callee keys value).outcome left)
      ((assignThrough twin engine callee keys value).outcome right) := by
  cases callee with
  | proxy cell =>
    cases leads
    exact AgreesFrom.inScope (assignProxy_agreesFrom agree engine keys value) alike
      (faces.mono Scene.Alike.callsAlike)
  | member cell =>
    cases leads
    refine member_agreesFrom engine (fun member => ?_) alike faces
    split
    · exact (assignMember_agreesFrom agree engine member.name keys value).narrow fun _ _ was =>
        was.mono fun alike => alike.findsHosted _
    · exact (Agrees.bind_same (.describe _) fun _ => .raise _).agreesFrom
  | _ => cases leads

end Binding

/-! ### All operations -/

/-- The proxy that an operation goes through. -/
def Operation.proxy? (store : Store) : Operation → Option CellId
  | .get proxy _ | .set proxy _ _ | .invokeMember proxy _ _ | .invoke proxy _ | .getIndex proxy _
  | .setIndex proxy _ _ | .setInvoke proxy _ _ | .setInvokeMember proxy _ _ _
  | .construct proxy _ => some proxy
  | .connect member _ | .callBound member _ | .invokeBound member _ _ => some member.proxy
  | .call callee _ | .assignThrough callee _ _ => callee.proxy? store

/-- Whatever goes through a proxy that shows the same in both worlds agrees, where what it starts
does. -/
theorem Operation.run_agree {free : Annotated} {cut : Prop} {calls twin : Calls} {proxy : CellId}
    {left right : World} (agree : calls.Agree free cut twin) (engine : EngineId)
    (alike : left.Alike free right) (faces : World.Faces engine proxy Scene.Alike left right)
    {operation : Operation} (through : operation.proxy? left.store = some proxy) :
    Agree free cut Eq ((operation.run calls engine).outcome left)
      ((operation.run twin engine).outcome right) := by
  have named (name : String) : World.Faces engine proxy (Scene.Finds · · name name) left right :=
    faces.mono fun alike => alike.finds name
  have hosted (name : String) : World.Faces engine proxy (Scene.FindsHosted · · name) left right :=
    faces.mono fun alike => alike.findsHosted name
  have keyed (keys : List Script.Value) :
      World.Faces engine proxy (Scene.KeysAlike keys) left right :=
    faces.mono fun alike => alike.keysAlike keys
  have called : World.Faces engine proxy Scene.CallsAlike left right :=
    faces.mono Scene.Alike.callsAlike
  cases operation with
  | get cell name =>
    cases through
    exact getMember_agreesFrom agree engine name alike (named name)
  | set cell name value =>
    cases through
    exact (setMember_agreesFrom agree engine name value).andAnswer _ alike (named name)
  | invokeMember cell name arguments =>
    cases through
    exact invoke_agreesFrom agree engine name arguments alike (hosted name)
  | invoke cell arguments =>
    cases through
    exact callProxy_agreesFrom agree engine arguments alike called
  | getIndex cell keys =>
    cases through
    exact getIndex_agreesFrom agree engine keys alike (keyed keys)
  | setIndex cell keys value =>
    cases through
    exact (setIndex_agreesFrom agree engine keys value).andAnswer _ alike (keyed keys)
  | setInvoke cell keys value =>
    cases through
    exact (assignProxy_agreesFrom agree engine keys value).andAnswer _ alike called
  | setInvokeMember cell name keys value =>
    cases through
    exact (assignMember_agreesFrom agree engine name keys value).andAnswer _ alike (hosted name)
  | construct cell arguments =>
    cases through
    exact construct_agreesFrom engine arguments alike faces
  | connect member arguments =>
    cases through
    exact connect_agreesFrom agree engine member arguments alike (hosted _)
  | callBound member arguments =>
    cases through
    exact callBound_agreesFrom agree engine member arguments alike (hosted _)
  | invokeBound member name arguments =>
    cases through
    exact invokeBound_agreesFrom agree engine member name arguments alike (hosted _)
  | call callee arguments => exact callValue_agree agree engine alike faces through arguments
  | assignThrough callee keys value =>
    exact (assignThrough_agree agree engine alike faces through keys value).bind
      fun _ _ same alike => .of_ok rfl alike

end ScriptBridge
