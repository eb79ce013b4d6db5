/-
This file follows what operations answer with: what members, indices, delegates,
constructors and helper functions give script. Whatever it is, it is a value marshaled
at last, or no proxy. So what holds of every proxy that values are marshaled as holds
of every one that an operation answers with, but for the two helpers that hand on a
proxy they are given.
-/

import ScriptBridge.Proofs.Answers
import ScriptBridge.Proofs.InvokeSteps

namespace ScriptBridge.Binding

open Host Bridge Run

variable {relation : World → World → Prop} [StepRelation relation] {sound : World → Prop}
  [Preserves relation sound] {calls : Calls} {engine : EngineId} {shown : World → CellId → Prop}

/-- What is known of every proxy that the engine is given, whatever is in use. -/
structure Marshals (relation : World → World → Prop) (sound : World → Prop) (calls : Calls)
    (engine : EngineId) (shown : World → CellId → Prop) : Prop where
  reach : calls.Reach relation
  unheld : ∀ (world : World) held cell, shown world cell → shown { world with held } cell
  values : ∀ value declared, (toScript calls engine value declared).Ends sound (Outermost shown)
  references : ∀ value declared, (proxyReference engine value declared .none).Ends sound shown
  boxes : ∀ value, (boxValue engine value .none).Ends sound shown

/-! ### Parts of operations -/

section

include relation

theorem bound_ends (proxy : CellId) (name : String) (kind : BoundKind) :
    (bound proxy name kind).Ends sound (Outermost shown) :=
  .bind (.create _ trivial rfl) fun _ => outermost_plain nofun

/-- What follows a look starts from what was seen. -/
theorem look_bind_ends {Next : Type} {holds : World → Next → Prop} (proxy : CellId)
    {next : Scene → ScriptRun Next}
    (second : ∀ scene, (next scene).Ends (fun world => sound world ∧ justLooked scene world.history)
      holds) : (look engine proxy >>= next).Ends sound holds := by
  intro world isSound result after ran
  obtain ⟨scene, between, looked, went⟩ := outcome_bind_eq_ok.mp ran
  have leaves : relation world ((look engine proxy).outcome world).2 := by
    have onward : Leaves relation (look engine proxy >>= pure) :=
      look_bind engine proxy fun _ => Leaves.reachesFrom (.pure _)
    rw [bind_pure] at onward
    exact onward world
  rw [looked] at leaves
  refine second scene between ⟨Preserves.preserves leaves isSound, ?_⟩ result after went
  rw [outcome_look] at looked
  split at looked
  · cases looked
    rfl
  · cases looked

/-- An offer that is not handled goes on to the members. -/
theorem offer_bind_ends {request : Request} {ask : CellId → ScriptRun (Option Script.Value)}
    {next : ScriptRun Script.Value} (proxy : CellId) (target : Value)
    (leaves : ∀ object, Leaves relation (ask object))
    (asked : ∀ object, (ask object).Ends sound fun world found =>
      ∀ value, found = some value → Outermost shown world value)
    (members : next.Ends sound (Outermost shown)) :
    (do
      match ← offer proxy target request none ask with
      | some value => return value
      | none => next : ScriptRun Script.Value).Ends sound (Outermost shown) := by
  have offered : (offer proxy target request none ask).Ends sound fun world found =>
      ∀ value, found = some value → Outermost shown world value := by
    refine .bind (dynamicOf?_reaches proxy target request) fun found => ?_
    cases found with
    | some object => exact asked object
    | none => exact .pure fun _ => nofun
  refine .bind_of_ends (offer_reaches proxy target _ _ leaves) offered fun found => ?_
  cases found with
  | some value =>
    intro world given result after ran
    cases ran
    exact given.2 value rfl
  | none => exact fun world given => members world given.1

theorem deleteName_ends (object name : Script.Value) :
    (deleteName engine object name).Ends sound (Outermost shown) := by
  unfold deleteName
  refine .bind (textArgument_leaves name) fun name => ?_
  split
  · refine .bind (.readStore _) fun properties => ?_
    exact .bind (.put _ _ (fun _ => nofun) (fun _ => rfl) fun _ => rfl) fun _ =>
      outermost_plain nofun
  · refine .bind (target_leaves _) fun current => .bind (dynamicOf?_reaches _ _ _) fun dynamic => ?_
    split
    · refine .bind (callHost_reaches engine (deleteDynamic_leaves _ _)) fun found => ?_
      split
      · exact outermost_plain nofun
      · exact .raise _
    · exact .raise _
  · exact .bind (.describe _) fun _ => .raise _

end

namespace Marshals

variable (marshals : Marshals relation sound calls engine shown)
include marshals

omit [StepRelation relation] [Preserves relation sound] in
theorem held {run : ScriptRun Script.Value} {sound : World → Prop}
    (ends : run.Ends sound (Outermost shown)) : (Run.held run).Ends sound (Outermost shown) :=
  ends.held fun world held _ fits cell same => marshals.unheld world held cell (fits cell same)

omit [StepRelation relation] [Preserves relation sound] in
theorem scope {run : ScriptRun Script.Value} {sound : World → Prop}
    (ends : run.Ends sound (Outermost shown)) : (Run.scope run).Ends sound (Outermost shown) :=
  ends.scope fun world held _ fits cell same => marshals.unheld world held cell (fits cell same)

theorem inScope {run : ScriptRun Script.Value} (cells : List CellId)
    (ends : run.Ends sound (Outermost shown)) :
    (Run.scope (do holdCells cells; run)).Ends sound (Outermost shown) :=
  marshals.scope (.bind (.holdCells cells) fun _ => ends)

/-! ### Members -/

theorem readData {scene : Scene} {slot : Slot} (shows : scene.Shows slot) :
    (Binding.readData calls engine scene slot).Ends
      (fun world => sound world ∧ justLooked scene world.history) (Outermost shown) := by
  unfold Binding.readData
  dsimp only
  split
  · next get _ offers =>
    have permitted : (MemberUse.mk scene slot (.read get)).IsPermitted :=
      shows.isPermitted rfl (by rw [offers]; rfl)
    exact .bind_of_reachesFrom
      (.held (readAccessor_reachesFrom marshals.reach engine permitted []))
      fun _ => marshals.values _ _
  · exact outermost_plain nofun
  · next place type fields offers _ =>
    have permitted : (MemberUse.mk scene slot (.readField place)).IsPermitted :=
      shows.isPermitted rfl (by rw [offers]; rfl)
    have used : (note (.used ⟨scene, slot, .readField place⟩) : ScriptRun Unit).ReachesFrom
        relation (justLooked scene) := .use permitted rfl (.pure ())
    exact .bind_of_reachesFrom used fun _ => marshals.values _ _
  · exact .changes_bind (.typeText _) fun _ => .raise _
  · exact .raise _

theorem readSlot {scene : Scene} {slot : Slot} (shows : scene.Shows slot) :
    (Binding.readSlot calls engine scene slot).Ends
      (fun world => sound world ∧ justLooked scene world.history) (Outermost shown) := by
  unfold Binding.readSlot
  refine marshals.scope ?_
  dsimp only
  split
  · exact .after (bound_ends _ _ _)
  · exact .after (bound_ends _ _ _)
  · exact .after (bound_ends _ _ _)
  · exact outermost_plain nofun
  · exact marshals.readData shows
  · exact marshals.readData shows

theorem readOther (proxy : CellId) (subject : Subject) (name : String) :
    (Binding.readOther calls engine proxy subject name).Ends sound (Outermost shown) := by
  have general : (if name == toStringName then bound proxy name .method else pure .undefined :
      ScriptRun Script.Value).Ends sound (Outermost shown) := by
    split
    · exact bound_ends _ _ _
    · exact outermost_plain nofun
  unfold Binding.readOther
  refine .bind (.readStore _) fun store => ?_
  dsimp only
  split
  · split
    · exact marshals.values _ _
    · exact marshals.values _ _
    · exact general
  · split
    · exact outermost_plain nofun
    · exact general
  · split
    · exact marshals.values _ _
    · exact general
  · exact general

theorem getStatic (proxy : CellId) (name : String) :
    (Binding.getStatic calls engine proxy name).Ends sound (Outermost shown) := by
  refine look_bind_ends proxy fun scene => ?_
  split
  · next slot rest found =>
    exact marshals.readSlot (shows_of_mem_lookup (found ▸ List.mem_cons_self))
  · exact .after (marshals.readOther proxy _ name)

/-! ### Offers -/

omit [StepRelation relation] [Preserves relation sound] in
/-- What an offer answers with, if it is handled. -/
theorem answer (found : Option Value) :
    (Binding.answer calls engine found).Ends sound fun world found =>
      ∀ value, found = some value → Outermost shown world value := by
  cases found with
  | none => exact .pure fun _ => nofun
  | some value =>
    refine (marshals.values value .object).map fun world given fits other same => ?_
    cases same
    exact fits

theorem askGet (name : String) (object : CellId) :
    (Binding.askGet calls engine name object).Ends sound fun world found =>
      ∀ value, found = some value → Outermost shown world value :=
  .bind (.held (callHost_reaches engine (readDynamic_leaves _ _ _))) fun _ => marshals.answer _

theorem askGetIndex (keys : List Script.Value) (object : CellId) :
    (Binding.askGetIndex calls engine keys object).Ends sound fun world found =>
      ∀ value, found = some value → Outermost shown world value := by
  unfold Binding.askGetIndex
  refine .bind (toHostValues_leaves engine keys) fun _ => .bind (keyText_leaves _) fun _ => ?_
  refine .bind (.held (callHost_reaches engine (readDynamic_leaves _ _ _))) fun _ => ?_
  exact marshals.answer _

/-- Whatever name is read on a proxy. -/
theorem getMember (proxy : CellId) (name : String) :
    (Binding.getMember calls engine proxy name).Ends sound (Outermost shown) :=
  marshals.inScope _ (.bind (target_leaves proxy) fun current =>
    offer_bind_ends proxy current (askGet_reaches marshals.reach engine name)
      (marshals.askGet name) (marshals.getStatic proxy name))

/-! ### Bodies -/

/-- Whatever the body of a member answers. -/
theorem runBody {scene : Scene} {slot : Slot} {body : Body} (shows : scene.Shows slot)
    (offers : slot.implementation.implementation = .invoke body) (prepared : Prepared) :
    (Binding.runBody calls engine scene slot body prepared).Ends
      (fun world => sound world ∧ justLooked scene world.history) (Outermost shown) := by
  have permitted : (MemberUse.mk scene slot (.call body)).IsPermitted :=
    shows.isPermitted rfl (by rw [offers]; rfl)
  refine .bind_of_reachesFrom (.held (callHost_reachesFrom engine
    (useBody_reachesFrom marshals.reach permitted rfl _ _))) fun answered => ?_
  obtain ⟨answer, left⟩ := answered
  refine .bind (writeBack_leaves prepared left) fun _ => ?_
  split
  · exact outermost_plain nofun
  · exact marshals.values _ _

/-- Whatever a delegate answers. -/
theorem callDelegate (delegate : CellId) (arguments : List Script.Value) :
    (Binding.callDelegate calls engine delegate arguments).Ends sound (Outermost shown) := by
  unfold Binding.callDelegate
  refine .bind .types fun table => .bind (.readStore _) fun key => ?_
  dsimp only
  split
  · exact .raise _
  · refine .bind (.settle (.grows (prepare_grows engine _ arguments))) fun settled => ?_
    split
    · exact .raise _
    · exact .raise _
    · refine .bind (.held (callHost_reaches engine (marshals.reach.invokeDelegate _ _)))
        fun answered => ?_
      obtain ⟨answer, left⟩ := answered
      refine .bind (writeBack_leaves _ left) fun _ => ?_
      split
      · exact outermost_plain nofun
      · exact marshals.values _ _

/-! ### Construction -/

theorem constructDelegate (key : TypeKey) (arguments : List Script.Value) :
    (Binding.constructDelegate engine key arguments).Ends sound (Outermost shown) := by
  unfold Binding.constructDelegate
  split
  · refine .bind (converting_leaves (.grows (delegateFor_grows _ _))) fun delegate => ?_
    exact outermost_made (marshals.references _ _) id
  · dsimp only
    split
    · exact .bind (.describe _) fun _ => .bind .types fun _ => .raise _
    · exact .bind (.pure _) fun _ => .bind .types fun _ => .raise _

theorem constructNamed (scene : Scene) (key : TypeKey) (arguments : List Script.Value) :
    (Binding.constructNamed calls engine scene key arguments).Ends
      (fun world => sound world ∧ justLooked scene world.history) (Outermost shown) := by
  unfold Binding.constructNamed
  dsimp only
  split
  · split
    · exact .after (marshals.values _ _)
    · exact .raise _
  · refine .changes_bind_of_yields (resolve_leaves _ _ _ _ _) fun chosen yields => ?_
    obtain ⟨slot, prepared⟩ := chosen
    obtain ⟨offered, seen⟩ := List.mem_filter.mp (mem_of_resolve_yields yields)
    have shows : scene.Shows slot := ⟨.inr offered, access_of_sees seen⟩
    dsimp only
    split
    · next body offers => exact marshals.runBody shows offers prepared
    · exact .raise _

/-- Whatever is constructed. -/
theorem construct (proxy : CellId) (arguments : List Script.Value) :
    (Binding.construct calls engine proxy arguments).Ends sound (Outermost shown) := by
  unfold Binding.construct
  refine marshals.inScope _ (look_bind_ends proxy fun scene => ?_)
  dsimp only
  split
  · split
    · exact .after (marshals.constructDelegate _ _)
    · exact marshals.constructNamed scene _ arguments
  · split
    · refine .changes_bind (arrayPlace_leaves _) fun place => ?_
      refine .changes_bind (newArray_leaves _ _) fun array => ?_
      exact .after (marshals.values _ _)
    · exact .raise _
  · exact .raise _
  · exact .changes_bind (.typeText _) fun _ => .raise _

/-! ### Indices -/

theorem readElement (array : CellId) (key : Script.Value) :
    (Binding.readElement calls engine array key).Ends sound (Outermost shown) := by
  unfold Binding.readElement
  refine .bind (arrayPlace_leaves key) fun place => .bind (.readStore _) fun items => ?_
  split
  · exact .bind (.readStore _) fun _ => marshals.values _ _
  · exact .raise _

theorem readIndexer (scene : Scene) (name : String) (keys : List Script.Value) :
    (Binding.readIndexer calls engine scene name keys).Ends
      (fun world => sound world ∧ justLooked scene world.history) (Outermost shown) := by
  unfold Binding.readIndexer
  dsimp only
  refine .changes_bind_of_yields (resolve_leaves _ _ _ _ _) fun chosen yields => ?_
  have shows : scene.Shows chosen.1 := shows_of_mem_ofKind (mem_of_resolve_yields yields)
  obtain ⟨slot, prepared⟩ := chosen
  dsimp only
  split
  · next get _ offers =>
    have permitted : (MemberUse.mk scene slot (.read get)).IsPermitted :=
      shows.isPermitted rfl (by rw [offers]; rfl)
    exact .bind_of_reachesFrom
      (.held (readAccessor_reachesFrom marshals.reach engine permitted _))
      fun _ => marshals.values _ _
  · exact .changes_bind (.typeText _) fun _ => .raise _

theorem getIndexStatic (proxy : CellId) (current : Value) (keys : List Script.Value) :
    (Binding.getIndexStatic calls engine proxy current keys).Ends sound (Outermost shown) := by
  refine look_bind_ends proxy fun scene => ?_
  split
  · exact .after (marshals.readElement _ _)
  · split
    · exact marshals.readIndexer scene _ _
    · exact .after (marshals.getMember proxy _)
    · exact .changes_bind (.typeText _) fun _ => .raise _

/-- Whatever is read at keys on a proxy. -/
theorem getIndex (proxy : CellId) (keys : List Script.Value) :
    (Binding.getIndex calls engine proxy keys).Ends sound (Outermost shown) :=
  marshals.inScope _ (.bind (target_leaves proxy) fun current =>
    offer_bind_ends proxy current (askGetIndex_reaches marshals.reach engine keys)
      (marshals.askGetIndex keys) (marshals.getIndexStatic proxy current keys))

/-! ### Events -/

/-- Whatever connecting to an event answers. -/
theorem connect (member : BoundMember) (arguments : List Script.Value) :
    (Binding.connect calls engine member arguments).Ends sound (Outermost shown) := by
  unfold Binding.connect
  rw [connectThrough_eq]
  refine marshals.inScope _ (look_bind_ends _ fun scene => ?_)
  split
  · exact .raise _
  · next slot rest found =>
    have shows : scene.Shows slot := shows_of_mem_ofKind (found ▸ List.mem_cons_self)
    split
    · next offers =>
      have permitted : (MemberUse.mk scene slot .attach).IsPermitted :=
        shows.isPermitted rfl (by rw [offers]; trivial)
      exact .bind_of_reachesFrom (makeConnection_reachesFrom engine permitted arguments)
        fun _ => marshals.values _ _
    · exact .raise _

/-! ### Helpers -/

theorem flagsOf (values : List Script.Value) :
    (Binding.flagsOf calls engine values).Ends sound (Outermost shown) := by
  unfold Binding.flagsOf
  refine .bind (combine_leaves _ _ _ _) fun combined => ?_
  split
  · exact .raise _
  · refine .bind .types fun table => ?_
    dsimp only
    split
    · exact marshals.values _ _
    · exact .raise _

theorem makeArray (arguments : List Script.Value) :
    (Binding.makeArray calls engine arguments).Ends sound (Outermost shown) := by
  have made (element : TypeRef) (length : Option Script.Value) : (do
      let length ← match length with
        | some value => lengthArgument value
        | none => pure 0
      toScript calls engine (.array (← newArray element length)) (.array element) :
        ScriptRun Script.Value).Ends sound (Outermost shown) := by
    cases length with
    | some value =>
      exact .bind (lengthArgument_leaves _) fun _ => .bind (newArray_leaves _ _) fun _ =>
        marshals.values _ _
    | none =>
      exact .bind (.pure _) fun _ => .bind (newArray_leaves _ _) fun _ => marshals.values _ _
  unfold Binding.makeArray
  refine .bind (handledType?_leaves _) fun handled => ?_
  cases handled with
  | some element => exact .bind (.pure _) fun _ => made _ _
  | none => exact .bind (.pure _) fun _ => made _ _

theorem makeObject (arguments : List Script.Value) :
    (Binding.makeObject calls engine arguments).Ends sound (Outermost shown) := by
  unfold Binding.makeObject
  split
  · exact .bind (.create _ trivial rfl) fun _ => outermost_plain nofun
  · refine .bind (handledType?_leaves _) fun handled => ?_
    split
    · exact marshals.construct _ _
    · exact .bind (.describe _) fun _ => .raise _

theorem makeBox (arguments : List Script.Value) :
    (Binding.makeBox calls engine arguments).Ends sound (Outermost shown) := by
  have made (type : TypeRef) (initial : Value) : (do
      toScript calls engine (.box (← create (.box type initial))) (.box type) :
        ScriptRun Script.Value).Ends sound (Outermost shown) :=
    .bind (.create _ trivial rfl) fun _ => marshals.values _ _
  unfold Binding.makeBox
  refine .bind (typeArgument_leaves _) fun type => ?_
  cases arguments[1]? with
  | some value =>
    exact .bind (converted_leaves engine value type) fun _ => .bind (.pure _) (made type)
  | none => exact .bind .types fun _ => .bind (.pure _) (made type)

/-- Whatever a helper answers that does not hand on what it is given. -/
theorem runHelper {helper : Helper} (plain : helper ≠ .typeOf ∧ helper ≠ .toStatic)
    (arguments : List Script.Value) :
    (Binding.runHelper calls engine helper arguments).Ends sound (Outermost shown) := by
  cases helper with
  | cast =>
    refine .bind (typeArgument_leaves _) fun type => ?_
    exact .bind (converted_leaves engine _ _) fun _ => marshals.values _ _
  | isType =>
    refine .bind (typeArgument_leaves _) fun type => ?_
    refine .bind (toHostValue_leaves engine _) fun host => ?_
    exact .bind (.readStore _) fun _ => outermost_plain nofun
  | asType =>
    refine .bind (typeArgument_leaves _) fun type => ?_
    refine .bind (.held (toHostValue_leaves engine _)) fun host => ?_
    refine .bind (.readStore _) fun fits => ?_
    split
    · exact marshals.values _ _
    · exact outermost_plain nofun
  | delete => exact deleteName_ends _ _
  | newArray => exact marshals.makeArray arguments
  | newObject => exact marshals.makeObject arguments
  | newBox => exact marshals.makeBox arguments
  | flags => exact marshals.flagsOf arguments
  | number kind =>
    exact .bind (coerce_leaves engine _ _) fun _ => outermost_made (marshals.boxes _) id
  | char =>
    exact .bind (coerceChar_leaves engine _) fun _ => outermost_made (marshals.boxes _) id
  | typeOf => exact absurd rfl plain.1
  | toStatic => exact absurd rfl plain.2
  | isNull => exact outermost_plain nofun

end Marshals

/-! ### Calls -/

/-- What is known of every proxy that calls answer with besides: functions, members' answers that
are called in turn, and intrinsics. -/
structure MarshalsCalls (relation : World → World → Prop) (sound : World → Prop) (calls : Calls)
    (engine : EngineId) (shown : World → CellId → Prop) : Prop extends
    Marshals relation sound calls engine shown where
  functions : ∀ function arguments,
    (calls.callFunction engine function arguments).Ends sound (Outermost shown)
  answers : ∀ answer arguments,
    (calls.callValue engine answer arguments).Ends sound (Outermost shown)
  intrinsics : ∀ number arguments,
    (runIntrinsic calls engine number arguments).Ends sound (Outermost shown)

namespace MarshalsCalls

variable (marshals : MarshalsCalls relation sound calls engine shown)
include marshals

theorem invokeSlot {scene : Scene} {slot : Slot} (shows : scene.Shows slot) (prepared : Prepared)
    (arguments : List Script.Value) :
    (Binding.invokeSlot calls engine scene slot prepared arguments).Ends
      (fun world => sound world ∧ justLooked scene world.history) (Outermost shown) := by
  unfold Binding.invokeSlot
  split
  · next body offers => exact marshals.runBody shows offers prepared
  · next number offers =>
    have permitted : (MemberUse.mk scene slot (.intrinsic number)).IsPermitted :=
      shows.isPermitted rfl (by rw [offers]; rfl)
    have used : (note (.used ⟨scene, slot, .intrinsic number⟩) : ScriptRun Unit).ReachesFrom
        relation (justLooked scene) := .use permitted rfl (.pure ())
    exact .bind_of_reachesFrom used fun _ => marshals.intrinsics number arguments
  · exact .raise _

theorem invokeMethod (scene : Scene) (name : String) (arguments : List Script.Value) :
    (Binding.invokeMethod calls engine scene name arguments).Ends
      (fun world => sound world ∧ justLooked scene world.history) (Outermost shown) := by
  unfold Binding.invokeMethod
  dsimp only
  refine .changes_bind_of_yields (.settle (resolve_leaves _ _ _ _ _)) fun settled yields => ?_
  split
  · next slot prepared =>
    have member : slot ∈ (scene.lookup name).ofKind .method :=
      mem_of_resolve_yields yields.of_settle
    exact marshals.invokeSlot (shows_of_mem_ofKind member) prepared arguments
  · split
    · next getter found _ =>
      have shows : scene.Shows getter := shows_of_mem_ofKind (List.mem_of_find?_eq_some found)
      exact .bind_of_reachesFrom
        (.held (invokeSlot_reachesFrom marshals.reach engine shows _ _))
        fun answer => marshals.answers answer arguments
    · exact .raise _

theorem invokeOther (subject : Subject) (name : String) (arguments : List Script.Value) :
    (Binding.invokeOther calls engine subject name arguments).Ends sound (Outermost shown) := by
  unfold Binding.invokeOther
  split
  · exact .bind .types fun _ => outermost_plain nofun
  · exact .bind (.valueText _) fun _ => outermost_plain nofun
  · exact marshals.callDelegate _ arguments
  · exact .raise _

theorem invokeFound (scene : Scene) (name : String) (arguments : List Script.Value) :
    (Binding.invokeFound calls engine scene name arguments).Ends
      (fun world => sound world ∧ justLooked scene world.history) (Outermost shown) := by
  unfold Binding.invokeFound
  split
  · exact .after (marshals.invokeOther _ name arguments)
  · next first rest found =>
    have shows : scene.Shows first := shows_of_mem_lookup (found ▸ List.mem_cons_self)
    have read : (held (Binding.readSlot calls engine scene first) >>= fun value =>
        if arguments.isEmpty then pure value else calls.callValue engine value arguments :
          ScriptRun Script.Value).Ends
            (fun world => sound world ∧ justLooked scene world.history) (Outermost shown) := by
      cases arguments.isEmpty with
      | true =>
        rw [show (fun value : Script.Value => if true = true then pure value
          else calls.callValue engine value arguments) = (pure : _ → ScriptRun _) from rfl,
          bind_pure]
        exact marshals.held (marshals.readSlot shows)
      | false =>
        exact .bind_of_reachesFrom (.held (readSlot_reachesFrom marshals.reach engine shows))
          fun answer => marshals.answers answer arguments
    split
    · exact marshals.invokeMethod scene name arguments
    · exact marshals.readIndexer scene name arguments
    · exact read
    · exact read
    · exact .raise _
    · exact .raise _

theorem invokeMember (proxy : CellId) (name : String) (arguments : List Script.Value) :
    (Binding.invokeMember calls engine proxy name arguments).Ends sound (Outermost shown) :=
  marshals.inScope _ (look_bind_ends proxy fun scene => marshals.invokeFound scene name arguments)

/-! ### Calls on proxies -/

theorem askBody (body : Dynamic → Option Code) (arguments : List Script.Value) (object : CellId) :
    (Binding.askBody calls engine body arguments object).Ends sound fun world found =>
      ∀ value, found = some value → Outermost shown world value := by
  unfold Binding.askBody
  refine .bind (toHostValues_leaves engine arguments) fun converted => ?_
  refine .bind (.held (callHost_reaches engine (.bind (capability_leaves _) fun _ =>
    runDynamic_reaches marshals.reach engine _ _))) fun _ => ?_
  exact marshals.answer _

/-- Whatever name is called on a proxy. -/
theorem invoke (proxy : CellId) (name : String) (arguments : List Script.Value) :
    (Binding.invoke calls engine proxy name arguments).Ends sound (Outermost shown) :=
  marshals.inScope _ (.bind (target_leaves proxy) fun current =>
    offer_bind_ends proxy current (askBody_reaches marshals.reach engine _ arguments)
      (marshals.askBody _ arguments) (marshals.invokeMember proxy name arguments))

theorem callStatic (proxy : CellId) (current : Value) (arguments : List Script.Value) :
    (Binding.callStatic calls engine proxy current arguments).Ends sound (Outermost shown) := by
  unfold Binding.callStatic
  refine .bind (subjectOf_leaves proxy) fun subject => ?_
  split
  · exact marshals.construct proxy arguments
  · exact marshals.callDelegate _ arguments
  · exact marshals.getIndex proxy _
  · exact .bind (.typeText _) fun _ => .raise _
  · refine .bind (defaultMember?_leaves engine proxy _) fun name => ?_
    split
    · exact marshals.invokeMember proxy _ arguments
    · exact .bind (.typeText _) fun _ => .raise _

/-- Whatever proxy is called. -/
theorem callProxy (proxy : CellId) (arguments : List Script.Value) :
    (Binding.callProxy calls engine proxy arguments).Ends sound (Outermost shown) :=
  marshals.inScope _ (.bind (target_leaves proxy) fun current =>
    offer_bind_ends proxy current (askBody_reaches marshals.reach engine _ arguments)
      (marshals.askBody _ arguments) (marshals.callStatic proxy current arguments))

/-! ### Any value -/

/-- Whatever bound member is called. -/
theorem callBound (member : BoundMember) (arguments : List Script.Value) :
    (Binding.callBound calls engine member arguments).Ends sound (Outermost shown) := by
  unfold Binding.callBound
  split
  · exact marshals.invokeMember _ _ arguments
  · exact marshals.invokeMember _ _ arguments
  · exact marshals.invokeMember _ _ arguments
  · split
    · exact .bind (assignMember_reaches marshals.reach engine _ _ _ _) fun _ =>
        outermost_plain fun _ same => by cases same
    · exact .raise _
  · exact .raise _
  · exact marshals.connect member arguments

theorem invokeBound (member : BoundMember) (name : String) (arguments : List Script.Value) :
    (Binding.invokeBound calls engine member name arguments).Ends sound (Outermost shown) := by
  unfold Binding.invokeBound
  split
  · exact marshals.callBound _ arguments
  · exact .raise _

/-- Whatever value is called. -/
theorem callValue (callee : Script.Value) (arguments : List Script.Value) :
    (Binding.callValue calls engine callee arguments).Ends sound (Outermost shown) := by
  unfold Binding.callValue
  refine marshals.inScope _ ?_
  split
  · exact marshals.functions _ arguments
  · exact marshals.callProxy _ arguments
  · exact .bind (.readStore _) fun member => marshals.callBound member arguments
  · exact .bind (.describe _) fun _ => .raise _

end MarshalsCalls

end ScriptBridge.Binding
