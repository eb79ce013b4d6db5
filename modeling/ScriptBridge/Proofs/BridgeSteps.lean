/-
This file takes the marshaling of values and the frames of calls step by step.
Making proxies, sweeping and entering frames only change the world; a frame goes
on as its body does, and marshaling as the calls it starts.
-/

import ScriptBridge.Bridge.ToScript
import ScriptBridge.Proofs.Steps

namespace ScriptBridge.Bridge

open Run Host

variable {conduct : Conduct} [ChangeConduct conduct] {Failure Result : Type}
variable {steps : Conduct} [StepConduct steps]

/-! ### Records -/

/-- The record finds one more cell, under the flags. -/
structure Adds (after before : ProxyCache) (flags : ItemFlags) (cell : CellId) : Prop where
  disposed : after.disposed = before.disposed
  marks : ∀ mark ∈ after.marks, mark = (flags, cell) ∨ mark ∈ before.marks

theorem Adds.entries {after before : ProxyCache} {flags : ItemFlags} {cell : CellId}
    (adds : Adds after before flags cell) :
    ∀ entry ∈ after.entries, entry = cell ∨ entry ∈ before.entries := by
  intro entry listed
  obtain ⟨found, marked⟩ := ProxyCache.mem_entries.mp listed
  rcases adds.marks _ marked with same | known
  · exact .inl (congrArg Prod.snd same)
  · exact .inr (ProxyCache.mem_entries.mpr ⟨found, known⟩)

theorem mem_put {Key : Type} [BEq Key] {flagsOf : Key → ItemFlags} {entries : List (Key × CellId)}
    {key : Key} {cell : CellId} {mark : ItemFlags × CellId}
    (listed : mark ∈ (ProxyCache.put entries key cell).map fun entry =>
      (flagsOf entry.1, entry.2)) :
    mark = (flagsOf key, cell) ∨ mark ∈ entries.map fun entry => (flagsOf entry.1, entry.2) := by
  unfold ProxyCache.put at listed
  rw [List.map_append, List.mem_append] at listed
  rcases listed with former | new
  · exact .inr ((List.filter_sublist.map _).subset former)
  · exact .inl (List.mem_singleton.mp new)

theorem adds_addReference (cache : ProxyCache) (key : ReferenceKey) (cell : CellId) (root : Value) :
    Adds (cache.addReference key cell root) cache key.flags cell where
  disposed := rfl
  marks mark listed := by
    unfold ProxyCache.marks at listed ⊢
    rw [List.mem_append] at listed ⊢
    rcases listed with reference | handle
    · exact (mem_put reference).imp_right .inl
    · exact .inr (.inr handle)

theorem adds_addHandle (cache : ProxyCache) (key : HandleKey) (cell : CellId) :
    Adds (cache.addHandle key cell) cache key.flags cell where
  disposed := rfl
  marks mark listed := by
    unfold ProxyCache.marks at listed ⊢
    rw [List.mem_append] at listed ⊢
    rcases listed with reference | handle
    · exact .inr (.inl reference)
    · exact (mem_put handle).imp_right .inr

theorem wanes_prune (cache : ProxyCache) (isLive : CellId → Bool) :
    cache.Wanes (cache.prune isLive).1 where
  disposed := id
  marks mark listed := by
    unfold ProxyCache.marks at listed ⊢
    rw [List.mem_append] at listed ⊢
    exact listed.imp (fun reference => (List.filter_sublist.map _).subset reference) fun handle =>
      (List.filter_sublist.map _).subset handle

/-! ### Frames -/

theorem releaseDropped_leaves (engine : EngineId) :
    Leaves conduct (releaseDropped engine : Run Failure Nat) := by
  exact .bind .reap fun _ => .trimCache engine (·.drain) (fun _ => ⟨id, fun _ => id⟩) id

theorem sweep_leaves (engine : EngineId) :
    Leaves conduct (sweep engine : Run Failure Swept) := by
  refine .bind (releaseDropped_leaves engine) fun released => .bind .reap fun _ => ?_
  exact .bind (.readStore _) fun isLive =>
    .trimCache engine (·.prune isLive) (wanes_prune · isLive) fun pruned => Swept.mk released pruned

theorem collect_leaves (engine : EngineId) :
    Leaves conduct (collect engine : Run Failure (Option Swept)) := by
  refine .bind (.engine engine) fun state => ?_
  split
  · exact .bind (.modifyAside engine fun _ => ⟨rfl, rfl, rfl, rfl, rfl, rfl⟩) fun _ => .pure _
  · exact .bind (.update .collect (fun _ => .of_same rfl) (fun _ => .of_same rfl rfl)
      (fun _ => .of_same rfl rfl) fun _ => .of_same rfl) fun _ =>
      .bind (sweep_leaves engine) fun _ => .pure _

theorem settleEngine_leaves (engine : EngineId) (collectionOwed : Bool) :
    Leaves conduct (settleEngine engine collectionOwed) := by
  unfold settleEngine
  split
  · exact .discard (sweep_leaves engine)
  · exact .discard (releaseDropped_leaves engine)

/-- A frame goes on as its body does. -/
theorem frame_reachesFrom [HoldsCells Result] {conduct : Conduct} [FrameConduct conduct]
    {past : List Binding.MemberEvent → Prop} (engine : EngineId) (kind : FrameKind)
    {body : ScriptRun Result} (reaches : body.ReachesFrom conduct past) :
    (frame engine kind body).ReachesFrom conduct past := by
  intro world holds
  cases enters : (world.session engine).enter kind with
  | error error =>
    unfold frame
    rw [outcome_frameWith_refused enters]
    exact RunConduct.refl world _
  | ok entered =>
    have inside : (polledBody entered body).ReachesFrom conduct past :=
      .settle (.scope (.changes_bind (.ofExcept _) fun _ => reaches))
    have went := inside (world.withSession engine entered) holds
    rcases ran : (polledBody entered body).outcome (world.withSession engine entered) with
      ⟨halt | outcome, after⟩
    · rw [ran] at went
      cases eq_exhausted_of_settle ran
      rw [outcome_frame_stuck enters ran]
      exact FrameConduct.stuck enters went
    · rw [ran] at went
      have left := FrameConduct.left (failure? outcome) enters went
      obtain ⟨last, ended, -, rfl | ⟨owed, idled⟩⟩ := outcome_frame_left enters ran
      · rw [ended]
        cases outcome <;> exact left
      · have settled : conduct _ false last :=
          (Leaves.inScope _ (settleEngine_leaves engine owed)).along idled
        rw [ended]
        cases outcome <;> exact RunConduct.trans left settled

theorem frame_reaches [HoldsCells Result] {conduct : Conduct} [FrameConduct conduct]
    (engine : EngineId) (kind : FrameKind) {body : ScriptRun Result}
    (reaches : Leaves conduct body) : Leaves conduct (frame engine kind body) :=
  (frame_reachesFrom engine kind reaches.reachesFrom).leaves

omit [ChangeConduct conduct] in
theorem requireAlive_leaves [RunConduct conduct] (engine : EngineId) :
    Leaves conduct (requireAlive engine) := by
  refine .bind (.engine engine) fun state => ?_
  split
  · exact .raise _
  · exact .pure _

/-- Host code goes on in its frame as it does by itself. -/
theorem callHost_reachesFrom [HoldsCells Result] {past : List Binding.MemberEvent → Prop}
    (engine : EngineId) {body : HostRun Result} (reaches : body.ReachesFrom steps past) :
    (callHost engine body).ReachesFrom steps past :=
  .changes_bind (requireAlive_leaves engine) fun _ =>
    frame_reachesFrom engine .hostCall reaches.mapFailure

theorem callHost_reaches [HoldsCells Result] (engine : EngineId) {body : HostRun Result}
    (reaches : Leaves steps body) : Leaves steps (callHost engine body) :=
  (callHost_reachesFrom engine reaches.reachesFrom).leaves

/-! ### Proxies -/

omit [ChangeConduct conduct] in
theorem requireCache_leaves [RunConduct conduct] (engine : EngineId) :
    Leaves conduct (requireCache engine) := by
  refine .bind (.engine engine) fun state => ?_
  split
  · exact .raise _
  · exact .pure _

omit [ChangeConduct conduct] in
/-- Enforcing the limit keeps to what reaping and sweeping keep to. -/
theorem reserve_leaves_of [RunConduct conduct] {engine : EngineId}
    (reaps : Leaves conduct (reap : ScriptRun Unit))
    (sweeps : Leaves conduct (sweep engine : ScriptRun Swept)) :
    Leaves conduct (reserve engine) := by
  have enforce : Leaves conduct (do
      if ← observe (·.isOverLimit) then
        discard (sweep engine)
        if ← observe (·.isOverLimit) then raise (.plain "Error" "runtime heap limit exceeded") :
      ScriptRun Unit) := by
    refine .bind (.observe _) fun exceeded => ?_
    split
    · refine .bind (.discard sweeps) fun _ => .bind (.observe _) fun still => ?_
      split
      · exact .raise _
      · exact .pure _
    · exact .pure _
  unfold reserve
  refine .bind (.observe _) fun limit => ?_
  split
  · exact .bind reaps fun _ => enforce
  · exact enforce

theorem reserve_leaves (engine : EngineId) : Leaves conduct (reserve engine) :=
  reserve_leaves_of .reap (sweep_leaves engine)

omit [ChangeConduct conduct] in
theorem findLive_leaves_of [RunConduct conduct] (reaps : Leaves conduct (reap : ScriptRun Unit))
    {Key : Type} [BEq Key] (entries : List (Key × CellId)) (key : Key) :
    Leaves conduct (findLive entries key) := by
  unfold findLive
  split
  · exact .bind reaps fun _ => .bind (.readStore _) fun _ => .pure _
  · exact .bind (.readStore _) fun _ => .pure _

/-- Making the proxy keeps to the relation. -/
abbrev Makes (conduct : Conduct) (proxy : Proxy) : Prop :=
  Leaves conduct (create (.proxy proxy) : ScriptRun CellId)

theorem makes_of_plain {proxy : Proxy} (plain : proxy.isPlain = true) : Makes conduct proxy :=
  .create _ trivial plain

/-- A proxy without flags may be made anywhere of what proxies are made of. -/
theorem makes_of_apt {engine : EngineId} {target : ProxyTarget} {view : Option TypeKey}
    (apt : target.isApt = true) : Makes conduct ⟨engine, target, view, .none⟩ :=
  makes_of_plain (Proxy.isPlain_of_isApt ItemFlags.contains_none apt)

/-- A new proxy and its entry in the record of its engine. -/
theorem makeEntry_leaves {add : ProxyCache → CellId → ProxyCache} {flags : ItemFlags}
    {proxy : Proxy} (makes : Makes conduct proxy)
    (hidden : flags.contains .privateAccess = proxy.isPrivate)
    (adds : ∀ cache cell, Adds (add cache cell) cache flags cell) :
    Leaves conduct (do
      let made ← create (.proxy proxy)
      modifyEngine proxy.engine fun engine => { engine with cache := add engine.cache made }
      return made : ScriptRun CellId) := by
  intro world
  let between := ((create (.proxy proxy) : ScriptRun CellId).outcome world).2
  have created : conduct world false between := makes world
  have found : between.store.proxy? world.store.cells.size = some proxy := by
    rw [Store.proxy?_eq_some]
    exact Store.get?_create_size _ _
  refine RunConduct.trans created
    (Change.conducted (.engine _ proxy.engine _ (fun _ => rfl) fun _ => rfl) ?_
      (.modifyEngine _ _ fun _ => rfl) ?_ (between.keepsCalls_modifyEngine _ (fun _ => rfl) fun _ => rfl))
  · refine World.keepsRecords_add found ?_ ?_
    · exact fun disposed => (adds _ _).disposed.trans disposed
    · exact (adds _ _).entries
  · exact .of_store rfl (World.confinesTo_add found hidden.symm.trans (adds _ _).marks)

theorem findOrMake_leaves {Key : Type} [BEq Key] (entries : ProxyCache → List (Key × CellId))
    {add : ProxyCache → CellId → ProxyCache} (key : Key) {flags : ItemFlags} {proxy : Proxy}
    (makes : Makes conduct proxy) (hidden : flags.contains .privateAccess = proxy.isPrivate)
    (adds : ∀ cache cell, Adds (add cache cell) cache flags cell) :
    Leaves conduct (findOrMake entries add key proxy) := by
  refine .bind (.engine _) fun state => .bind (findLive_leaves_of .reap _ _) fun found => ?_
  split
  · exact .bind (.keep _) fun _ => .pure _
  · exact makeEntry_leaves makes hidden adds

theorem findReference_leaves {engine : EngineId} {value : Value} {view : Option TypeKey}
    {flags : ItemFlags} (makes : value.hasWeakForm = true →
      Makes conduct ⟨engine, .reference value, view, flags⟩) :
    Leaves conduct (findReference engine value view flags) := by
  refine .bind (requireCache_leaves engine) fun _ => ?_
  split
  · next weak =>
    exact findOrMake_leaves _ _ (makes weak) (ItemFlags.contains_identity flags)
      fun cache cell => adds_addReference cache _ cell value
  · exact .bind (.typeText value) fun _ => .raise _

theorem findHandle_leaves {engine : EngineId} {type : TypeRef} {flags : ItemFlags}
    (makes : Makes conduct ⟨engine, .type type, none, flags⟩) :
    Leaves conduct (findHandle engine type flags) :=
  .bind (requireCache_leaves engine) fun _ =>
    findOrMake_leaves _ _ makes (ItemFlags.contains_identity flags)
      fun cache cell => adds_addHandle cache _ cell

theorem boxValue_leaves {engine : EngineId} {value : Value} {flags : ItemFlags}
    (makes : Makes conduct ⟨engine, .boxed value, none, flags⟩) :
    Leaves conduct (boxValue engine value flags) :=
  .bind (.holdCells _) fun _ => .bind (reserve_leaves engine) fun _ =>
    .bind (requireCache_leaves engine) fun _ => makes

theorem proxyReference_leaves {engine : EngineId} {value : Value} (declared : TypeRef)
    {flags : ItemFlags} (makes : value.hasWeakForm = true →
      ∀ view, Makes conduct ⟨engine, .reference value, view, flags⟩) :
    Leaves conduct (proxyReference engine value declared flags) :=
  .bind (.holdCells _) fun _ => .bind (.readStore _) fun view =>
    .bind (reserve_leaves engine) fun _ => findReference_leaves fun weak => makes weak view

/-! ### Adoption -/

/-- A proxy that is adopted is at most given another that stands for the same. -/
theorem adopt_conducted {world : World} (engine : EngineId) (cell : CellId)
    (makes : ∀ view, Makes conduct
      ⟨engine, (world.store.proxy cell).target, view, (world.store.proxy cell).flags⟩) :
    conduct world (isShort ((adopt engine (.proxy cell)).outcome world).1)
      ((adopt engine (.proxy cell)).outcome world).2 := by
  have holding : conduct world false (world.holding [cell]) :=
    RunConduct.held _ (RunConduct.refl world _)
  refine RunConduct.trans holding ?_
  unfold adopt
  rw [outcome_bind_of_ok (outcome_holdCells _ _)]
  dsimp only [Script.Value.cells]
  rw [outcome_bind_of_ok (outcome_readStore _ _)]
  split
  · exact RunConduct.refl _ _
  · split
    · next type stands =>
      rw [show (world.store.proxy cell).target = .type type from stands] at makes
      exact Leaves.bind (findHandle_leaves (makes none)) (fun _ => .pure _) _
    · next boxed stands =>
      rw [show (world.store.proxy cell).target = .boxed boxed from stands] at makes
      exact Leaves.bind (boxValue_leaves (makes none)) (fun _ => .pure _) _
    · next value stands =>
      rw [outcome_bind_of_ok (outcome_observe _ _)]
      cases reached : (world.holding [cell]).targetOf cell with
      | error error => exact RunConduct.refl _ _
      | ok target =>
        have same := (World.targetOf_eq_ok reached).1
        unfold Proxy.value at same
        rw [stands] at same
        cases same
        rw [show (world.store.proxy cell).target = .reference value from stands] at makes
        rw [outcome_bind_of_ok (outcome_ofExcept_ok _ _)]
        exact Leaves.bind (.holdCells _) (fun _ => .bind (reserve_leaves engine) fun _ =>
          .bind (findReference_leaves fun _ => makes _) fun _ => .pure _) _

/-- What is made from a proxy in a run that takes no other step is made from it if it is not plain,
and plain otherwise. -/
theorem conducted_of_makes {world after : World} {short : Bool} (cell : CellId)
    (conducted : ∀ {conduct : Conduct} [ChangeConduct conduct],
      (∀ made, (world.store.proxy cell).Conveys made → Makes conduct made) →
        conduct world short after) : steps world short after := by
  cases plain : (world.store.proxy cell).isPlain with
  | false =>
    refine StepConduct.convey (Store.proxy?_of_isPlain plain) plain ?_ ?_ (fun apt => ?_) ?_
    · exact @conducted Makings _ fun made _ => .create_makings made
    · exact @conducted (World.ConfinesTo _) _ fun made conveys => .create_confinesTo conveys
    · exact @conducted World.KeepsTargets _
        fun made conveys => .create_keepsTargets (conveys.target ▸ apt)
    · exact @conducted World.KeepsCalls _ fun made _ => .create_keepsCalls _
  | true => exact conducted fun made conveys => makes_of_plain (conveys.isPlain.trans plain)

theorem adopt_leaves (engine : EngineId) (value : Script.Value) :
    Leaves steps (adopt engine value) := by
  cases value with
  | proxy cell =>
    exact fun world => conducted_of_makes cell fun makes =>
      adopt_conducted engine cell fun view => makes _ (.adopted engine view)
  | _ => exact .bind (.holdCells _) fun _ => .pure _

/-! ### Marshaling -/

omit [ChangeConduct conduct] in
theorem converting_leaves {run : ConversionRun Result} (leaves : Leaves conduct run) :
    Leaves conduct (converting run) :=
  leaves.mapFailure

theorem toHost_leaves (engine : EngineId) (value : Script.Value) (target : TypeRef) :
    Leaves conduct (toHost engine value target) :=
  (toHost_grows engine value target).grows

/-- A script value converted to a declared type, in use from then on. -/
theorem converted_leaves (engine : EngineId) (value : Script.Value) (target : TypeRef) :
    Leaves conduct (held (converting (toHost engine value target))) :=
  .held (converting_leaves (toHost_leaves engine value target))

theorem toHostValue_leaves (engine : EngineId) (value : Script.Value) :
    Leaves conduct (toHostValue engine value : Run Failure Value) :=
  (toHostValue_grows engine value).grows

theorem toHostValues_leaves (engine : EngineId) (values : List Script.Value) :
    Leaves conduct (toHostValues engine values : Run Failure (List Value)) :=
  (toHostValues_grows engine values).grows

variable {calls : Calls}

/-- Whatever marshaling makes for the engine keeps to the relation. -/
structure MakesForms (conduct : Conduct) (engine : EngineId) : Prop where
  reserve : Leaves conduct (reserve engine)
  reference : ∀ value declared, Leaves conduct (proxyReference engine value declared .none)
  boxed : ∀ value, value.isValueLike = true → Leaves conduct (boxValue engine value .none)
  handle : ∀ type, Leaves conduct (findHandle engine type .none)
  adopted : ∀ value, Leaves conduct (adopt engine value)
  array : ∀ items, Leaves conduct (create (.scriptArray items) : ScriptRun CellId)

section

omit [ChangeConduct conduct]

variable [RunConduct conduct] {engine : EngineId}

theorem exportItems_leaves {element : TypeRef}
    (marshals : ∀ item, Leaves conduct (calls.toScript engine item element)) (items : List Value) :
    Leaves conduct (exportItems calls engine element items) := by
  induction items with
  | nil => exact .pure _
  | cons item rest inductionHypothesis =>
    refine .bind (.held (marshals item)) fun converted => ?_
    exact .bind inductionHypothesis fun _ => .pure _

/-- Marshaling a value makes proxies and arrays, and goes on as the marshaling of items does. -/
theorem toScript_leaves (forms : MakesForms conduct engine)
    (marshals : ∀ item element, Leaves conduct (calls.toScript engine item element))
    (value : Value) (declared : TypeRef) :
    Leaves conduct (toScript calls engine value declared) := by
  have asReference : Leaves conduct (do
      return .proxy (← proxyReference engine value declared .none) : ScriptRun Script.Value) :=
    .bind (forms.reference value declared) fun _ => .pure _
  have asBoxed (like : value.isValueLike = true) : Leaves conduct (do
      return .proxy (← boxValue engine value .none) : ScriptRun Script.Value) :=
    .bind (forms.boxed value like) fun _ => .pure _
  refine .inScope _ (.bind (.engine engine) fun state => ?_)
  cases value with
  | dateTime moment =>
    dsimp only
    split
    · exact .pure _
    · exact asBoxed rfl
  | enumeration | struct => exact asBoxed rfl
  | type type =>
    exact .bind forms.reserve fun _ => .bind (forms.handle type) fun _ => .pure _
  | script handle =>
    refine .bind (.readStore _) fun inner => ?_
    split
    · exact forms.adopted _
    · exact .pure _
  | array cell =>
    dsimp only
    split
    · refine .bind (.readStore _) fun element => .bind (.readStore _) fun items => ?_
      refine .bind (exportItems_leaves (marshals · element) _) fun values => ?_
      exact .bind (forms.array _) fun _ => .pure _
    · exact asReference
  | delegate cell =>
    refine .bind (.readStore _) fun function => ?_
    split
    · exact .pure _
    · exact asReference
  | object | box => exact asReference
  | _ => exact .pure _

end

theorem makesForms (engine : EngineId) : MakesForms steps engine where
  reserve := reserve_leaves engine
  reference _ declared := proxyReference_leaves declared fun weak _ =>
    makes_of_apt (ProxyTarget.isApt_of_hasWeakForm weak)
  boxed _ like := boxValue_leaves (makes_of_apt like)
  handle _ := findHandle_leaves (makes_of_apt rfl)
  adopted := adopt_leaves engine
  array _ := .create _ trivial rfl

theorem toScript_reaches (reach : calls.Reach steps) (engine : EngineId) (value : Value)
    (declared : TypeRef) : Leaves steps (toScript calls engine value declared) :=
  toScript_leaves (makesForms engine) (reach.toScript engine) value declared

end ScriptBridge.Bridge
