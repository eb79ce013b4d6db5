/-
This file follows runs on one proxy in two worlds that differ in annotations only. What
the proxy shows in the one is related to what it shows in the other, and stays so while
cells only come and go. Runs that agree from such worlds, in which this is known of the
proxy, make up runs that do.
-/

import ScriptBridge.Proofs.InvokeAgreement
import ScriptBridge.Proofs.Waning

namespace ScriptBridge

open Host Binding Bridge Run

/-! ### Subjects -/

theorem subjectIn_eq {store : Store} {value : Value} (ofValue : ∀ type, value ≠ .type type) :
    subjectIn store value =
      match store.typeOf value with
      | .named key => .member value key
      | _ => .plain value := by
  cases value with
  | type type => exact absurd rfl (ofValue type)
  | _ => rfl

theorem subjectIn_bare (store : Store) (value : Value) :
    subjectIn store.bare value = subjectIn store value := by
  unfold subjectIn
  simp only [Store.typeOf_bare]

theorem subjectIn_congr {earlier later : Store} {value : Value}
    (typed : later.typeOf value = earlier.typeOf value) :
    subjectIn later value = subjectIn earlier value := by
  cases value with
  | type type => rfl
  | _ =>
    unfold subjectIn
    dsimp only
    rw [typed]

theorem sceneIn_congr {before after : World} {engine : EngineId} {cell : CellId}
    (policy : (after.engine engine).policy = (before.engine engine).policy)
    (types : after.store.types = before.store.types)
    (proxy : after.store.proxy cell = before.store.proxy cell) (subject : Subject) :
    sceneIn after engine cell subject = sceneIn before engine cell subject := by
  unfold sceneIn
  rw [policy, types, proxy]

/-! ### What a proxy shows in two worlds -/

/-- A relation of scenes that differ in annotations only. Scenes without members are related. -/
class SceneRelation (related : Scene → Scene → Prop) : Prop where
  bare : ∀ {left right}, related left right → left.bare = right.bare
  nothing : ∀ {left right : Scene}, left.bare = right.bare → ∀ {value},
    left.subject = .plain value → related left right

/-- What the proxy shows in the worlds is related as long as it lives. A value with an identity is
held by reference, and its type is asked for while it lives. -/
structure World.Faces (engine : EngineId) (proxy : CellId) (related : Scene → Scene → Prop)
    (left right : World) : Prop where
  inside : proxy < left.store.cells.size
  weak : ∀ {contents target}, left.store.get? proxy = some (.proxy contents) →
    contents.value.identity? = some target →
      target < left.store.cells.size ∧ contents.target = .reference contents.value
  scenes : ∀ {contents}, left.store.get? proxy = some (.proxy contents) →
    (∀ target, contents.value.identity? = some target → left.store.isLive target = true) →
      related (sceneIn left engine proxy (subjectIn left.store contents.value))
        (sceneIn right engine proxy (subjectIn left.store contents.value))

/-- This is what the proxy shows in the worlds now. -/
def World.Sees (engine : EngineId) (proxy : CellId) (scene twin : Scene) (left right : World) :
    Prop :=
  ∃ value, left.targetOf proxy = .ok value ∧
    scene = sceneIn left engine proxy (subjectIn left.store value) ∧
    twin = sceneIn right engine proxy (subjectIn left.store value)

section

variable {engine : EngineId} {proxy : CellId} {related other : Scene → Scene → Prop}
  {left right leftAfter rightAfter : World} {scene twin : Scene}

theorem World.proxy_of_bare (bare : left.bare = right.bare) (cell : CellId) :
    left.store.proxy cell = right.store.proxy cell :=
  (congrArg (fun world : World => world.store.proxy cell) bare :
    left.bare.store.proxy cell = right.bare.store.proxy cell)

/-- What is shown stays related while cells come and go. -/
theorem World.Faces.wanes (faces : World.Faces engine proxy related left right)
    (bare : left.bare = right.bare) (wanes : left.Wanes leftAfter)
    (wanesTwin : right.Wanes rightAfter) (bareAfter : leftAfter.bare = rightAfter.bare) :
    World.Faces engine proxy related leftAfter rightAfter where
  inside := Nat.lt_of_lt_of_le faces.inside wanes.store.size_le
  weak found identity := by
    obtain ⟨inside, held⟩ := faces.weak (wanes.store.stays faces.inside found) identity
    exact ⟨Nat.lt_of_lt_of_le inside wanes.store.size_le, held⟩
  scenes {contents} found living := by
    have former := wanes.store.stays faces.inside found
    have lived (target : CellId) (identity : contents.value.identity? = some target) :
        left.store.isLive target = true := by
      obtain ⟨held, live⟩ := Store.isLive_iff.mp (living target identity)
      exact Store.isLive_iff.mpr ⟨held, wanes.store.stays (faces.weak former identity).1 live⟩
    have typed : leftAfter.store.typeOf contents.value = left.store.typeOf contents.value :=
      wanes.store.typeOf fun target identity =>
        ⟨(faces.weak former identity).1, living target identity⟩
    have subject := subjectIn_congr typed
    have same : leftAfter.store.proxy proxy = left.store.proxy proxy :=
      (Store.proxy_of_get? found).trans (Store.proxy_of_get? former).symm
    have sameTwin : rightAfter.store.proxy proxy = right.store.proxy proxy := by
      rw [← World.proxy_of_bare bareAfter, same, World.proxy_of_bare bare]
    rw [subject, sceneIn_congr (wanes.policy engine) wanes.store.types same,
      sceneIn_congr (wanesTwin.policy engine) wanesTwin.store.types sameTwin]
    exact faces.scenes former lived

/-- What is shown now is related. -/
theorem World.Faces.shown [SceneRelation related]
    (faces : World.Faces engine proxy related left right) (bare : left.bare = right.bare)
    (sees : World.Sees engine proxy scene twin left right) : related scene twin := by
  obtain ⟨value, reached, rfl, rfl⟩ := sees
  obtain ⟨rfl, living⟩ := World.targetOf_eq_ok reached
  have same (subject : Subject) : (sceneIn left engine proxy subject).bare =
      (sceneIn right engine proxy subject).bare :=
    congrArg (fun world => sceneIn world engine proxy subject) bare
  unfold Store.proxy at living ⊢
  split
  · next found =>
    rw [found] at living
    exact faces.scenes found fun target identity =>
      living (faces.weak found identity).2 target identity
  · exact SceneRelation.nothing (same _) rfl

/-- What a proxy leads to is a value of a registered type, held by reference if it has an
identity. -/
structure World.Presents (world : World) (proxy : CellId) (value : Value) (key : TypeKey) :
    Prop where
  target : world.targetOf proxy = .ok value
  typed : world.store.typeOf value = .named key
  held : ∀ target, value.identity? = some target →
    (world.store.proxy proxy).target = .reference value

namespace World.Presents

variable {value : Value} {key : TypeKey} (presents : left.Presents proxy value key)

include presents

theorem subjectIn_eq : subjectIn left.store value = .member value key := by
  rw [ScriptBridge.subjectIn_eq fun type is => nomatch is ▸ presents.typed]
  have typed := presents.typed
  rw [typed]

theorem proxy_get? : left.store.get? proxy = some (.proxy (left.store.proxy proxy)) := by
  have isValue := (World.targetOf_eq_ok presents.target).1
  have typed := presents.typed
  rw [← isValue] at typed
  unfold Store.proxy at typed ⊢
  split at typed
  · next found => rw [found]
  · cases typed

/-- Where what a proxy leads to now is related, the worlds face each other. -/
theorem faces
    (now : related (sceneIn left engine proxy (.member value key))
      (sceneIn right engine proxy (.member value key))) :
    World.Faces engine proxy related left right := by
  have found := presents.proxy_get?
  obtain ⟨isValue, living⟩ := World.targetOf_eq_ok presents.target
  have only {contents : Proxy} (there : left.store.get? proxy = some (.proxy contents)) :
      contents = left.store.proxy proxy := (Store.proxy_of_get? there).symm
  refine ⟨Store.lt_size_of_get? found, fun there identity => ?_, fun there _ => ?_⟩
  · rw [only there, isValue] at identity ⊢
    have held := presents.held _ identity
    obtain ⟨_, live⟩ := Store.isLive_iff.mp (living held _ identity)
    exact ⟨Store.lt_size_of_get? live, held⟩
  · rw [only there, isValue, presents.subjectIn_eq]
    exact now

end World.Presents

theorem World.Faces.mono (faces : World.Faces engine proxy related left right)
    (wider : ∀ {scene twin}, related scene twin → other scene twin) :
    World.Faces engine proxy other left right where
  inside := faces.inside
  weak := faces.weak
  scenes found living := wider (faces.scenes found living)

/-- What is related now stays so while the proxy shows it. -/
theorem World.Faces.narrow (faces : World.Faces engine proxy related left right)
    (sees : World.Sees engine proxy scene twin left right) (now : other scene twin) :
    World.Faces engine proxy other left right where
  inside := faces.inside
  weak := faces.weak
  scenes {contents} found _ := by
    obtain ⟨value, reached, rfl, rfl⟩ := sees
    obtain ⟨rfl, -⟩ := World.targetOf_eq_ok reached
    rw [Store.proxy_of_get? found] at now
    exact now

/-- What is shown is a matter of the store and the engines. -/
theorem World.Sees.of_same (sees : World.Sees engine proxy scene twin left right)
    (store : leftAfter.store = left.store) (engines : leftAfter.engines = left.engines)
    (storeTwin : rightAfter.store = right.store) (enginesTwin : rightAfter.engines = right.engines) :
    World.Sees engine proxy scene twin leftAfter rightAfter := by
  obtain ⟨value, reached, rfl, rfl⟩ := sees
  refine ⟨value, ?_, ?_, ?_⟩
  · unfold World.targetOf World.engine
    rw [store, engines]
    exact reached
  · unfold sceneIn World.engine
    rw [store, engines]
  · unfold sceneIn World.engine
    rw [store, storeTwin, enginesTwin]

end

/-! ### Runs from worlds that face each other -/

namespace Run

variable {Failure Result Next : Type} {Twin NextTwin : Type} {free : Annotated} {cut : Prop}

/-- Runs agree from worlds that are alike, where these are of a kind. -/
def AgreesFrom (free : Annotated) (cut : Prop) (past : World → World → Prop)
    (related : Result → Twin → Prop) (run : Run Failure Result) (twin : Run Failure Twin) : Prop :=
  ∀ ⦃left right : World⦄, left.Alike free right → past left right →
    Agree free cut related (run.outcome left) (twin.outcome right)

variable {past : World → World → Prop} {related : Result → Twin → Prop}
  {goal : Next → NextTwin → Prop}

theorem Agrees.agreesFrom {run : Run Failure Result} {twin : Run Failure Twin}
    (agrees : Agrees free cut related run twin) : AgreesFrom free cut past related run twin :=
  fun _ _ alike _ => agrees alike

namespace AgreesFrom

theorem narrow {wider : World → World → Prop} {run : Run Failure Result} {twin : Run Failure Twin}
    (agrees : AgreesFrom free cut wider related run twin)
    (narrower : ∀ left right, past left right → wider left right) :
    AgreesFrom free cut past related run twin :=
  fun left right alike was => agrees alike (narrower left right was)

theorem scope {run : Run Failure Result} {twin : Run Failure Twin}
    (agrees : AgreesFrom free cut past related run twin) :
    AgreesFrom free cut past related (Run.scope run) (Run.scope twin) :=
  fun _ _ alike was => .scope alike (agrees alike was)

theorem bind (later : Result → World → World → Prop) {run : Run Failure Result}
    {twin : Run Failure Twin} {next : Result → Run Failure Next}
    {nextTwin : Twin → Run Failure NextTwin} (first : AgreesFrom free cut past related run twin)
    (keeps : ∀ {left right result resultTwin after afterTwin}, left.bare = right.bare →
      past left right → run.outcome left = (.ok result, after) →
        twin.outcome right = (.ok resultTwin, afterTwin) → related result resultTwin →
          after.bare = afterTwin.bare → later result after afterTwin)
    (second : ∀ {result resultTwin}, related result resultTwin →
      AgreesFrom free cut (later result) goal (next result) (nextTwin resultTwin)) :
    AgreesFrom free cut past goal (run >>= next) (twin >>= nextTwin) :=
  fun _ _ alike was => (first alike was).bind fun {_ _ _ _} ran ranTwin same after =>
    second same after (keeps alike.bare was ran ranTwin same after.bare)

/-- What is answered in the end is the same. -/
theorem andAnswer {run twin : Run Failure Result} (first : AgreesFrom free cut past Eq run twin)
    (answer : Next) :
    AgreesFrom free cut past Eq (run >>= fun _ => Pure.pure answer)
      (twin >>= fun _ => Pure.pure answer) :=
  bind (fun _ _ _ => True) first (fun _ _ _ _ _ _ => trivial) fun _ => (Agrees.pure answer).agreesFrom

section

variable {engine : EngineId} {proxy : CellId} {shown : Scene → Scene → Prop}
  {run twin : Run Failure Result} {next nextTwin : Result → Run Failure Next}
  {goal : Next → Next → Prop}

/-- After a result for which cells only came and went, the worlds still face each other. -/
theorem wanes_bind {kind : Result → Prop} (first : Agrees free cut Eq run twin)
    (wanes : run.WanesFor kind) (wanesTwin : twin.WanesFor kind)
    (second : ∀ result, kind result →
      AgreesFrom free cut (World.Faces engine proxy shown) goal (next result) (nextTwin result))
    (other : ∀ result, ¬kind result → Agrees free cut goal (next result) (nextTwin result)) :
    AgreesFrom free cut (World.Faces engine proxy shown) goal (run >>= next)
      (twin >>= nextTwin) := by
  refine bind (fun result left right => kind result → World.Faces engine proxy shown left right)
    first.agreesFrom (fun bare was ran ranTwin same after is => ?_) fun {result _} same => ?_
  · exact was.wanes bare (wanes ran is) (wanesTwin ranTwin (same ▸ is)) after
  · rw [← same]
    by_cases is : kind result
    · exact (second result is).narrow fun _ _ was => was is
    · exact (other result is).agreesFrom

theorem leaves_bind (first : Agrees free cut Eq run twin) (leaves : Leaves World.Wanes run)
    (leavesTwin : Leaves World.Wanes twin)
    (second : ∀ result,
      AgreesFrom free cut (World.Faces engine proxy shown) goal (next result) (nextTwin result)) :
    AgreesFrom free cut (World.Faces engine proxy shown) goal (run >>= next)
      (twin >>= nextTwin) :=
  wanes_bind first (.of_leaves leaves : run.WanesFor fun _ => True) (.of_leaves leavesTwin)
    (fun result _ => second result) fun _ never => absurd trivial never

/-- In a scope of its own, with cells in use from its start. -/
theorem inScope {cells : List CellId} {run twin : Run Failure Next}
    (agrees : AgreesFrom free cut (World.Faces engine proxy shown) goal run twin) :
    AgreesFrom free cut (World.Faces engine proxy shown) goal
      (Run.scope (do Run.holdCells cells; run)) (Run.scope (do Run.holdCells cells; twin)) :=
  scope (leaves_bind (.holdCells cells) (.holdCells cells) (.holdCells cells) fun _ => agrees)

/-- An offer that is turned down leaves the worlds facing each other. -/
theorem offer {Value : Type} {run twin : Run Failure (Option Value)}
    {next nextTwin : Option Value → Run Failure Next}
    (first : Agrees free cut Eq run twin) (wanes : run.WanesFor (· = none))
    (wanesTwin : twin.WanesFor (· = none))
    (refused :
      AgreesFrom free cut (World.Faces engine proxy shown) goal (next none) (nextTwin none))
    (answered : ∀ value, Agrees free cut goal (next (some value)) (nextTwin (some value))) :
    AgreesFrom free cut (World.Faces engine proxy shown) goal (run >>= next)
      (twin >>= nextTwin) := by
  refine wanes_bind first wanes wanesTwin (fun found nothing => ?_) fun found something => ?_
  · rw [nothing]
    exact refused
  · cases found with
    | none => exact absurd rfl something
    | some value => exact answered value

end

end AgreesFrom

end Run

/-! ### Looking -/

section

variable {free : Annotated} {cut : Prop} {Next : Type} {goal : Next → Next → Prop}
  {engine : EngineId} {proxy : CellId} {related : Scene → Scene → Prop} {scene twin : Scene}

/-- The worlds face each other, and this is what the proxy shows now. -/
abbrev World.FacesNow (engine : EngineId) (proxy : CellId) (related : Scene → Scene → Prop)
    (scene twin : Scene) (left right : World) : Prop :=
  World.Faces engine proxy related left right ∧ World.Sees engine proxy scene twin left right

theorem Binding.target_agrees (proxy : CellId) : IsBlind free cut (target proxy) :=
  .bind_same (.observe fun _ => rfl) fun _ => .bind_same (.ofExcept _) .hold

/-- A look changes no cell and no engine. -/
theorem Binding.look_same (engine : EngineId) (proxy : CellId) (world : World) :
    ((look engine proxy).outcome world).2.store = world.store ∧
      ((look engine proxy).outcome world).2.engines = world.engines := by
  rw [outcome_look]
  split <;> exact ⟨rfl, rfl⟩

/-- A look at a proxy sees what it shows. -/
theorem Binding.look_agreesFrom (scene twin : Scene) :
    AgreesFrom free cut (World.Sees engine proxy scene twin)
      (fun looked lookedTwin => looked = scene ∧ lookedTwin = twin) (look engine proxy)
      (look engine proxy) := by
  rintro left right alike ⟨value, reached, rfl, rfl⟩
  have target : left.targetOf proxy = right.targetOf proxy :=
    alike.observe (·.targetOf proxy) fun _ => rfl
  have subject : subjectIn left.store value = subjectIn right.store value :=
    alike.observe (subjectIn ·.store value) fun world => subjectIn_bare world.store value
  have scenes : (sceneIn left engine proxy (subjectIn left.store value)).bare =
      (sceneIn right engine proxy (subjectIn left.store value)).bare :=
    congrArg (fun world => sceneIn world engine proxy (subjectIn left.store value)) alike.bare
  rw [outcome_look, outcome_look, ← target, reached]
  dsimp only
  rw [← subject]
  generalize sceneIn left engine proxy (subjectIn left.store value) = scene at scenes ⊢
  generalize sceneIn right engine proxy (subjectIn left.store value) = twin at scenes ⊢
  have noted (world : World) (scene : Scene) :
      ({ world.holding value.cells with
          history := .looked scene :: world.history } : World).bare =
        { world.bare.holding value.cells with
          history := .looked scene.bare :: world.bare.history } := rfl
  exact .of_ok ⟨rfl, rfl⟩ (alike.change (by rw [noted, noted, alike.bare, scenes]) rfl rfl)

namespace Run.AgreesFrom

/-- What the proxy shows now it goes on to show. -/
theorem now {other : Scene → Scene → Prop} {run runTwin : ScriptRun Next}
    (agrees : AgreesFrom free cut (World.Faces engine proxy other) goal run runTwin)
    (same : other scene twin) :
    AgreesFrom free cut (World.FacesNow engine proxy related scene twin) goal run runTwin :=
  agrees.narrow fun _ _ was => was.1.narrow was.2 same

/-- What follows a look at what the proxy shows is given it. -/
theorem look_of_sees {next nextTwin : Scene → ScriptRun Next}
    (second : Agrees free cut goal (next scene) (nextTwin twin)) :
    AgreesFrom free cut (World.Sees engine proxy scene twin) goal
      (Binding.look engine proxy >>= next) (Binding.look engine proxy >>= nextTwin) :=
  bind (fun _ _ _ => True) (look_agreesFrom scene twin) (fun _ _ _ _ _ _ => trivial)
    fun ⟨looked, lookedTwin⟩ => looked ▸ lookedTwin ▸ second.agreesFrom

/-- In a scope of its own, with cells in use from its start, the proxy shows what it showed. -/
theorem inScopeOfSees {cells : List CellId} {run runTwin : ScriptRun Next}
    (agrees : AgreesFrom free cut (World.Sees engine proxy scene twin) goal run runTwin) :
    AgreesFrom free cut (World.FacesNow engine proxy related scene twin) goal
      (Run.scope (do Run.holdCells cells; run)) (Run.scope (do Run.holdCells cells; runTwin)) := by
  refine scope (bind (fun _ => World.Sees engine proxy scene twin)
    (Agrees.holdCells cells).agreesFrom (fun _ was ran ranTwin _ _ => ?_) fun _ => agrees)
  cases ran
  cases ranTwin
  exact was.2.of_same rfl rfl rfl rfl

/-- What follows a look is given scenes that are related. -/
theorem look [SceneRelation related] {next nextTwin : Scene → ScriptRun Next}
    (second : ∀ {scene twin}, related scene twin →
      AgreesFrom free cut (World.FacesNow engine proxy related scene twin) goal (next scene)
        (nextTwin twin)) :
    AgreesFrom free cut (World.Faces engine proxy related) goal
      (Binding.look engine proxy >>= next) (Binding.look engine proxy >>= nextTwin) := by
  intro left right alike faces
  cases reached : left.targetOf proxy with
  | error error =>
    have lost : right.targetOf proxy = .error error :=
      (alike.observe (·.targetOf proxy) fun _ => rfl).symm.trans reached
    have fails (world : World) (failing : world.targetOf proxy = .error error) :
        (Binding.look engine proxy).outcome world = (.error (.raised error), world) := by
      rw [outcome_look, failing]
    rw [outcome_bind_of_error (fails left reached), outcome_bind_of_error (fails right lost)]
    exact .of_error _ alike
  | ok value =>
    have sees : World.Sees engine proxy _ _ left right := ⟨value, reached, rfl, rfl⟩
    refine (look_agreesFrom _ _ alike sees).bind fun {_ _ _ _} ran ranTwin looked after => ?_
    have same := look_same engine proxy left
    have sameTwin := look_same engine proxy right
    rw [ran] at same
    rw [ranTwin] at sameTwin
    obtain ⟨rfl, rfl⟩ := looked
    refine second (faces.shown alike.bare sees) after ⟨?_, ?_⟩
    · exact faces.wanes alike.bare (.of_same same.1 same.2) (.of_same sameTwin.1 sameTwin.2)
        after.bare
    · exact sees.of_same same.1 same.2 sameTwin.1 sameTwin.2

/-- What follows the subject of a proxy is given that of what the proxy shows. -/
theorem subject [SceneRelation related] {next nextTwin : Subject → ScriptRun Next}
    (second : ∀ {scene twin}, related scene twin →
      AgreesFrom free cut (World.FacesNow engine proxy related scene twin) goal
        (next scene.subject) (nextTwin scene.subject)) :
    AgreesFrom free cut (World.Faces engine proxy related) goal (subjectOf proxy >>= next)
      (subjectOf proxy >>= nextTwin) := by
  intro left right alike faces
  have leads := outcome_subjectOf proxy left
  have leadsTwin := outcome_subjectOf proxy right
  have target : right.targetOf proxy = left.targetOf proxy :=
    (alike.observe (·.targetOf proxy) fun _ => rfl).symm
  rw [target] at leadsTwin
  cases reached : left.targetOf proxy with
  | error error =>
    rw [reached] at leads leadsTwin
    rw [outcome_bind_of_error leads, outcome_bind_of_error leadsTwin]
    exact .of_error _ alike
  | ok value =>
    have sees : World.Sees engine proxy _ _ left right := ⟨value, reached, rfl, rfl⟩
    have subject : subjectIn right.store value = subjectIn left.store value :=
      (alike.observe (subjectIn ·.store value) fun world => subjectIn_bare world.store value).symm
    have after := alike.commute (·.holding value.cells) (fun _ => rfl) fun _ => rfl
    rw [reached] at leads leadsTwin
    dsimp only at leads leadsTwin
    rw [subject] at leadsTwin
    rw [outcome_bind_of_ok leads, outcome_bind_of_ok leadsTwin]
    exact second (faces.shown alike.bare sees) after
      ⟨faces.wanes alike.bare (.of_same rfl rfl) (.of_same rfl rfl) after.bare,
        sees.of_same rfl rfl rfl rfl⟩

/-- What follows a scene of the subject is given what the proxy shows. -/
theorem sceneOf {next nextTwin : Scene → ScriptRun Next}
    (second : Agrees free cut goal (next scene) (nextTwin twin)) :
    AgreesFrom free cut (World.FacesNow engine proxy related scene twin) goal
      (Binding.sceneOf engine proxy scene.subject >>= next)
      (Binding.sceneOf engine proxy scene.subject >>= nextTwin) := by
  rintro left right alike ⟨-, value, -, rfl, rfl⟩
  exact second alike

/-- What follows the default member is given the names that calls look for. -/
theorem callName {next nextTwin : Option String → ScriptRun Next}
    (second : AgreesFrom free cut (World.FacesNow engine proxy related scene twin) goal
      (next scene.callName?) (nextTwin twin.callName?)) :
    AgreesFrom free cut (World.FacesNow engine proxy related scene twin) goal
      (defaultMember? engine proxy scene.subject >>= next)
      (defaultMember? engine proxy scene.subject >>= nextTwin) := by
  rintro left right alike ⟨faces, sees⟩
  have shows := sees
  obtain ⟨value, -, rfl, rfl⟩ := shows
  have named := outcome_defaultMember?_eq engine proxy (subjectIn left.store value)
  exact (congrArg (Agree free cut goal · _) (outcome_bind_of_ok (named left))).mpr
    ((congrArg (Agree free cut goal _ ·) (outcome_bind_of_ok (named right))).mpr
      (second alike ⟨faces, sees⟩))

end Run.AgreesFrom

end

end ScriptBridge
