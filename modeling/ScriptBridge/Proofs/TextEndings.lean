/-
This file shows for which values asking for a text comes to an end. The text of a script
array includes those of its items, and the text of a box that of what it holds. Script can
put an array into itself and make a box hold itself, so there may be rings. Where none of
what a text includes is included in itself, the text is found within some depth, and where
there is more depth it is no other. Where something is, no depth is enough: asking for the
text goes round until it is stopped. Only a proxy that leads nowhere makes it fail.
-/

import Mathlib.Data.Finite.Sum
import ScriptBridge.Proofs.CallForms
import ScriptBridge.Proofs.Foundedness
import ScriptBridge.Proofs.TextCalls

namespace ScriptBridge

open Run World Binding

/-! ### What a text includes -/

/-- What has a text that may include others: a value of script, or a box. -/
inductive TextPart
  | script (value : Script.Value)
  | box (cell : CellId)

namespace World

/-- Does the text of the second include that of the first? -/
inductive Includes (world : World) : TextPart → TextPart → Prop
  | item {cell : CellId} {item : Script.Value}
      (member : item ∈ (world.store.scriptItems cell).toList) :
      Includes world (.script item) (.script (.array cell))
  | target {proxy box : CellId} (leads : world.targetOf proxy = .ok (.box box)) :
      Includes world (.box box) (.script (.proxy proxy))
  | content {outer inner : CellId} (holds : world.store.boxValue outer = .box inner) :
      Includes world (.box inner) (.box outer)

/-- Does what the text of the value includes come to an end? -/
def IsTellable (world : World) (value : Script.Value) : Prop :=
  Acc world.Includes (.script value)

/-- Does the text of the value include that of the proxy? -/
def IncludesProxy (world : World) (value : Script.Value) (proxy : CellId) : Prop :=
  Relation.ReflTransGen world.Includes (.script (.proxy proxy)) (.script value)

/-- Is the text of the proxy that of what it leads to? There is no capability behind it, and script
sees no member that answers for its text. -/
def HasOwnText (world : World) (engine : EngineId) (proxy : CellId) : Prop :=
  ∀ target, world.targetOf proxy = .ok target → world.dynamicBehind? proxy = none ∧
    ((sceneIn world engine proxy (subjectIn world.store target)).lookup toStringName).visible = []

variable {world : World} {engine : EngineId} {value item : Script.Value} {proxy cell : CellId}

theorem IncludesProxy.of_eq (same : value = .proxy proxy) : world.IncludesProxy value proxy := by
  subst same
  exact .refl

theorem IncludesProxy.of_item (member : item ∈ (world.store.scriptItems cell).toList)
    (includesProxy : world.IncludesProxy item proxy) :
    world.IncludesProxy (.array cell) proxy :=
  includesProxy.tail (.item member)

/-- Only a script array has items. -/
theorem lt_size_of_mem_scriptItems (member : item ∈ (world.store.scriptItems cell).toList) :
    cell < world.store.cells.size := by
  cases found : world.store.get? cell with
  | none =>
    unfold Store.scriptItems at member
    rw [found] at member
    cases member
  | some contents => exact Store.lt_size_of_get? found

/-- Only a box holds a box. -/
theorem lt_size_of_boxValue {outer inner : CellId}
    (holds : world.store.boxValue outer = .box inner) : outer < world.store.cells.size := by
  cases found : world.store.get? outer with
  | none =>
    unfold Store.boxValue at holds
    rw [found] at holds
    cases holds
  | some contents => exact Store.lt_size_of_get? found

/-- Only a proxy leads to a box. -/
theorem lt_size_of_targetOf {box : CellId} (leads : world.targetOf proxy = .ok (.box box)) :
    proxy < world.store.cells.size := by
  cases found : world.store.get? proxy with
  | none =>
    unfold World.targetOf Store.proxy at leads
    rw [found] at leads
    dsimp only at leads
    split at leads
    · cases leads
    · cases leads
  | some contents => exact Store.lt_size_of_get? found

/-- Cells are finitely many. So what the text of a value includes comes to an end exactly if none
of it is included in itself. -/
theorem isTellable_iff : world.IsTellable value ↔
    ∀ part, Relation.ReflTransGen world.Includes part (.script value) →
      ¬Relation.TransGen world.Includes part part := by
  let place : Fin world.store.cells.size ⊕ Fin world.store.cells.size ⊕
      Fin world.store.cells.size → TextPart
    | .inl cell => .script (.array cell)
    | .inr (.inl cell) => .script (.proxy cell)
    | .inr (.inr cell) => .box cell
  refine acc_iff_ringless place fun includes => ?_
  cases includes with
  | item member => exact ⟨.inl ⟨_, lt_size_of_mem_scriptItems member⟩, rfl⟩
  | target leads => exact ⟨.inr (.inl ⟨_, lt_size_of_targetOf leads⟩), rfl⟩
  | content holds => exact ⟨.inr (.inr ⟨_, lt_size_of_boxValue holds⟩), rfl⟩

/-! ### Boxes -/

theorem isSome_textWithin?_of_unboxed {target : Host.Value}
    (unboxed : ∀ cell, target ≠ .box cell) (boxes : Nat) :
    (world.store.textWithin? boxes target).isSome = true := by
  cases target with
  | box cell => exact absurd rfl (unboxed cell)
  | _ => cases boxes <;> rfl

/-- A box that has a text leads through boxes to what is none. -/
theorem acc_of_isSome_textWithin? {boxes : Nat} {cell : CellId}
    (found : (world.store.textWithin? boxes (.box cell)).isSome = true) :
    Acc world.Includes (.box cell) := by
  induction boxes generalizing cell with
  | zero => cases found
  | succ boxes inductionHypothesis =>
    refine .intro _ fun part includes => ?_
    cases includes with
    | content holds =>
      refine inductionHypothesis ?_
      rw [← holds]
      exact found

/-- The boxes gone through are different ones, so as many are left as there are cells besides. -/
theorem isSome_textWithin?_of_acc {part : TextPart} (ends : Acc world.Includes part) :
    ∀ (visited : List (Fin world.store.cells.size)) {cell : CellId}, part = .box cell →
      visited.Nodup →
      (∀ outer ∈ visited, Relation.TransGen world.Includes part (.box outer)) →
      (world.store.textWithin? (world.store.cells.size + 1 - visited.length)
        (.box cell)).isSome = true := by
  induction ends with
  | intro part inner inductionHypothesis =>
    rintro visited cell rfl different passed
    have few : visited.length ≤ world.store.cells.size := by
      simpa using different.length_le_card
    rw [Nat.sub_add_comm few]
    show (world.store.textWithin? _ (world.store.boxValue cell)).isSome = true
    cases holds : world.store.boxValue cell with
    | box content =>
      let here : Fin world.store.cells.size := ⟨cell, lt_size_of_boxValue holds⟩
      have fresh : here ∉ visited := fun member =>
        not_acc_of_ring (passed here member) (.intro _ inner)
      have deeper := inductionHypothesis _ (.content holds) (here :: visited) rfl
        (different.cons fresh) fun outer member => by
          rcases List.mem_cons.mp member with rfl | member
          · exact .single (.content holds)
          · exact .head (.content holds) (passed outer member)
      rwa [List.length_cons, Nat.add_sub_add_right] at deeper
    | _ => exact isSome_textWithin?_of_unboxed (by rintro _ ⟨⟩) _

/-- A host value has a text exactly if it is no box, or one that leads through boxes to what is
none. -/
theorem isSome_text?_iff {target : Host.Value} : (world.store.text? target).isSome = true ↔
    ∀ cell, target = .box cell → Acc world.Includes (.box cell) := by
  constructor
  · rintro found cell rfl
    exact acc_of_isSome_textWithin? found
  · intro ends
    by_cases boxed : ∃ cell, target = .box cell
    · obtain ⟨cell, rfl⟩ := boxed
      exact isSome_textWithin?_of_acc (ends cell rfl) [] rfl .nil nofun
    · exact isSome_textWithin?_of_unboxed (fun cell boxes => boxed ⟨cell, boxes⟩) _

/-- The text of a proxy comes to an end if it leads nowhere, or to what has a text. -/
theorem isTellable_proxy_iff : world.IsTellable (.proxy proxy) ↔
    ∀ target, world.targetOf proxy = .ok target → (world.store.text? target).isSome = true := by
  constructor
  · refine fun tellable target leads => isSome_text?_iff.mpr ?_
    rintro cell rfl
    exact tellable.inv (.target leads)
  · refine fun found => .intro _ fun part includes => ?_
    cases includes with
    | target leads => exact isSome_text?_iff.mp (found _ leads) _ rfl

end World

/-! ### Settling -/

section

variable {Result Next : Type}

/-- Is there a depth within which the outcome is a proper one, and beyond which it is no other? -/
def Settles (outcome : Nat → Except (Halt ScriptError) Result) : Prop :=
  ∃ depth ending, ending ≠ .error .exhausted ∧ ∀ deeper, depth ≤ deeper → outcome deeper = ending

namespace Settles

variable {outcome : Nat → Except (Halt ScriptError) Result}

theorem const {ending : Except (Halt ScriptError) Result} (same : ∀ depth, outcome depth = ending)
    (proper : ending ≠ .error .exhausted) : Settles outcome :=
  ⟨0, ending, proper, fun depth _ => same depth⟩

theorem of_succ (settles : Settles fun depth => outcome (depth + 1)) : Settles outcome := by
  obtain ⟨depth, ending, proper, stays⟩ := settles
  refine ⟨depth + 1, ending, proper, fun deeper enough => ?_⟩
  obtain ⟨more, rfl⟩ := Nat.exists_eq_add_of_le' enough
  exact stays _ (Nat.le_of_succ_le_succ enough)

theorem bind {next : Nat → Result → Except (Halt ScriptError) Next} (first : Settles outcome)
    (second : ∀ result, Settles fun depth => next depth result) :
    Settles fun depth => outcome depth >>= next depth := by
  obtain ⟨depth, error | result, proper, stays⟩ := first
  · refine ⟨depth, .error error, fun same => proper ?_, fun deeper enough => ?_⟩
    · cases same
      rfl
    · show outcome deeper >>= _ = _
      rw [stays deeper enough]
      rfl
  · obtain ⟨other, ending, properToo, staysToo⟩ := second result
    refine ⟨max depth other, ending, properToo, fun deeper enough => ?_⟩
    show outcome deeper >>= _ = _
    rw [stays deeper ((Nat.le_max_left _ _).trans enough)]
    exact staysToo deeper ((Nat.le_max_right _ _).trans enough)

/-- The outcome for a list settles if that for each item does. -/
theorem mapM {Item : Type} {outcomes : Nat → Item → Except (Halt ScriptError) Result}
    {items : List Item} (settle : ∀ item ∈ items, Settles fun depth => outcomes depth item) :
    Settles fun depth => items.mapM (outcomes depth) := by
  induction items with
  | nil => exact .const (fun _ => List.mapM_nil) nofun
  | cons item rest inductionHypothesis =>
    simp only [List.mapM_cons]
    refine .bind (settle item List.mem_cons_self) fun result => ?_
    refine .bind (inductionHypothesis fun other member =>
      settle other (List.mem_cons_of_mem _ member)) fun results => ?_
    exact .const (fun _ => rfl) nofun

end Settles

/-- Results for a list are made of one for each item. -/
theorem mapM_eq_ok {Failure Item : Type} {one : Item → Except Failure Result} {items : List Item}
    {results : List Result} (made : items.mapM one = .ok results) :
    ∀ item ∈ items, ∃ result, one item = .ok result := by
  induction items generalizing results with
  | nil => exact nofun
  | cons item rest inductionHypothesis =>
    rw [List.mapM_cons] at made
    rcases first : one item with error | result
    · rw [first] at made
      cases made
    · rcases others : rest.mapM one with error | between
      · rw [first, others] at made
        cases made
      · exact List.forall_mem_cons.mpr ⟨⟨result, first⟩, inductionHypothesis others⟩

/-- What fails for a list fails for an item. -/
theorem mapM_eq_error {Failure Item : Type} {one : Item → Except Failure Result}
    {items : List Item} {error : Failure} (failed : items.mapM one = .error error) :
    ∃ item ∈ items, one item = .error error := by
  induction items with
  | nil => cases failed
  | cons item rest inductionHypothesis =>
    rw [List.mapM_cons] at failed
    rcases first : one item with error | result
    · rw [first] at failed
      cases failed
      exact ⟨item, List.mem_cons_self, first⟩
    · rcases others : rest.mapM one with error | between
      · rw [first, others] at failed
        cases failed
        obtain ⟨other, member, fails⟩ := inductionHypothesis others
        exact ⟨other, List.mem_cons_of_mem _ member, fails⟩
      · rw [first, others] at failed
        cases failed

end

/-! ### Texts within a depth -/

namespace World

variable {world : World} {engine : EngineId} {value item : Script.Value} {proxy cell : CellId}
  {texts : Script.Value → Except (Halt ScriptError) String}

/-- The text of a host value. -/
def hostText (world : World) (target : Host.Value) : Except (Halt ScriptError) String :=
  match world.store.text? target with
  | some text => .ok text
  | none => .error .exhausted

/-- The text of what a proxy leads to. -/
def proxyText (world : World) (proxy : CellId) : Except (Halt ScriptError) String :=
  match world.targetOf proxy with
  | .error error => .error (.raised error)
  | .ok target => world.hostText target

/-- The text of a value, given those of items. -/
def textGiven (world : World) (texts : Script.Value → Except (Halt ScriptError) String) :
    Script.Value → Except (Halt ScriptError) String
  | .undefined => .ok "undefined"
  | .null | .wrappedNull _ => .ok "null"
  | .bool flag => .ok (toString flag)
  | .int number => .ok (toString number.toInt)
  | .double number => .ok (Script.numberText number)
  | .string text => .ok text
  | .proxy proxy => world.proxyText proxy
  | .array cell => do
    let items ← (world.store.scriptItems cell).toList.mapM texts
    return ",".intercalate items
  | .object _ => .ok "[object Object]"
  | other => .ok (world.describe other)

/-- The text of a value, as far as the depth reaches. -/
def textWithin (world : World) : Nat → Script.Value → Except (Halt ScriptError) String
  | 0 => world.textGiven fun _ => .error .exhausted
  | depth + 1 => world.textGiven (world.textWithin depth)

theorem textGiven_array : world.textGiven texts (.array cell) = do
    let items ← (world.store.scriptItems cell).toList.mapM texts
    return ",".intercalate items := rfl

theorem hostText_eq_exhausted {target : Host.Value} :
    world.hostText target = .error .exhausted ↔ world.store.text? target = none := by
  unfold hostText
  cases world.store.text? target with
  | none => exact iff_of_true rfl rfl
  | some text => exact iff_of_false nofun nofun

theorem proxyText_eq_exhausted : world.proxyText proxy = .error .exhausted ↔
    ¬world.IsTellable (.proxy proxy) := by
  rw [isTellable_proxy_iff]
  unfold proxyText
  rcases world.targetOf proxy with error | target
  · exact iff_of_false nofun fun endless => endless nofun
  · dsimp only
    rw [hostText_eq_exhausted, ← Option.not_isSome_iff_eq_none]
    exact not_congr ⟨fun found _ same => by cases same; exact found, fun found => found target rfl⟩

theorem proxyText_eq_raised {error : ScriptError} :
    world.proxyText proxy = .error (.raised error) ↔ world.targetOf proxy = .error error := by
  unfold proxyText
  rcases world.targetOf proxy with lost | target
  · exact ⟨fun same => by cases same; rfl, fun same => by cases same; rfl⟩
  · refine iff_of_false (fun raised => ?_) nofun
    dsimp only at raised
    unfold hostText at raised
    split at raised
    · cases raised
    · cases raised

/-- What has a text comes to an end, if the items that have one do. -/
theorem isTellable_of_textGiven {text : String} (made : world.textGiven texts value = .ok text)
    (items : ∀ {item text}, texts item = .ok text → world.IsTellable item) :
    world.IsTellable value := by
  cases value with
  | proxy proxy =>
    by_contra endless
    have exhausted : world.proxyText proxy = _ := proxyText_eq_exhausted.mpr endless
    cases exhausted.symm.trans made
  | array cell =>
    refine .intro _ fun part includes => ?_
    cases includes with
    | item member =>
      rw [textGiven_array] at made
      rcases found : (world.store.scriptItems cell).toList.mapM texts with error | between
      · rw [found] at made
        cases made
      · obtain ⟨text, has⟩ := mapM_eq_ok found _ member
        exact items has
  | _ => exact .intro _ nofun

/-- A value fails to have a text for a proxy it includes that leads nowhere, if items do. -/
theorem exists_lost_of_textGiven {error : ScriptError}
    (failed : world.textGiven texts value = .error (.raised error))
    (items : ∀ {item}, texts item = .error (.raised error) →
      ∃ proxy, world.IncludesProxy item proxy ∧ world.targetOf proxy = .error error) :
    ∃ proxy, world.IncludesProxy value proxy ∧ world.targetOf proxy = .error error := by
  cases value with
  | proxy proxy => exact ⟨proxy, .of_eq rfl, proxyText_eq_raised.mp failed⟩
  | array cell =>
    rw [textGiven_array] at failed
    rcases found : (world.store.scriptItems cell).toList.mapM texts with halt | between
    · rw [found] at failed
      cases failed
      obtain ⟨item, member, fails⟩ := mapM_eq_error found
      obtain ⟨proxy, includesProxy, lost⟩ := items fails
      exact ⟨proxy, .of_item member includesProxy, lost⟩
    · rw [found] at failed
      cases failed
  | _ => cases failed

/-- What has a text within a depth comes to an end. -/
theorem isTellable_of_textWithin {depth : Nat} {text : String}
    (made : world.textWithin depth value = .ok text) : world.IsTellable value := by
  induction depth generalizing value text with
  | zero => exact isTellable_of_textGiven made nofun
  | succ depth inductionHypothesis => exact isTellable_of_textGiven made inductionHypothesis

/-- Only a proxy that leads nowhere makes a value fail to have a text, other than for want of
depth. -/
theorem exists_lost_of_textWithin {depth : Nat} {error : ScriptError}
    (failed : world.textWithin depth value = .error (.raised error)) :
    ∃ proxy, world.IncludesProxy value proxy ∧ world.targetOf proxy = .error error := by
  induction depth generalizing value with
  | zero => exact exists_lost_of_textGiven failed nofun
  | succ depth inductionHypothesis => exact exists_lost_of_textGiven failed inductionHypothesis

/-- The text of what comes to an end settles. -/
theorem textWithin_settles {part : TextPart} (ends : Acc world.Includes part) :
    ∀ value, part = .script value → Settles fun depth => world.textWithin depth value := by
  induction ends with
  | intro part inner inductionHypothesis =>
    rintro value rfl
    have settled {ending : Except (Halt ScriptError) String}
        (same : ∀ texts, world.textGiven texts value = ending)
        (proper : ending ≠ .error .exhausted) :
        Settles fun depth => world.textWithin depth value := by
      refine .const (fun depth => ?_) proper
      cases depth with
      | zero => exact same _
      | succ depth => exact same _
    cases value with
    | proxy proxy =>
      refine settled (fun _ => rfl) fun exhausted => ?_
      exact proxyText_eq_exhausted.mp exhausted (.intro _ inner)
    | array cell =>
      refine .of_succ (.bind (.mapM fun item member => ?_) fun results => ?_)
      · exact inductionHypothesis _ (.item member) item rfl
      · exact .const (fun _ => rfl) nofun
    | _ => exact settled (fun _ => rfl) nofun

end World

/-! ### Runs that tell -/

/-- Does the run, from any world that goes on from the start by glances alone, end like that, and
leave such a world? -/
def Run.EndsLike {Result : Type} (start : World) (run : ScriptRun Result)
    (ending : Except (Halt ScriptError) Result) : Prop :=
  ∀ world, start.Glances world →
    start.Glances (run.outcome world).2 ∧ (run.outcome world).1 = ending

namespace Run.EndsLike

variable {Result Next : Type} {start : World} {run : ScriptRun Result}
  {ending : Except (Halt ScriptError) Result}

theorem pure (result : Result) :
    EndsLike start (Pure.pure result : ScriptRun Result) (.ok result) :=
  fun _ glances => ⟨glances, rfl⟩

theorem exhausted : EndsLike start (Run.exhausted : ScriptRun Result) (.error .exhausted) :=
  fun _ glances => ⟨glances, rfl⟩

theorem bind {next : Result → ScriptRun Next} {endings : Result → Except (Halt ScriptError) Next}
    (first : EndsLike start run ending) (second : ∀ result, EndsLike start (next result)
      (endings result)) : EndsLike start (run >>= next) (ending >>= endings) := by
  intro world glances
  obtain ⟨goesOn, ends⟩ := first world glances
  rw [outcome_bind]
  generalize run.outcome world = outcome at goesOn ends
  obtain ⟨halt | result, after⟩ := outcome
  · cases ends
    exact ⟨goesOn, rfl⟩
  · cases ends
    exact second result after goesOn

theorem scope (ends : EndsLike start run ending) : EndsLike start (Run.scope run) ending := by
  intro world glances
  obtain ⟨goesOn, same⟩ := ends world glances
  rw [outcome_scope]
  exact ⟨RunRelation.trans goesOn (RunRelation.held _ _), same⟩

theorem holdCells (cells : List CellId) (ends : EndsLike start run ending) :
    EndsLike start (do Run.holdCells cells; run) ending := by
  intro world glances
  rw [outcome_bind_of_ok (outcome_holdCells _ _)]
  exact ends _ (RunRelation.trans glances (RunRelation.held _ _))

theorem readStore {Part : Type} {part : Store → Part} {next : Part → ScriptRun Result}
    (ends : EndsLike start (next (part start.store)) ending) :
    EndsLike start (Run.readStore part >>= next) ending := by
  intro world glances
  rw [outcome_bind_of_ok (outcome_readStore _ _), glances.store]
  exact ends world glances

end Run.EndsLike

namespace World

variable {world : World} {engine : EngineId} {value item : Script.Value} {proxy cell : CellId}
  {texts : Script.Value → Except (Halt ScriptError) String} {calls : Calls}

theorem valueText_endsLike (target : Host.Value) :
    Run.EndsLike world (valueText target) (world.hostText target) := by
  intro between glances
  have read : (valueText target : ScriptRun String).outcome between =
      (world.hostText target, between) := by
    unfold valueText hostText
    rw [outcome_bind_of_ok (outcome_readStore _ _), glances.store]
    cases world.store.text? target with
    | none => rfl
    | some text => rfl
  rw [read]
  exact ⟨glances, rfl⟩

/-- The call of the name of texts tells the text of what the proxy leads to. -/
theorem HasOwnText.invoke_endsLike (own : world.HasOwnText engine proxy) (calls : Calls) :
    Run.EndsLike world (Binding.invoke calls engine proxy toStringName [])
      (do return .string (← world.proxyText proxy)) := by
  intro between glances
  have same : between.targetOf proxy = world.targetOf proxy := glances.targetOf
  unfold proxyText
  rcases leads : world.targetOf proxy with error | target
  · rw [outcome_invoke_of_error (same.trans leads)]
    exact ⟨glances, rfl⟩
  · obtain ⟨plain, unseen⟩ := own target leads
    obtain ⟨looked, looks, called⟩ := outcome_invoke_of_plain (same.trans leads)
      (glances.dynamicBehind?.trans plain) calls engine toStringName []
    have scenes : sceneIn between engine proxy (subjectIn between.store target) =
        sceneIn world engine proxy (subjectIn world.store target) := by
      unfold sceneIn World.engine
      rw [glances.store, glances.engines]
    let scene := sceneIn world engine proxy (subjectIn world.store target)
    have found : (invokeFound calls engine scene toStringName []).outcome looked =
        (do return .string (← valueText target) : ScriptRun Script.Value).outcome looked := by
      unfold invokeFound
      rw [unseen]
      show (invokeOther calls engine (subjectIn world.store target) toStringName []).outcome _ = _
      rw [← glances.store, ← looks.store, outcome_invokeOther_text]
    rw [called, scenes, found]
    have tells : Run.EndsLike world
        (do return .string (← valueText target) : ScriptRun Script.Value) _ :=
      .bind (valueText_endsLike target) fun text => .pure (Script.Value.string text)
    obtain ⟨goesOn, ends⟩ := tells looked (RunRelation.trans glances looks)
    exact ⟨RunRelation.trans goesOn (RunRelation.held _ _), ends⟩

/-- The texts of items are told one after another. -/
theorem textsOf_endsLike {items : List Script.Value}
    (tell : ∀ item ∈ items, Run.EndsLike world (calls.toText engine item) (texts item)) :
    Run.EndsLike world (Script.textsOf calls engine items) (items.mapM texts) := by
  induction items with
  | nil => exact .pure []
  | cons item rest inductionHypothesis =>
    rw [List.mapM_cons]
    refine .bind (tell item List.mem_cons_self) fun text => .bind ?_ fun others => .pure _
    exact inductionHypothesis fun other member => tell other (List.mem_cons_of_mem _ member)

theorem describe_endsLike (value : Script.Value) :
    Run.EndsLike world (Run.describe value) (.ok (world.describe value)) := by
  intro between glances
  refine ⟨glances, congrArg Except.ok ?_⟩
  show between.describe value = world.describe value
  unfold World.describe
  rw [glances.store]
  cases value with
  | proxy proxy =>
    dsimp only
    rw [glances.targetOf]
  | _ => rfl

/-- A value tells its text, if items do and proxies have a text of their own. -/
theorem textOf_endsLike
    (tell : ∀ item, world.Includes (.script item) (.script value) →
      Run.EndsLike world (calls.toText engine item) (texts item))
    (own : ∀ proxy, value = .proxy proxy → world.HasOwnText engine proxy) :
    Run.EndsLike world (Script.textOf calls engine value) (world.textGiven texts value) := by
  refine .scope (.holdCells _ ?_)
  cases value with
  | proxy proxy =>
    have called := ((own proxy rfl).invoke_endsLike calls).bind fun answer =>
      .pure (answer.toString?.getD "")
    refine Eq.subst ?_ called
    show _ = world.proxyText proxy
    cases world.proxyText proxy with
    | error | ok => rfl
  | array cell =>
    refine .readStore (.bind (textsOf_endsLike fun item member => ?_) fun found => .pure _)
    exact tell item (.item member)
  | date | function | buffer | view | member => exact describe_endsLike _
  | _ => exact .pure _

/-- What can be started within a depth tells as much as the depth reaches. -/
theorem textOf_startWithin_endsLike {depth : Nat}
    (own : ∀ proxy, world.IncludesProxy value proxy → world.HasOwnText engine proxy) :
    Run.EndsLike world (Script.textOf (Script.startWithin depth) engine value)
      (world.textWithin depth value) := by
  induction depth generalizing value with
  | zero => exact textOf_endsLike (fun _ _ => .exhausted) fun proxy same => own proxy (.of_eq same)
  | succ depth inductionHypothesis =>
    refine textOf_endsLike (fun item includes => ?_) fun proxy same => own proxy (.of_eq same)
    exact inductionHypothesis fun proxy includesProxy => own proxy (includesProxy.tail includes)

end World

/-- Asking for the text of a value, whose proxies have texts of their own, comes to an end exactly
where what the text includes does, which is where none of it is included in itself. -/
theorem texts_settle_exactly_without_rings {world : World} {engine : EngineId}
    {value : Script.Value}
    (own : ∀ proxy, world.IncludesProxy value proxy → world.HasOwnText engine proxy) :
    let text depth := ((Script.textOf (Script.startWithin depth) engine value).outcome world).1
    (world.IsTellable value → Settles text) ∧
      (¬world.IsTellable value → ∀ depth found, text depth ≠ .ok found) ∧
      (∀ depth error, text depth = .error (.raised error) →
        ∃ proxy, world.IncludesProxy value proxy ∧ world.targetOf proxy = .error error) ∧
      (∀ proxy calls, world.IncludesProxy value proxy →
        (((Binding.invoke calls engine proxy toStringName []).outcome world).1 =
          .error .exhausted ↔ ¬world.IsTellable (.proxy proxy))) ∧
      (world.IsTellable value ↔ ∀ part,
        Relation.ReflTransGen world.Includes part (.script value) →
          ¬Relation.TransGen world.Includes part part) := by
  intro text
  have tells (depth : Nat) : text depth = world.textWithin depth value :=
    (textOf_startWithin_endsLike own world (RunRelation.refl world)).2
  refine ⟨fun tellable => ?_, fun endless depth found made => ?_, fun depth error failed => ?_,
    fun proxy calls includesProxy => ?_, isTellable_iff⟩
  · rw [show text = fun depth => world.textWithin depth value from funext tells]
    exact textWithin_settles tellable value rfl
  · exact endless (isTellable_of_textWithin ((tells depth).symm.trans made))
  · exact exists_lost_of_textWithin ((tells depth).symm.trans failed)
  · rw [((own proxy includesProxy).invoke_endsLike calls world (RunRelation.refl world)).2,
      ← proxyText_eq_exhausted]
    cases world.proxyText proxy with
    | error halt => exact ⟨fun same => by cases same; rfl, fun same => by cases same; rfl⟩
    | ok text => exact iff_of_false nofun nofun

/-! ### A variable and an array put into themselves -/

/-- A variable that holds nothing, a proxy of it, and a script array with the proxy in it. -/
def World.withVariable : World where
  store := { cells := #[some (.box .object .undefined),
    some (.proxy ⟨0, .reference (.box 0), none, .none⟩), some (.scriptArray #[.proxy 1])] }
  engines := #[Engine.new "main" {} none]

/-- While the variable holds nothing, the text of the array settles. -/
theorem texts_settle_exactly_without_rings_of_array :
    (∀ proxy, World.withVariable.IncludesProxy (.array 2) proxy →
      World.withVariable.HasOwnText 0 proxy) ∧
      Settles fun depth =>
        ((Script.textOf (Script.startWithin depth) 0 (.array 2)).outcome .withVariable).1 := by
  have inArray {part : TextPart}
      (includes : World.withVariable.Includes part (.script (.array 2))) :
      part = .script (.proxy 1) := by
    cases includes with
    | item member => exact congrArg TextPart.script (List.mem_singleton.mp member)
  have inProxy {part : TextPart}
      (includes : World.withVariable.Includes part (.script (.proxy 1))) : part = .box 0 := by
    cases includes with
    | target leads =>
      cases leads
      rfl
  have inBox {part : TextPart} (includes : World.withVariable.Includes part (.box 0)) : False := by
    cases includes with
    | content holds => cases holds
  have own (proxy : CellId) (includesProxy : World.withVariable.IncludesProxy (.array 2) proxy) :
      World.withVariable.HasOwnText 0 proxy := by
    obtain same | ⟨middle, within, includes⟩ := includesProxy.cases_tail
    · cases same
    · cases inArray includes
      obtain same | ⟨middle, within, includes⟩ := within.cases_tail
      · cases same
        rintro _ ⟨⟩
        exact ⟨rfl, rfl⟩
      · cases inProxy includes
        obtain same | ⟨_, _, includes⟩ := within.cases_tail
        · cases same
        · cases inBox includes
  refine ⟨own, (texts_settle_exactly_without_rings own).1 ?_⟩
  refine .intro _ fun _ includes => ?_
  cases inArray includes
  refine .intro _ fun _ includes => ?_
  cases inProxy includes
  exact .intro _ fun _ includes => (inBox includes).elim

/-- A variable and an array that are put into themselves have no text within any depth. -/
theorem rings_have_no_text :
    let assigned := (Script.setProperty (Script.startWithin 1) 0 (.proxy 1) "value"
      (.proxy 1)).outcome .withVariable
    let filled := (Script.writeIndex (Script.startWithin 1) 0 (.array 2) [.int 0]
      (.array 2)).outcome .withVariable
    assigned.1 = .ok () ∧ filled.1 = .ok () ∧ ∀ depth,
      ((Binding.invoke (Script.startWithin depth) 0 1 toStringName []).outcome assigned.2).1 =
          .error .exhausted ∧
        ((Script.textOf (Script.startWithin depth) 0 (.array 2)).outcome filled.2).1 =
          .error .exhausted := by
  intro assigned filled
  refine ⟨by rfl, by rfl, fun depth => ⟨?_, ?_⟩⟩
  · have holds : assigned.2.store.boxValue 0 = .box 0 := by rfl
    have leads : assigned.2.targetOf 1 = .ok (.box 0) := by rfl
    have own : assigned.2.HasOwnText 0 1 := by
      intro target leadsToo
      cases leads.symm.trans leadsToo
      exact ⟨by rfl, by rfl⟩
    have endless : ¬assigned.2.IsTellable (.proxy 1) := fun tellable =>
      not_acc_of_ring (.single (.content holds)) (tellable.inv (.target leads))
    rw [(own.invoke_endsLike _ assigned.2 (RunRelation.refl _)).2,
      proxyText_eq_exhausted.mpr endless]
    rfl
  · have items : filled.2.store.scriptItems 2 = #[.array 2] := by rfl
    have within {part : TextPart}
        (reaches : Relation.ReflTransGen filled.2.Includes part (.script (.array 2))) :
        part = .script (.array 2) := by
      induction reaches using Relation.ReflTransGen.head_induction_on with
      | refl => rfl
      | head includes _ same =>
        subst same
        cases includes with
        | item member =>
          rw [items] at member
          exact congrArg TextPart.script (List.mem_singleton.mp member)
    have own (proxy : CellId) (includesProxy : filled.2.IncludesProxy (.array 2) proxy) :
        filled.2.HasOwnText 0 proxy := nomatch within includesProxy
    rw [(textOf_startWithin_endsLike own filled.2 (RunRelation.refl _)).2]
    induction depth with
    | zero =>
      show filled.2.textGiven _ (.array 2) = _
      rw [textGiven_array, items]
      rfl
    | succ depth inductionHypothesis =>
      show filled.2.textGiven _ (.array 2) = _
      rw [textGiven_array, items]
      show (do let items ← [Script.Value.array 2].mapM _; return ",".intercalate items) = _
      rw [List.mapM_cons, inductionHypothesis]
      rfl

end ScriptBridge
