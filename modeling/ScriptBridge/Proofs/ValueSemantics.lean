/-
This file proves that structs behind proxies are values. Whatever happens in a world is
made of moves, and a move that tells no write of a field leaves every proxy that goes on
living with the very contents it had; one that tells a write changes no cell but that of
the proxy it goes through. What is made of a struct behind a proxy, by marshaling it, by
handing it to another engine or by setting its capability aside, is a new proxy with the
same struct; what host code is given is the struct itself. So from then on each of them
changes only by writes through itself.
-/

import ScriptBridge.Proofs.CallForms
import ScriptBridge.Proofs.Moments
import ScriptBridge.Proofs.ProxyLives
import ScriptBridge.Proofs.Specificity

namespace ScriptBridge

open Host Binding Bridge Run

/-! ### Moves -/

/-- What a world goes through is made of this: steps of running code, and what the surroundings
do to engines and the rest, tell of policies, or put into a new cell. -/
inductive World.Moves : World → World → Prop
  | step {before after : World} (step : Step before after) : Moves before after
  | around {before after : World} (store : after.store = before.store)
      (history : after.history = before.history) : Moves before after
  | tell (world : World) (engine : EngineId) (policy : Policy) :
      Moves world { world with history := .governed engine policy :: world.history }
  | create (world : World) (contents : Cell) : Moves world (world.create contents).1

/-- Moves one after another. -/
abbrev World.Evolves : World → World → Prop := Relation.ReflTransGen World.Moves

/-- The proxy through which an event writes a field of a struct. -/
def Binding.MemberEvent.overwrites? : MemberEvent → Option CellId
  | .used ⟨scene, _, .writeField _⟩ => some scene.proxy
  | _ => none

/-- An event is told, and besides that no more than one cell has changed. -/
structure World.Touches (before after : World) (event : MemberEvent) (cell : CellId) : Prop where
  told : after = { before with history := event :: before.history, store := after.store }
  types : after.store.types = before.store.types
  others : ∀ other, other ≠ cell → after.store.get? other = before.store.get? other

/-- No write of a field is told, and a proxy in a cell that was there already is the one that it
was. -/
structure World.SparesProxies (before after : World) : Prop where
  told : ∃ events, after.history = events ++ before.history ∧
    ∀ event ∈ events, event.overwrites? = none
  proxies : ∀ {cell : CellId} {now : Proxy}, cell < before.store.cells.size →
    after.store.proxy? cell = some now → before.store.proxy? cell = some now

variable {before between after world : World} {event : MemberEvent} {cell : CellId}

/-! ### What moves do -/

namespace Binding

theorem overwrites?_of_writeField {use : MemberUse} {place : Nat}
    (writes : use.action = .writeField place) :
    (MemberEvent.used use).overwrites? = some use.scene.proxy := by
  obtain ⟨scene, slot, action⟩ := use
  dsimp only at writes
  rw [writes]
  rfl

theorem overwrites?_eq_none {use : MemberUse} (other : ∀ place, use.action ≠ .writeField place) :
    (MemberEvent.used use).overwrites? = none := by
  obtain ⟨scene, slot, action⟩ := use
  unfold MemberEvent.overwrites?
  split
  · next same =>
    cases same
    exact absurd rfl (other _)
  · rfl

end Binding

namespace World

/-- Where the cells are the same and nothing is told of writes, the proxies are spared. -/
theorem SparesProxies.of_store (store : after.store = before.store) (events : List MemberEvent)
    (told : after.history = events ++ before.history)
    (silent : ∀ event ∈ events, event.overwrites? = none) : before.SparesProxies after where
  told := ⟨events, told, silent⟩
  proxies _ found := by
    rw [store] at found
    exact found

theorem SparesProxies.of_event (store : after.store = before.store)
    (told : after.history = event :: before.history) (silent : event.overwrites? = none) :
    before.SparesProxies after :=
  .of_store store [event] told fun _ member => List.mem_singleton.mp member ▸ silent

end World

/-- A step spares the proxies, or it is a write of a field through one of them. -/
theorem Step.spares_or_touches (step : Step before after) :
    before.SparesProxies after ∨
      ∃ event cell, event.overwrites? = some cell ∧ before.Touches after event cell := by
  cases step with
  | change change =>
    refine .inl ⟨⟨[], change.keeps.history, List.forall_mem_nil _⟩, fun inside found => ?_⟩
    rw [Store.proxy?_eq_some] at found ⊢
    rcases change.keeps.cells found with same | ⟨outside, -⟩ | admits
    · exact same
    · exact absurd inside (Nat.not_lt_of_le outside)
    · exact absurd rfl (admits.plain _)
  | govern => exact .inl (.of_event rfl rfl rfl)
  | look => exact .inl (.of_event rfl rfl rfl)
  | offer => exact .inl (.of_event rfl rfl rfl)
  | @use use =>
    cases writes : (MemberEvent.used use).overwrites? with
    | none => exact .inl (.of_event rfl rfl writes)
    | some cell => exact .inr ⟨_, cell, writes, rfl, rfl, fun _ _ => rfl⟩
  | @call use label _ _ _ _ labelled =>
    refine .inl (.of_event rfl rfl (overwrites?_eq_none fun place writes => ?_))
    rw [writes] at labelled
    cases labelled
  | @overwrite use place value type fields _ _ writes =>
    refine .inr ⟨_, _, overwrites?_of_writeField writes, rfl, rfl, fun other apart => ?_⟩
    exact Store.get?_put_of_ne (Ne.symm apart)
  | @attach use attached object handler _ _ attaches =>
    refine .inl ⟨⟨[.used use], rfl, ?_⟩, fun {cell now} inside found => ?_⟩
    · refine List.forall_mem_singleton.mpr (overwrites?_eq_none fun place writes => ?_)
      rw [attaches] at writes
      cases writes
    · rw [Store.proxy?_eq_some] at found ⊢
      rcases Store.get?_put found with same | ⟨-, replaced⟩
      · exact same
      · cases replaced
  | modules => exact .inl (.of_store rfl [] rfl (List.forall_mem_nil _))

/-- A move spares the proxies, or it is a write of a field through one of them. -/
theorem World.Moves.spares_or_touches (moves : before.Moves after) :
    before.SparesProxies after ∨
      ∃ event cell, event.overwrites? = some cell ∧ before.Touches after event cell := by
  cases moves with
  | step step => exact step.spares_or_touches
  | around store history => exact .inl (.of_store store [] history (List.forall_mem_nil _))
  | tell => exact .inl (.of_event rfl rfl rfl)
  | create contents =>
    refine .inl ⟨⟨[], rfl, List.forall_mem_nil _⟩, fun inside found => ?_⟩
    rw [Store.proxy?_eq_some] at found ⊢
    exact (Store.get?_create_of_lt inside).symm.trans found

theorem World.Moves.size_le (moves : before.Moves after) :
    before.store.cells.size ≤ after.store.cells.size := by
  cases moves with
  | step step => exact step.size_le
  | around store => exact Nat.le_of_eq (by rw [store])
  | tell => exact Nat.le_refl _
  | create contents =>
    rw [show (before.create contents).1.store = (before.store.create contents).1 from rfl,
      Store.size_create]
    exact Nat.le_succ _

/-! ### What runs keep apart -/

/-- Since an earlier moment a history has told some events. A proxy that there was then and that
still lives is the very same, unless one of them writes a field through it; and at the moment of
each such write no cell has changed but that of its proxy. -/
structure World.KeepsApart (before after : World) (since : List MemberEvent) : Prop where
  told : after.history = since ++ before.history
  proxies : ∀ {cell : CellId} {now : Proxy}, cell < before.store.cells.size →
    after.store.proxy? cell = some now →
      before.store.proxy? cell = some now ∨ ∃ event ∈ since, event.overwrites? = some cell
  writes : ∀ event ∈ since, ∀ cell, event.overwrites? = some cell →
    ∃ moment next, before.Evolves moment ∧ moment.Touches next event cell ∧ next.Evolves after

namespace World

theorem Evolves.size_le (evolves : before.Evolves after) :
    before.store.cells.size ≤ after.store.cells.size := by
  induction evolves with
  | refl => exact Nat.le_refl _
  | tail _ last inductionHypothesis => exact Nat.le_trans inductionHypothesis last.size_le

/-- What spares the proxies keeps them apart. -/
theorem KeepsApart.spares {since : List MemberEvent} (apart : before.KeepsApart between since)
    (size_le : before.store.cells.size ≤ between.store.cells.size) (moves : between.Moves after)
    (spares : between.SparesProxies after) : ∃ since, before.KeepsApart after since := by
  obtain ⟨events, told, silent⟩ := spares.told
  refine ⟨events ++ since, ?_, fun inside found => ?_, fun event member cell writes => ?_⟩
  · rw [told, apart.told, List.append_assoc]
  · have former := spares.proxies (Nat.lt_of_lt_of_le inside size_le) found
    refine (apart.proxies inside former).imp_right ?_
    rintro ⟨event, member, writes⟩
    exact ⟨event, List.mem_append_right _ member, writes⟩
  · rcases List.mem_append.mp member with fresh | former
    · rw [silent event fresh] at writes
      cases writes
    · obtain ⟨moment, next, earlier, touches, later⟩ := apart.writes event former cell writes
      exact ⟨moment, next, earlier, touches, later.tail moves⟩

/-- A write through one of the proxies keeps the others apart. -/
theorem KeepsApart.touches {since : List MemberEvent} (apart : before.KeepsApart between since)
    (evolves : before.Evolves between) (moves : between.Moves after)
    (writes : event.overwrites? = some cell) (touches : between.Touches after event cell) :
    ∃ since, before.KeepsApart after since := by
  refine ⟨event :: since, ?_, fun {other now} inside found => ?_,
    fun former member other wrote => ?_⟩
  · rw [touches.told, apart.told]
    rfl
  · by_cases here : other = cell
    · rw [here]
      exact .inr ⟨event, List.mem_cons_self, writes⟩
    · rw [Store.proxy?_eq_some, touches.others other here, ← Store.proxy?_eq_some] at found
      refine (apart.proxies inside found).imp_right ?_
      rintro ⟨former, member, wrote⟩
      exact ⟨former, List.mem_cons_of_mem _ member, wrote⟩
  · rcases List.mem_cons.mp member with rfl | earlier
    · rw [writes] at wrote
      cases wrote
      exact ⟨between, after, evolves, touches, .refl⟩
    · obtain ⟨moment, next, begins, touches, later⟩ := apart.writes former earlier other wrote
      exact ⟨moment, next, begins, touches, later.tail moves⟩

/-- Whatever a world goes through keeps its proxies apart. -/
theorem Evolves.keepsApart (evolves : before.Evolves after) :
    ∃ since, before.KeepsApart after since := by
  induction evolves with
  | refl => exact ⟨[], rfl, fun _ found => .inl found, List.forall_mem_nil _⟩
  | tail earlier moves inductionHypothesis =>
    obtain ⟨since, apart⟩ := inductionHypothesis
    rcases moves.spares_or_touches with spares | ⟨event, cell, writes, touches⟩
    · exact apart.spares (Evolves.size_le earlier) moves spares
    · exact apart.touches earlier moves writes touches

end World

/-! ### What a world goes through -/

instance : RunRelation World.Evolves where
  refl _ := .refl
  trans := .trans
  held _ _ := .single (.around rfl rfl)

theorem World.Evolves.of_makings (makings : Makings before after) : before.Evolves after :=
  makings.related fun change _ _ => .single (.step (.change change))

instance : ChangeRelation World.Evolves where
  change change _ _ _ := .single (.step (.change change))

instance : ModuleRelation World.Evolves where
  step step _ _ _ _ := .single (.step step)
  connect := World.Connects.related fun step _ _ _ => .single (.step step)
  disconnect := World.Disconnects.related fun step _ _ _ => .single (.step step)
  convey _ _ makings _ _ := .of_makings makings
  dispose _ _ := .single (.around rfl rfl)
  modules _ _ _ := .single (.around rfl rfl)

instance : WorkspaceRelation World.Evolves where
  around _ store history := .single (.around store history)
  create _ _ _ _ := .single (.around rfl rfl)
  close _ _ := .single (.around rfl rfl)
  govern _ _ _ := .single (.around rfl rfl)
  tell world engine policy := .single (.tell world engine policy)

theorem World.Happens.evolves {depth : Nat}
    (happens : World.Happens (Script.startWithin depth) before after) : before.Evolves after :=
  happens.related World.Evolves.of_makings (fun world contents => .single (.create world contents))
    fun _ _ _ => .single (.around rfl rfl)

theorem World.Later.evolves {depth : Nat}
    (later : World.Later (Script.startWithin depth) before after) : before.Evolves after := by
  induction later with
  | refl => exact .refl
  | tail _ last inductionHypothesis => exact inductionHypothesis.trans last.evolves

/-! ### What is made of structs -/

variable {calls : Calls} {engine : EngineId} {proxy : CellId} {source : Proxy} {key : TypeKey}
  {fields : List Value} {value : Value} {flags : ItemFlags} {answer : Script.Value}

/-- A cell is new in a world, and holds a proxy of a value held by value. -/
def World.Boxes (before after : World) (cell : CellId) (value : Value) : Prop :=
  before.store.cells.size ≤ cell ∧
    ∃ proxy, after.store.proxy? cell = some proxy ∧ proxy.target = .boxed value

namespace Bridge

/-- A value that is boxed is in a proxy that was not there before. -/
theorem boxValue_eq_ok (made : (boxValue engine value flags).outcome world = (.ok cell, after)) :
    world.Boxes after cell value := by
  unfold boxValue at made
  rw [outcome_bind_of_ok (outcome_holdCells _ _)] at made
  obtain ⟨_, ready, reserved, made⟩ := outcome_bind_eq_ok.mp made
  have kept : Leaves World.KeepsTies (reserve engine) := reserve_leaves engine
  have grown := (kept (world.holding value.cells)).size_le
  rw [reserved] at grown
  unfold makeBoxed at made
  cases disposed : (ready.engine engine).isDisposed with
  | true =>
    rw [outcome_bind_of_error (outcome_requireCache_of_disposed disposed)] at made
    cases made
  | false =>
    rw [outcome_bind_of_ok (outcome_requireCache disposed), outcome_create] at made
    cases made
    exact ⟨grown, _, Store.proxy?_eq_some.mpr (Store.get?_create_size _ _), rfl⟩

end Bridge

/-- What is reached through a proxy that holds a value is that value. -/
theorem World.targetOf_of_boxed {other : Value}
    (boxed : (world.store.proxy proxy).target = .boxed value)
    (leads : world.targetOf proxy = .ok other) : value = other := by
  unfold World.targetOf at leads
  dsimp only at leads
  rw [boxed] at leads
  split at leads
  · cases leads
  · exact Except.ok.inj leads

/-- A struct behind a proxy is taken for an engine's script once more: as a host value that is
marshaled, by another engine, or with its capability set aside. -/
inductive World.CopiesStruct (calls : Calls) (proxy : CellId) (value : Value) (before : World) :
    Script.Value → World → Prop
  | marshal {engine : EngineId} {declared : TypeRef} {answer : Script.Value} {after : World}
      (ran : (toScript calls engine value declared).outcome before = (.ok answer, after)) :
      CopiesStruct calls proxy value before answer after
  | adopt {engine : EngineId} {answer : Script.Value} {after : World}
      (foreign : (before.store.proxy proxy).engine ≠ engine)
      (ran : (adopt engine (.proxy proxy)).outcome before = (.ok answer, after)) :
      CopiesStruct calls proxy value before answer after
  | static {engine : EngineId} {answer : Script.Value} {after : World}
      (ran : (runHelper calls engine .toStatic [.proxy proxy]).outcome before =
        (.ok answer, after)) :
      CopiesStruct calls proxy value before answer after

/-- Whatever takes a struct once more makes a proxy of its own of it. -/
theorem World.CopiesStruct.boxes
    (boxed : (before.store.proxy proxy).target = .boxed (.struct key fields))
    (copies : before.CopiesStruct calls proxy (.struct key fields) answer after) :
    ∃ cell, answer = .proxy cell ∧ before.Boxes after cell (.struct key fields) := by
  have proxied {engine : EngineId} {flags : ItemFlags} {answer : Script.Value} {start left : World}
      (made : (do return .proxy (← boxValue engine (.struct key fields) flags) :
        ScriptRun Script.Value).outcome start = (.ok answer, left))
      (grown : before.store.cells.size ≤ start.store.cells.size) :
      ∃ cell, answer = .proxy cell ∧ before.Boxes left cell (.struct key fields) := by
    obtain ⟨cell, between, boxes, made⟩ := outcome_bind_eq_ok.mp made
    cases made
    obtain ⟨fresh, found⟩ := boxValue_eq_ok boxes
    exact ⟨cell, rfl, Nat.le_trans grown fresh, found⟩
  cases copies with
  | @marshal engine declared _ _ ran =>
    rw [toScript, outcome_scope, outcome_bind_of_ok (outcome_holdCells _ _),
      outcome_bind_of_ok (outcome_engine _ _)] at ran
    rcases made : (do return .proxy (← boxValue engine (.struct key fields) .none) :
      ScriptRun Script.Value).outcome (before.holding (Value.struct key fields).cells) with
      ⟨halt | answer, left⟩
    · dsimp only at ran
      rw [made] at ran
      cases ran
    · dsimp only at ran
      rw [made] at ran
      cases ran
      obtain ⟨cell, same, fresh, found⟩ := proxied made (Nat.le_refl _)
      exact ⟨cell, same, fresh, found⟩
  | @adopt engine _ _ foreign ran =>
    unfold Bridge.adopt at ran
    rw [outcome_bind_of_ok (outcome_holdCells _ _),
      outcome_bind_of_ok (outcome_readStore _ _)] at ran
    let ready := before.holding (Script.Value.proxy proxy).cells
    have known : (ready.store.proxy proxy).target = .boxed (.struct key fields) := boxed
    have differs : ¬((ready.store.proxy proxy).engine == engine) = true :=
      fun same => foreign (beq_iff_eq.mp same)
    rw [if_neg differs, known] at ran
    exact proxied ran (Nat.le_refl _)
  | @static engine _ _ ran =>
    change (withoutDynamic engine (.proxy proxy)).outcome before = _ at ran
    unfold withoutDynamic at ran
    rw [outcome_bind_of_ok (outcome_readStore _ _)] at ran
    dsimp only at ran
    rw [boxed] at ran
    dsimp only at ran
    obtain ⟨value, between, reached, ran⟩ := outcome_bind_eq_ok.mp ran
    cases leads : before.targetOf proxy with
    | error error =>
      rw [outcome_target_of_error leads] at reached
      cases reached
    | ok target =>
      obtain rfl := targetOf_of_boxed boxed leads
      rw [outcome_target_of_ok leads] at reached
      cases reached
      exact proxied ran (Nat.le_refl _)

/-- A struct behind a proxy converts to itself, whatever type asks for it. -/
theorem Bridge.toHost_struct_eq_ok {script : Script.Value} {type : TypeRef}
    {converted : Converted} (leads : world.Leads script (.struct key fields))
    (made : (toHost engine script type).outcome world = (.ok converted, after)) :
    converted.value = .struct key fields := by
  induction type generalizing world with
  | nullable inner inductionHypothesis =>
    rw [outcome_toHost_of_leads leads] at made
    exact inductionHypothesis (leads.grows (.single (.held _ _))) made
  | object =>
    rw [outcome_toHost_untyped leads (.inl rfl)] at made
    cases made
    rfl
  | dynamic =>
    rw [outcome_toHost_untyped leads (.inr rfl)] at made
    cases made
    rfl
  | named type =>
    obtain ⟨-, rfl, -⟩ := (outcome_toHost_named_eq_ok engine leads rfl).mp made
    rfl
  | _ =>
    rw [outcome_toHost_of_leads leads] at made
    obtain ⟨cell, rfl, -⟩ := leads
    cases made

/-- A struct that a proxy holds is a value. Whatever happens later, every proxy that lives is as it
was unless a write went through it, and no write changes any other cell. What is made of the struct
for script is a new proxy that holds the same struct, and from then on the two are kept apart; only
the engine of the proxy itself is handed the very proxy. Converted for host code it is the struct
that the proxy holds at that moment. -/
theorem boxed_structs_have_value_semantics (depth : Nat) {world : World} {proxy : CellId}
    {key : TypeKey} {fields : List Value}
    (boxed : (world.store.proxy proxy).target = .boxed (.struct key fields)) :
    (∀ later, World.Later (Script.startWithin depth) world later →
      ∃ since, world.KeepsApart later since) ∧
    (∀ answer made, world.CopiesStruct (Script.startWithin depth) proxy (.struct key fields) answer
        made → ∃ copy, answer = .proxy copy ∧ copy ≠ proxy ∧
          (made.store.proxy copy).target = .boxed (.struct key fields) ∧
          ∀ later, World.Later (Script.startWithin depth) made later →
            ∃ since, made.KeepsApart later since) ∧
    (adopt (world.store.proxy proxy).engine (.proxy proxy)).outcome world =
      (.ok (.proxy proxy), world.holding [proxy]) ∧
    ∀ engine type converted after, world.targetOf proxy = .ok (.struct key fields) →
      (toHost engine (.proxy proxy) type).outcome world = (.ok converted, after) →
        converted.value = .struct key fields := by
  refine ⟨fun later happens => happens.evolves.keepsApart, fun answer made copies => ?_, ?_, ?_⟩
  · obtain ⟨copy, rfl, fresh, contents, found, same⟩ := copies.boxes boxed
    refine ⟨copy, rfl, ?_, ?_, fun later happens => happens.evolves.keepsApart⟩
    · rintro rfl
      exact Nat.not_lt_of_le fresh (Store.lt_size_of_get? (Store.get?_of_boxed boxed))
    · rw [Store.proxy_of_get? (Store.proxy?_eq_some.mp found)]
      exact same
  · unfold adopt
    rw [outcome_bind_of_ok (outcome_holdCells _ _), outcome_bind_of_ok (outcome_readStore _ _)]
    exact congrArg (Run.outcome · _) (if_pos (beq_self_eq_true _))
  · intro engine type converted after leads made
    exact toHost_struct_eq_ok ⟨proxy, rfl, leads⟩ made

/-! ### A point and its copy -/

/-- A struct with a field X. -/
def Host.HostType.point : HostType where
  name := "Point"
  kind := .struct
  members := [{ declaring := 0, declaringAccess := none, name := "X", kind := .field,
                isStatic := false, isPrivate := false, parameters := [], type := .numeric .int32,
                access := none, rename := none, implementation := .structField 0 }]

namespace World

/-- The engine has a proxy of a point. -/
def withPoint : World where
  store := {
    types := ⟨#[.point]⟩
    cells := #[some (.proxy ⟨0, .boxed (.struct 0 [.integer .zero32]), none, .none⟩)] }
  engines := #[Engine.new "main" {} none]

/-- The number that script reads from a point. -/
def pointField? (world : World) (proxy : CellId) : Option Int :=
  match ((getMember (Script.startWithin 1) 0 proxy "X").outcome world).1 with
  | .ok (.int value) => some value.toInt
  | _ => none

end World

/-- A number is written to a point, and the copy that was made before has the one it had. -/
theorem boxed_structs_have_value_semantics_of_point :
    let copied := (runHelper (Script.startWithin 1) 0 .toStatic [.proxy 0]).outcome .withPoint
    let written := ((Operation.set 0 "X" (.int 5)).run (Script.startWithin 1) 0).outcome copied.2
    (World.withPoint.store.proxy 0).target = .boxed (.struct 0 [.integer .zero32]) ∧
      copied.1 = .ok (.proxy 1) ∧
      (copied.2.store.proxy 1).target = .boxed (.struct 0 [.integer .zero32]) ∧
      (∃ since, copied.2.KeepsApart written.2 since) ∧
      written.2.pointField? 0 = some 5 ∧ written.2.pointField? 1 = some 0 := by
  let copied := (runHelper (Script.startWithin 1) 0 .toStatic [.proxy 0]).outcome .withPoint
  have boxed : (World.withPoint.store.proxy 0).target = .boxed (.struct 0 [.integer .zero32]) := rfl
  have answers : copied.1 = .ok (.proxy 1) := rfl
  have ran : copied = (.ok (.proxy 1), copied.2) := Prod.ext answers rfl
  obtain ⟨copy, same, -, holds, apart⟩ :=
    (boxed_structs_have_value_semantics 1 boxed).2.1 _ _ (.static ran)
  cases same
  refine ⟨boxed, answers, holds, ?_, ?_⟩
  · exact apart _ (.single (.operation copied.2 0 (.set 0 "X" (.int 5))))
  · decide +kernel

end ScriptBridge
