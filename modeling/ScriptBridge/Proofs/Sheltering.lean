/-
This file follows what making proxies for one engine leaves alone. What is in use,
what the other engines root and everything that these lead to is sheltered: it stays
as it is while the dead are buried, while the record of the engine changes and while
proxies and script arrays are made. No engine is disposed on the way and no other
engine loses a root. A run of such making that fails is refused for lack of room,
unless what it asks for has no proxy.
-/

import ScriptBridge.Proofs.Changes
import ScriptBridge.Proofs.Marshaling

namespace ScriptBridge

open Run World Bridge Host

/-- Is the cell one that marshaling makes? -/
def Cell.isMarshaled : Cell → Bool
  | .proxy _ | .scriptArray _ => true
  | _ => false

namespace World

/-! ### What is sheltered -/

/-- Is the cell in use, or rooted by another engine than the given one, or led to by such a cell? -/
inductive IsSheltered (world : World) (engine : EngineId) : CellId → Prop
  | held {cell : CellId} (member : cell ∈ world.held) : IsSheltered world engine cell
  | rooted {other : EngineId} {proxy target : CellId} {value : Value} (foreign : other ≠ engine)
      (root : (proxy, value) ∈ (world.engine other).cache.roots)
      (identity : value.identity? = some target) : IsSheltered world engine target
  | part {owner cell : CellId} {contents : Cell} (sheltered : IsSheltered world engine owner)
      (found : world.store.get? owner = some contents) (named : cell ∈ contents.cells) :
      IsSheltered world engine cell

/-- Only an engine that there is roots anything. -/
theorem inside_of_root {world : World} {engine : EngineId} {root : CellId × Value}
    (member : root ∈ (world.engine engine).cache.roots) : engine < world.engines.size := by
  refine Nat.lt_of_not_le fun outside => ?_
  unfold World.engine at member
  rw [Array.getElem?_eq_none outside] at member
  cases member

theorem IsSheltered.mem_names {world : World} {engine : EngineId} {cell : CellId}
    (sheltered : world.IsSheltered engine cell) : cell ∈ world.names := by
  unfold names
  cases sheltered with
  | held member => exact List.mem_append_left _ (mem_anchors_of_held member)
  | rooted _ root identity =>
    exact List.mem_append_left _ (mem_anchors_of_root (inside_of_root root) root identity)
  | @part owner _ contents _ found named =>
    refine List.mem_append_right _ ?_
    unfold Store.namings
    rw [Store.cells_toList_of_get? found, List.flatMap_append, List.flatMap_cons]
    exact List.mem_append_right _ (List.mem_append_left _ named)

/-- A world goes on to another while proxies are made for an engine: what was sheltered is so still
and as it was, and what is new was made by marshaling. -/
structure Shelters (engine : EngineId) (before after : World) : Prop where
  heapLimit : after.heapLimit = before.heapLimit
  options : (after.engine engine).options = (before.engine engine).options
  disposed : ∀ other, (after.engine other).isDisposed = (before.engine other).isDisposed
  roots : ∀ other, other ≠ engine →
    (after.engine other).cache.roots = (before.engine other).cache.roots
  held : ∀ cell ∈ before.held, cell ∈ after.held
  made : ∀ {cell contents}, after.store.get? cell = some contents →
    before.store.get? cell = some contents ∨ contents.isMarshaled = true
  stays : ∀ {cell contents}, before.IsSheltered engine cell →
    before.store.get? cell = some contents → after.store.get? cell = some contents

namespace Shelters

variable {engine : EngineId} {before between after world : World}

theorem isSheltered (shelters : Shelters engine before after) {cell : CellId}
    (sheltered : before.IsSheltered engine cell) : after.IsSheltered engine cell := by
  induction sheltered with
  | held member => exact .held (shelters.held _ member)
  | rooted foreign root identity =>
    exact .rooted foreign (shelters.roots _ foreign ▸ root) identity
  | part owner found named inductionHypothesis =>
    exact .part inductionHypothesis (shelters.stays owner found) named

theorem refl (world : World) : Shelters engine world world where
  heapLimit := rfl
  options := rfl
  disposed _ := rfl
  roots _ _ := rfl
  held _ member := member
  made found := .inl found
  stays _ found := found

theorem trans (first : Shelters engine before between) (second : Shelters engine between after) :
    Shelters engine before after where
  heapLimit := second.heapLimit.trans first.heapLimit
  options := second.options.trans first.options
  disposed other := (second.disposed other).trans (first.disposed other)
  roots other foreign := (second.roots other foreign).trans (first.roots other foreign)
  held cell member := second.held cell (first.held cell member)
  made found := (second.made found).elim first.made .inr
  stays sheltered found := second.stays (first.isSheltered sheltered) (first.stays sheltered found)

/-- A scope gives back what was in use before. -/
theorem scope (shelters : Shelters engine before after) :
    Shelters engine before { after with held := before.held } where
  heapLimit := shelters.heapLimit
  options := shelters.options
  disposed := shelters.disposed
  roots := shelters.roots
  held _ member := member
  made := shelters.made
  stays := shelters.stays

/-- More cells come into use. -/
theorem holdMore (world : World) {held : List CellId} (more : ∀ cell ∈ world.held, cell ∈ held) :
    Shelters engine world { world with held } where
  heapLimit := rfl
  options := rfl
  disposed _ := rfl
  roots _ _ := rfl
  held := more
  made found := .inl found
  stays _ found := found

theorem hold (world : World) (cells : List CellId) : Shelters engine world (world.holding cells) :=
  .holdMore world fun _ member => World.mem_held_holding.mpr (.inr member)

theorem keep (world : World) (cell : CellId) :
    Shelters engine world { world with held := cell :: world.held } :=
  .holdMore world fun _ member => List.mem_cons_of_mem cell member

/-- A part of an engine in which tickets do not count stays when a cell is buried. -/
theorem part_bury {Part : Type} (part : Engine → Part)
    (keeps : ∀ state ticket, part { state with cache := state.cache.release ticket } = part state)
    {cell : CellId} {contents : Cell} (living : world.store.get? cell = some contents)
    (other : EngineId) : part ((world.bury cell).engine other) = part (world.engine other) := by
  rw [bury_of_get? living]
  cases contents with
  | proxy proxy => exact part_modifyEngine (fun state => keeps state cell) other
  | _ => rfl

/-- A dead cell is buried. -/
theorem bury {cell : CellId} {contents : Cell} (living : world.store.get? cell = some contents)
    (unnamed : cell ∉ world.names) : Shelters engine world (world.bury cell) where
  heapLimit := by
    rw [bury_of_get? living]
    cases contents <;> rfl
  options := part_bury (·.options) (fun _ _ => rfl) living engine
  disposed := part_bury (·.isDisposed) (fun _ _ => rfl) living
  roots other _ := part_bury (·.cache.roots) (fun _ _ => rfl) living other
  held other member := by
    rw [bury_of_get? living]
    cases contents <;> exact member
  made found := by
    rw [store_bury living] at found
    exact .inl (Store.get?_of_get?_remove found)
  stays {other _} sheltered found := by
    have different : cell ≠ other := by
      rintro rfl
      exact unnamed sheltered.mem_names
    rw [store_bury living, Store.get?_remove_of_ne different]
    exact found

theorem burials (burials : Burials before after) : Shelters engine before after := by
  induction burials with
  | refl => exact refl before
  | tail _ last inductionHypothesis =>
    obtain @⟨cell, contents, living, unnamed⟩ := last
    exact inductionHypothesis.trans (bury living unnamed)

theorem reap (world : World) : Shelters engine world world.reap := burials (reap_spec world).1

/-- The record of the engine alone changes. -/
theorem changeCache (world : World) {change : ProxyCache → ProxyCache}
    (disposed : ∀ cache, (change cache).disposed = cache.disposed) :
    Shelters engine world (world.changeCache engine change) where
  heapLimit := rfl
  options := by
    have keeps (state : Engine) :
        ({ state with cache := change state.cache } : Engine).options = state.options := rfl
    exact part_modifyEngine keeps engine
  disposed := by
    have keeps (state : Engine) :
        ({ state with cache := change state.cache } : Engine).isDisposed = state.isDisposed :=
      disposed state.cache
    exact part_modifyEngine keeps
  roots other foreign := by
    unfold World.changeCache
    rw [engine_modifyEngine_of_ne foreign.symm]
  held _ member := member
  made found := .inl found
  stays _ found := found

/-- A cell is made that marshaling makes. -/
theorem create (world : World) {contents : Cell} (marshaled : contents.isMarshaled = true) :
    Shelters engine world (world.create contents).1 where
  heapLimit := rfl
  options := rfl
  disposed _ := rfl
  roots _ _ := rfl
  held _ member := member
  made found := by
    rcases Store.get?_create found with old | ⟨-, rfl⟩
    · exact .inl old
    · exact .inr marshaled
  stays _ found := (Store.get?_create_of_lt (Store.lt_size_of_get? found)).trans found

/-- What a handle carries it carried before. -/
theorem handle (shelters : Shelters engine before after) {handle : CellId} {inner : Script.Value}
    (carries : after.store.handle? handle = some inner) :
    before.store.get? handle = some (.handle inner) := by
  unfold Store.handle? at carries
  split at carries
  next found =>
    cases carries
    exact (shelters.made found).resolve_right Bool.false_ne_true
  next => cases carries

/-- The items of a host array were its items before. -/
theorem hostItems (shelters : Shelters engine before after) {cell : CellId} {item : Value}
    (member : item ∈ (after.store.hostItems cell).toList) :
    ∃ element items, before.store.get? cell = some (.hostArray element items) ∧
      item ∈ items.toList := by
  unfold Store.hostItems at member
  split at member
  next found => exact ⟨_, _, (shelters.made found).resolve_right Bool.false_ne_true, member⟩
  next => cases member

end Shelters

end World

/-! ### Runs that shelter -/

/-- From every world that has gone on from the start, the run shelters what was sheltered. What it
fails with is one of the errors, and it runs out of depth only under a condition. -/
structure Run.Marshals {Result : Type} (engine : EngineId) (start : World)
    (errors : ScriptError → Prop) (endless : Prop) (run : ScriptRun Result) : Prop where
  shelters {world : World} (goesOn : Shelters engine start world) :
    Shelters engine world (run.outcome world).2
  raised {world : World} {error : ScriptError} (goesOn : Shelters engine start world)
    (failed : (run.outcome world).1 = .error (.raised error)) : errors error
  exhausted {world : World} (goesOn : Shelters engine start world)
    (ended : (run.outcome world).1 = .error .exhausted) : endless

namespace Run.Marshals

variable {Result Next : Type} {engine : EngineId} {start : World} {errors : ScriptError → Prop}
  {endless : Prop} {run : ScriptRun Result} {next : Result → ScriptRun Next}

/-- A run that always has a value only has to shelter. -/
theorem of_answers (answers : ∀ {world}, Shelters engine start world → ∃ result after,
      run.outcome world = (.ok result, after) ∧ Shelters engine world after) :
    run.Marshals engine start errors endless where
  shelters goesOn := by
    obtain ⟨_, _, ran, shelters⟩ := answers goesOn
    rw [ran]
    exact shelters
  raised goesOn failed := by
    obtain ⟨_, _, ran, -⟩ := answers goesOn
    rw [ran] at failed
    cases failed
  exhausted goesOn ended := by
    obtain ⟨_, _, ran, -⟩ := answers goesOn
    rw [ran] at ended
    cases ended

theorem pure (result : Result) :
    (Pure.pure result : ScriptRun Result).Marshals engine start errors endless :=
  of_answers fun _ => ⟨_, _, outcome_pure _ _, .refl _⟩

theorem observe (part : World → Result) :
    (Run.observe part : ScriptRun Result).Marshals engine start errors endless :=
  of_answers fun _ => ⟨_, _, outcome_observe _ _, .refl _⟩

theorem holdCells (cells : List CellId) :
    (Run.holdCells cells : ScriptRun Unit).Marshals engine start errors endless :=
  of_answers fun _ => ⟨_, _, outcome_holdCells _ _, .hold _ _⟩

theorem create {contents : Cell} (marshaled : contents.isMarshaled = true) :
    (Run.create contents : ScriptRun CellId).Marshals engine start errors endless :=
  of_answers fun {world} _ =>
    ⟨_, _, outcome_create _ _, .trans (.create world marshaled) (.keep _ _)⟩

/-- A failure with one of the errors. -/
theorem raise {error : ScriptError} (among : errors error) :
    (Run.raise error : ScriptRun Result).Marshals engine start errors endless where
  shelters _ := .refl _
  raised _ failed := by
    cases failed
    exact among
  exhausted _ ended := by cases ended

/-- What comes first tells what the rest goes on with. -/
theorem bind (first : run.Marshals engine start errors endless)
    (second : ∀ result world after, Shelters engine start world → Shelters engine world after →
      run.outcome world = (.ok result, after) →
        (next result).Marshals engine start errors endless) :
    (run >>= next).Marshals engine start errors endless where
  shelters {world} goesOn := by
    have shelters := first.shelters goesOn
    rw [outcome_bind]
    rcases ran : run.outcome world with ⟨halt | result, after⟩
    · rw [ran] at shelters
      exact shelters
    · rw [ran] at shelters
      have goesOnAfter := goesOn.trans shelters
      exact shelters.trans ((second result world after goesOn shelters ran).shelters goesOnAfter)
  raised {world error} goesOn failed := by
    have shelters := first.shelters goesOn
    have raised : _ → errors error := first.raised goesOn
    rw [outcome_bind] at failed
    rcases ran : run.outcome world with ⟨halt | result, after⟩
    · rw [ran] at failed raised
      cases failed
      exact raised rfl
    · rw [ran] at failed shelters
      have goesOnAfter := goesOn.trans shelters
      exact (second result world after goesOn shelters ran).raised goesOnAfter failed
  exhausted {world} goesOn ended := by
    have shelters := first.shelters goesOn
    have exhausted := first.exhausted goesOn
    rw [outcome_bind] at ended
    rcases ran : run.outcome world with ⟨halt | result, after⟩
    · rw [ran] at ended exhausted
      cases ended
      exact exhausted rfl
    · rw [ran] at ended shelters
      have goesOnAfter := goesOn.trans shelters
      exact (second result world after goesOn shelters ran).exhausted goesOnAfter ended

/-- What comes first tells the rest nothing that matters. -/
theorem andThen (first : run.Marshals engine start errors endless)
    (second : ∀ result, (next result).Marshals engine start errors endless) :
    (run >>= next).Marshals engine start errors endless :=
  first.bind fun result _ _ _ _ _ => second result

/-- What is read is what some world that has gone on from the start has. -/
theorem observing {part : World → Result}
    (second : ∀ world, Shelters engine start world →
      (next (part world)).Marshals engine start errors endless) :
    (Run.observe part >>= next).Marshals engine start errors endless := by
  refine .bind (.observe part) fun result world after goesOn _ ran => ?_
  cases (outcome_observe part world).symm.trans ran
  exact second _ goesOn

/-- What has been reached already, or a failure with one of the errors. -/
theorem reaching {reached : Except ScriptError Result}
    (fails : ∀ error, reached = .error error → errors error)
    (second : ∀ result, reached = .ok result →
      (next result).Marshals engine start errors endless) :
    (Run.ofExcept reached >>= next).Marshals engine start errors endless := by
  cases reached with
  | ok result => exact second result rfl
  | error error => exact .bind (.raise (fails error rfl)) fun _ _ _ _ _ ran => by cases ran

theorem scope (marshals : run.Marshals engine start errors endless) :
    (Run.scope run).Marshals engine start errors endless where
  shelters goesOn := (marshals.shelters goesOn).scope
  raised goesOn failed := marshals.raised goesOn failed
  exhausted goesOn ended := marshals.exhausted goesOn ended

theorem held [HoldsCells Result] (marshals : run.Marshals engine start errors endless) :
    (Run.held run).Marshals engine start errors endless :=
  marshals.andThen fun _ => of_answers fun _ => ⟨_, _, outcome_hold _ _, .hold _ _⟩

theorem runsOut (ends : endless) :
    (Run.exhausted : ScriptRun Result).Marshals engine start errors endless where
  shelters _ := .refl _
  raised _ failed := by cases failed
  exhausted _ _ := ends

end Run.Marshals

/-- In no world that has gone on from the start has the run a value. -/
def Run.NeverAnswers {Result : Type} (engine : EngineId) (start : World) (run : ScriptRun Result) :
    Prop :=
  ∀ world, Shelters engine start world → ∀ result after, run.outcome world ≠ (.ok result, after)

namespace Run.NeverAnswers

variable {Result Next : Type} {engine : EngineId} {start : World} {run : ScriptRun Result}
  {next : Result → ScriptRun Next}

theorem runsOut : (Run.exhausted : ScriptRun Result).NeverAnswers engine start :=
  fun _ _ _ _ ran => by cases ran

theorem bind (never : run.NeverAnswers engine start) :
    (run >>= next).NeverAnswers engine start := by
  intro world goesOn result after ran
  obtain ⟨first, between, ran, -⟩ := outcome_bind_eq_ok.mp ran
  exact never world goesOn first between ran

theorem andThen {errors : ScriptError → Prop} {endless : Prop}
    (marshals : run.Marshals engine start errors endless)
    (never : ∀ result, (next result).NeverAnswers engine start) :
    (run >>= next).NeverAnswers engine start := by
  intro world goesOn result after ran
  obtain ⟨first, between, ranFirst, ran⟩ := outcome_bind_eq_ok.mp ran
  have shelters := marshals.shelters goesOn
  rw [ranFirst] at shelters
  exact never first between (goesOn.trans shelters) result after ran

theorem holding {cells : List CellId} {next : Unit → ScriptRun Next}
    (never : (next ()).NeverAnswers engine start) :
    (Run.holdCells cells >>= next).NeverAnswers engine start := by
  have holds : (Run.holdCells cells : ScriptRun Unit).Marshals engine start (fun _ => False)
      False :=
    .holdCells cells
  exact andThen holds fun _ => never

theorem observing {part : World → Result}
    (never : ∀ world, Shelters engine start world →
      (next (part world)).NeverAnswers engine start) :
    (Run.observe part >>= next).NeverAnswers engine start := by
  intro world goesOn result after ran
  rw [outcome_bind_of_ok (outcome_observe part world)] at ran
  exact never world goesOn world goesOn result after ran

theorem held [HoldsCells Result] (never : run.NeverAnswers engine start) :
    (Run.held run).NeverAnswers engine start :=
  bind never

theorem scope (never : run.NeverAnswers engine start) :
    (Run.scope run).NeverAnswers engine start := by
  intro world goesOn result after ran
  rw [outcome_scope] at ran
  have answered : (run.outcome world).1 = .ok result := congrArg Prod.fst ran
  exact never world goesOn result (run.outcome world).2 (Prod.ext answered rfl)

end Run.NeverAnswers

namespace Bridge

variable {engine : EngineId} {start : World} {errors : ScriptError → Prop} {endless : Prop}

/-! ### Room -/

theorem sweep_marshals :
    (discard (sweep engine) : ScriptRun Unit).Marshals engine start errors endless := by
  have shelters (world : World) :
      Shelters engine world ((sweep engine : ScriptRun Swept).outcome world).2 := by
    rw [outcome_sweep_world]
    have drained : Shelters engine world.reap (world.reap.changeCache engine (·.drain.1)) :=
      .changeCache _ fun _ => rfl
    refine .trans (.reap world) (drained.trans (.trans (.reap _) ?_))
    exact .changeCache _ fun cache => by rfl
  have answers (world : World) : (discard (sweep engine) : ScriptRun Unit).outcome world =
      (.ok (), ((sweep engine : ScriptRun Swept).outcome world).2) := rfl
  exact .of_answers fun {world} _ => ⟨_, _, answers world, shelters world⟩

/-- There is room in the heap, or a world on the way is over the limit. -/
theorem reserve_marshals
    (full : ∀ {later}, Shelters engine start later → later.isOverLimit = true → errors heapIsFull) :
    (reserve engine).Marshals engine start errors endless := by
  have limit : (do
      if ← observe (·.isOverLimit) then raise heapIsFull : ScriptRun Unit).Marshals engine start
        errors endless := by
    refine .observing fun world goesOn => ?_
    split
    next exceeds => exact .raise (full goesOn exceeds)
    next => exact .pure ()
  have enforce : (do
      if ← observe (·.isOverLimit) then
        discard (sweep engine)
        if ← observe (·.isOverLimit) then raise heapIsFull : ScriptRun Unit).Marshals engine start
          errors endless := by
    refine .andThen (.observe _) fun exceeded => ?_
    split
    · exact .andThen sweep_marshals fun _ => limit
    · exact .pure ()
  have reaps : (Run.reap : ScriptRun Unit).Marshals engine start errors endless :=
    .of_answers fun {world} _ => ⟨_, _, outcome_update _ _, .reap world⟩
  unfold reserve
  refine .andThen (.observe _) fun limited => ?_
  split
  · exact .andThen reaps fun _ => enforce
  · exact enforce

/-! ### Proxies -/

variable (live : (start.engine engine).isDisposed = false)

include live

theorem requireCache_marshals : (requireCache engine).Marshals engine start errors endless :=
  .of_answers fun {world} goesOn =>
    ⟨_, _, outcome_requireCache ((goesOn.disposed engine).trans live), .refl world⟩

omit live in
theorem findOrMake_marshals {Key : Type} [BEq Key] (entries : ProxyCache → List (Key × CellId))
    {add : ProxyCache → CellId → ProxyCache}
    (adds : ∀ cache made, (add cache made).disposed = cache.disposed) (key : Key) {proxy : Proxy}
    (owned : proxy.engine = engine) :
    (findOrMake entries add key proxy).Marshals engine start errors endless := by
  refine .of_answers fun {world} _ => ?_
  obtain ⟨between, reaped, ran⟩ := outcome_findOrMake entries add key proxy world
  have shelters : Shelters engine world between := .burials (burials_of_reaped reaped)
  subst owned
  split at ran
  · exact ⟨_, _, ran, shelters.trans (.keep between _)⟩
  · have made : Shelters proxy.engine between (between.create (.proxy proxy)).1 :=
      .create between rfl
    refine ⟨_, _, ran, shelters.trans (made.trans (.trans ?_ (.keep _ _)))⟩
    exact .changeCache _ fun cache => adds cache _

/-- Whoever asks for the proxy of a value that can be held weakly is given one. -/
theorem findReference_marshals {value : Value} {target : CellId}
    (identity : value.identity? = some target) (weak : value.hasWeakForm = true)
    (view : Option TypeKey) (flags : ItemFlags) :
    (findReference engine value view flags).Marshals engine start errors endless := by
  have keyed : ReferenceKey.of? value view flags = some ⟨target, view, flags.identity⟩ :=
    ReferenceKey.of?_eq_some.mpr ⟨weak, target, identity, rfl⟩
  have finds : (findOrMake (·.references) (·.addReference ⟨target, view, flags.identity⟩ · value)
      ⟨target, view, flags.identity⟩ ⟨engine, .reference value, view, flags⟩).Marshals engine start
        errors endless :=
    findOrMake_marshals _ (fun _ _ => by rfl) _ rfl
  rw [findReference_eq, keyed]
  exact .andThen (requireCache_marshals live) fun _ => finds

theorem findHandle_marshals (type : TypeRef) (flags : ItemFlags) :
    (findHandle engine type flags).Marshals engine start errors endless := by
  have finds : (findOrMake (·.handles) (·.addHandle ⟨type, flags.identity⟩ ·)
      ⟨type, flags.identity⟩ ⟨engine, .type type, none, flags⟩).Marshals engine start errors
        endless :=
    findOrMake_marshals _ (fun _ _ => by rfl) _ rfl
  exact .andThen (requireCache_marshals live) fun _ => finds

variable
  (full : ∀ {later}, Shelters engine start later → later.isOverLimit = true → errors heapIsFull)

include full

theorem boxValue_marshals (value : Value) (flags : ItemFlags) :
    (boxValue engine value flags).Marshals engine start errors endless :=
  .andThen (.holdCells _) fun _ => .andThen (reserve_marshals full) fun _ =>
    .andThen (requireCache_marshals live) fun _ => .create rfl

/-- The proxy of a value held by reference is given, whatever type the value is declared as. -/
theorem proxyReference_marshals {value : Value} {target : CellId}
    (identity : value.identity? = some target) (weak : value.hasWeakForm = true)
    (declared : TypeRef) (flags : ItemFlags) :
    (proxyReference engine value declared flags).Marshals engine start errors endless :=
  .andThen (.holdCells _) fun _ => .andThen (.observe _) fun view =>
    .andThen (reserve_marshals full) fun _ =>
      findReference_marshals live identity weak view flags

end Bridge

end ScriptBridge
