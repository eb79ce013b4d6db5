/-
This file proves that the modules of an engine are kept in order. A chronicle tells
how the body of every module stands: idle, running or completed. The modules are in
order if every event fits how its module stood, up to the disposal of the engine,
and the records tell how every module stands now. Each change of the records keeps
this, and one that is about another module lets a running one go on running.
-/

import Mathlib.Data.List.Infix
import ScriptBridge.Proofs.Cells

namespace ScriptBridge

/-! ### How modules stand -/

/-- How the body of a module stands. -/
inductive ModuleState
  | idle
  | running
  | completed
  deriving DecidableEq

/-- What is recorded of a module: whether its body completed, if it is recorded at all. -/
def ModuleState.recorded : ModuleState → Option Bool
  | .idle => none
  | .running => some false
  | .completed => some true

namespace ModuleEvent

/-- The module that the event is about. -/
def specifier? : ModuleEvent → Option String
  | .passed specifier | .refused specifier | .started specifier | .completed specifier
  | .failed specifier => some specifier
  | .disposed => none

/-- How the body of a module stands after the event. -/
def next (specifier : String) : ModuleEvent → ModuleState → ModuleState
  | .started other, state => if other = specifier then .running else state
  | .completed other, state => if other = specifier then .completed else state
  | .failed other, state => if other = specifier then .idle else state
  | .passed _, state | .refused _, state | .disposed, state => state

end ModuleEvent

/-- How the body of a module stands after what a chronicle tells. -/
def stateAfter (specifier : String) (chronicle : List ModuleEvent) : ModuleState :=
  chronicle.foldr (ModuleEvent.next specifier) .idle

/-- The event may follow what the chronicle tells: a module is passed while it runs or after it
completed, started or refused otherwise, and ends only while it runs. -/
def ModuleEvent.Fits (chronicle : List ModuleEvent) : ModuleEvent → Prop
  | .passed specifier => stateAfter specifier chronicle ≠ .idle
  | .refused specifier | .started specifier => stateAfter specifier chronicle = .idle
  | .completed specifier | .failed specifier => stateAfter specifier chronicle = .running
  | .disposed => True

variable {specifier other : String} {chronicle events : List ModuleEvent} {event : ModuleEvent}

theorem ModuleEvent.next_of_ne (elsewhere : event.specifier? ≠ some specifier)
    (state : ModuleState) : event.next specifier state = state := by
  cases event with
  | started name | completed name | failed name =>
    exact if_neg fun same => elsewhere (congrArg some same)
  | _ => rfl

theorem stateAfter_cons (specifier : String) (event : ModuleEvent)
    (chronicle : List ModuleEvent) :
    stateAfter specifier (event :: chronicle) =
      event.next specifier (stateAfter specifier chronicle) := rfl

/-- A module that is only passed stands as before. -/
theorem stateAfter_append_of_passed (passed : ∀ event ∈ events,
    event.specifier? = some specifier → event = .passed specifier) :
    stateAfter specifier (events ++ chronicle) = stateAfter specifier chronicle := by
  induction events with
  | nil => rfl
  | cons event rest inductionHypothesis =>
    rw [List.cons_append, stateAfter_cons,
      inductionHypothesis fun event member => passed event (List.mem_cons_of_mem _ member)]
    by_cases about : event.specifier? = some specifier
    · rw [passed event List.mem_cons_self about]
      rfl
    · exact ModuleEvent.next_of_ne about _

/-! ### Orders -/

namespace ModuleCache

/-- The modules are in order. -/
structure IsOrderly (modules : ModuleCache) : Prop where
  fits : ∀ {event earlier}, event :: earlier <:+ modules.chronicle → .disposed ∉ earlier →
    event.Fits earlier
  recorded : .disposed ∉ modules.chronicle → ∀ specifier,
    (modules.records.get? specifier).map (·.evaluated) =
      (stateAfter specifier modules.chronicle).recorded

variable {modules before between after : ModuleCache} {cell : CellId}

theorem empty_isOrderly : ({} : ModuleCache).IsOrderly where
  fits told := nomatch List.suffix_nil.mp told
  recorded _ _ := rfl

namespace IsOrderly

/-- Exactly the modules that run or have completed are recorded. -/
theorem has_iff (orderly : modules.IsOrderly) (undisposed : .disposed ∉ modules.chronicle) :
    modules.has specifier = true ↔ stateAfter specifier modules.chronicle ≠ .idle := by
  have known : modules.has specifier =
      (stateAfter specifier modules.chronicle).recorded.isSome := by
    rw [← orderly.recorded undisposed specifier, Option.isSome_map]
    rfl
  rw [known]
  cases stateAfter specifier modules.chronicle <;> simp [ModuleState.recorded]

theorem isEvaluated_iff (orderly : modules.IsOrderly)
    (undisposed : .disposed ∉ modules.chronicle) :
    modules.isEvaluated specifier = true ↔
      stateAfter specifier modules.chronicle = .completed := by
  have known : modules.isEvaluated specifier =
      (stateAfter specifier modules.chronicle).recorded.any id := by
    rw [← orderly.recorded undisposed specifier, Option.any_map]
    rfl
  rw [known]
  cases stateAfter specifier modules.chronicle <;> simp [ModuleState.recorded]

/-- An event that fits keeps the order if the records go along with it. -/
theorem cons (orderly : before.IsOrderly) (told : after.chronicle = event :: before.chronicle)
    (fits : .disposed ∉ before.chronicle → event.Fits before.chronicle)
    (recorded : .disposed ∉ before.chronicle → event ≠ .disposed → ∀ specifier,
      (after.records.get? specifier).map (·.evaluated) =
        (event.next specifier (stateAfter specifier before.chronicle)).recorded) :
    after.IsOrderly where
  fits := by
    intro later earlier suffix undisposed
    rw [told, List.suffix_cons_iff] at suffix
    rcases suffix with same | suffix
    · cases same
      exact fits undisposed
    · exact orderly.fits suffix undisposed
  recorded undisposed specifier := by
    rw [told, List.mem_cons, not_or] at undisposed
    rw [told, stateAfter_cons]
    exact recorded undisposed.2 (Ne.symm undisposed.1) specifier

/-- An event about one module keeps the order if the record of that module goes along with it and the
others stay. -/
theorem cons_own (orderly : before.IsOrderly) (told : after.chronicle = event :: before.chronicle)
    (about : event.specifier? = some specifier)
    (fits : .disposed ∉ before.chronicle → event.Fits before.chronicle)
    (own : .disposed ∉ before.chronicle → (after.records.get? specifier).map (·.evaluated) =
      (event.next specifier (stateAfter specifier before.chronicle)).recorded)
    (others : .disposed ∉ before.chronicle → ∀ other ≠ specifier,
      after.records.get? other = before.records.get? other) :
    after.IsOrderly := by
  refine orderly.cons told fits fun undisposed _ other => ?_
  by_cases same : other = specifier
  · rw [same]
    exact own undisposed
  · have elsewhere : event.specifier? ≠ some other := fun told =>
      same (Option.some.inj (told.symm.trans about))
    rw [others undisposed other same, ModuleEvent.next_of_ne elsewhere]
    exact orderly.recorded undisposed other

/-- Passing a module that is recorded. -/
theorem pass (orderly : modules.IsOrderly) (known : modules.has specifier = true) :
    (modules.pass specifier).IsOrderly :=
  orderly.cons rfl (fun undisposed => (orderly.has_iff undisposed).mp known)
    fun undisposed _ => orderly.recorded undisposed

theorem state_of_not_has (orderly : modules.IsOrderly) (unknown : modules.has specifier = false)
    (undisposed : .disposed ∉ modules.chronicle) :
    stateAfter specifier modules.chronicle = .idle := by
  by_contra standing
  rw [(orderly.has_iff undisposed).mpr standing] at unknown
  cases unknown

/-- Refusing one that is not. -/
theorem refuse (orderly : modules.IsOrderly) (unknown : modules.has specifier = false) :
    (modules.refuse specifier).IsOrderly :=
  orderly.cons rfl (orderly.state_of_not_has unknown)
    fun undisposed _ => orderly.recorded undisposed

/-- Starting one that is not. -/
theorem start (orderly : modules.IsOrderly) (unknown : modules.has specifier = false) :
    (modules.start specifier cell).IsOrderly := by
  have records (other : String) : (modules.start specifier cell).records.get? other =
      if other = specifier then some ⟨cell, false⟩ else modules.records.get? other :=
    Named.get?_put _ _ _ _
  refine orderly.cons_own rfl rfl (orderly.state_of_not_has unknown) (fun _ => ?_)
    fun _ other different => (records other).trans (if_neg different)
  show _ = (if specifier = specifier then ModuleState.running else _).recorded
  rw [records, if_pos rfl, if_pos rfl]
  rfl

end IsOrderly

/-- Only the record of the module that completed is marked. -/
theorem get?_complete (found : modules.records.get? specifier = some ⟨cell, false⟩)
    (other : String) : (modules.complete specifier cell).records.get? other =
      if other = specifier then some ⟨cell, true⟩ else modules.records.get? other := by
  unfold complete
  rw [Named.get?_map_of_named fun entry => ?named]
  case named =>
    split
    · next marked => exact (beq_iff_eq.mp (Bool.and_eq_true_iff.mp marked).1).symm
    · rfl
  by_cases same : other = specifier
  · rw [if_pos same, same]
    obtain ⟨entry, here, record⟩ := Option.map_eq_some_iff.mp found
    have name := List.find?_some here
    rw [here, Option.map_some, if_pos (by rw [name, record]; exact BEq.rfl)]
  · rw [if_neg same]
    unfold Named.get?
    cases here : modules.records.find? fun entry => entry.1 == other with
    | none => rfl
    | some entry =>
      have name := List.find?_some here
      rw [beq_iff_eq] at name
      have unmarked : (entry.1 == specifier) = false := beq_eq_false_iff_ne.mpr (name ▸ same)
      rw [Option.map_some, Option.map_some, unmarked, Bool.false_and,
        if_neg Bool.false_ne_true]

namespace IsOrderly

theorem state_of_record (orderly : modules.IsOrderly)
    (found : modules.records.get? specifier = some ⟨cell, false⟩)
    (undisposed : .disposed ∉ modules.chronicle) :
    stateAfter specifier modules.chronicle = .running := by
  have recorded := orderly.recorded undisposed specifier
  rw [found] at recorded
  cases state : stateAfter specifier modules.chronicle with
  | running => rfl
  | idle | completed =>
    rw [state] at recorded
    cases recorded

/-- Completing a module whose record is still there. -/
theorem complete (orderly : modules.IsOrderly) (found : .disposed ∉ modules.chronicle →
    modules.records.get? specifier = some ⟨cell, false⟩) :
    (modules.complete specifier cell).IsOrderly := by
  have running (undisposed : .disposed ∉ modules.chronicle) :
      stateAfter specifier modules.chronicle = .running :=
    orderly.state_of_record (found undisposed) undisposed
  refine orderly.cons_own rfl rfl running (fun undisposed => ?_) fun undisposed other different =>
    (get?_complete (found undisposed) other).trans (if_neg different)
  show _ = (if specifier = specifier then ModuleState.completed else _).recorded
  rw [get?_complete (found undisposed), if_pos rfl, if_pos rfl]
  rfl

/-- Dropping one whose record is still there. -/
theorem drop (orderly : modules.IsOrderly) (found : .disposed ∉ modules.chronicle →
    modules.records.get? specifier = some ⟨cell, false⟩) :
    (modules.drop specifier).IsOrderly := by
  have running (undisposed : .disposed ∉ modules.chronicle) :
      stateAfter specifier modules.chronicle = .running :=
    orderly.state_of_record (found undisposed) undisposed
  have records (other : String) : (modules.drop specifier).records.get? other =
      if other = specifier then none else modules.records.get? other :=
    Named.get?_erase _ _ _
  refine orderly.cons_own rfl rfl running (fun _ => ?_) fun _ other different =>
    (records other).trans (if_neg different)
  show _ = (if specifier = specifier then ModuleState.idle else _).recorded
  rw [records, if_pos rfl, if_pos rfl]
  rfl

theorem dispose (orderly : modules.IsOrderly) : modules.dispose.IsOrderly :=
  orderly.cons rfl (fun _ => trivial) fun _ lasting => absurd rfl lasting

/-- Until disposal, a module has been started once more than it failed, unless it is idle, and it
has completed once if it has completed at all. -/
theorem counts (orderly : modules.IsOrderly) {moment : List ModuleEvent}
    (told : moment <:+ modules.chronicle) (undisposed : .disposed ∉ moment)
    (specifier : String) :
    moment.count (.started specifier) = moment.count (.failed specifier) +
        (if stateAfter specifier moment = .idle then 0 else 1) ∧
      moment.count (.completed specifier) =
        if stateAfter specifier moment = .completed then 1 else 0 := by
  induction moment with
  | nil => exact ⟨rfl, rfl⟩
  | cons event earlier inductionHypothesis =>
    rw [List.mem_cons, not_or] at undisposed
    have fits := orderly.fits told undisposed.2
    obtain ⟨started, completed⟩ :=
      inductionHypothesis ((List.suffix_cons event earlier).trans told) undisposed.2
    rw [List.count_cons, List.count_cons, List.count_cons, stateAfter_cons, started, completed]
    cases event with
    | passed name | refused name => exact ⟨rfl, rfl⟩
    | disposed => exact absurd rfl undisposed.1
    | started name | completed name | failed name =>
      unfold ModuleEvent.Fits at fits
      by_cases same : name = specifier
      · subst same
        simp [ModuleEvent.next, fits]
      · simp [ModuleEvent.next, same]

end IsOrderly

/-! ### Running once -/

/-- The bodies of modules run at most once to completion and never inside themselves, until the
engine is disposed. A body that was started has failed, has completed or is active. -/
structure RunsOnce (modules : ModuleCache) : Prop where
  /-- At every moment at most one body of a module is active or has completed. -/
  once : ∀ {moment}, moment <:+ modules.chronicle → .disposed ∉ moment → ∀ specifier,
    moment.count (.completed specifier) + moment.count (.failed specifier) ≤
        moment.count (.started specifier) ∧
      moment.count (.started specifier) ≤ moment.count (.failed specifier) + 1
  /-- Where a body is active or has completed, nothing is run when the module is asked for. -/
  passed : ∀ {specifier earlier}, .passed specifier :: earlier <:+ modules.chronicle →
    .disposed ∉ earlier →
    earlier.count (.started specifier) = earlier.count (.failed specifier) + 1
  /-- Where none is or has, a body is started, unless none can be made to run. -/
  afresh : ∀ {event specifier earlier}, event :: earlier <:+ modules.chronicle →
    event = .started specifier ∨ event = .refused specifier → .disposed ∉ earlier →
    earlier.count (.started specifier) = earlier.count (.failed specifier)
  recorded : .disposed ∉ modules.chronicle → ∀ specifier, modules.has specifier = true ↔
    modules.chronicle.count (.started specifier) = modules.chronicle.count (.failed specifier) + 1
  evaluated : .disposed ∉ modules.chronicle → ∀ specifier,
    modules.isEvaluated specifier = true ↔ .completed specifier ∈ modules.chronicle

/-- Modules that are in order run once. -/
theorem IsOrderly.runsOnce (orderly : modules.IsOrderly) : modules.RunsOnce where
  once told undisposed specifier := by
    obtain ⟨started, completed⟩ := orderly.counts told undisposed specifier
    rw [started, completed]
    cases stateAfter specifier _ with
    | idle | running => simp
    | completed => exact ⟨Nat.le_of_eq (Nat.add_comm _ _), Nat.le_refl _⟩
  passed := by
    intro specifier earlier told undisposed
    have fits := orderly.fits told undisposed
    have before := (List.suffix_cons _ _).trans told
    obtain ⟨started, -⟩ := orderly.counts before undisposed specifier
    rw [started, if_neg fits]
  afresh := by
    intro event specifier earlier told asked undisposed
    have fits := orderly.fits told undisposed
    have before := (List.suffix_cons _ _).trans told
    obtain ⟨started, -⟩ := orderly.counts before undisposed specifier
    have idle : stateAfter specifier earlier = .idle := by
      rcases asked with rfl | rfl
      · exact fits
      · exact fits
    rw [started, if_pos idle]
    rfl
  recorded undisposed specifier := by
    obtain ⟨started, -⟩ := orderly.counts List.suffix_rfl undisposed specifier
    rw [orderly.has_iff undisposed, started]
    cases stateAfter specifier _ <;> simp
  evaluated undisposed specifier := by
    obtain ⟨-, completed⟩ := orderly.counts List.suffix_rfl undisposed specifier
    rw [orderly.isEvaluated_iff undisposed, ← List.count_pos_iff, completed]
    cases stateAfter specifier _ <;> simp

/-! ### Running on -/

/-- Unless the engine is disposed, a module that runs goes on running: it is only passed, and its
record stays. -/
def Sustains (specifier : String) (before after : ModuleCache) : Prop :=
  ∃ events, after.chronicle = events ++ before.chronicle ∧
    (stateAfter specifier before.chronicle = .running → .disposed ∉ after.chronicle →
      (∀ event ∈ events, event.specifier? = some specifier → event = .passed specifier) ∧
        after.records.get? specifier = before.records.get? specifier)

theorem Sustains.refl (modules : ModuleCache) : Sustains specifier modules modules :=
  ⟨[], rfl, fun _ _ => ⟨nofun, rfl⟩⟩

theorem Sustains.told (sustains : Sustains specifier before after) :
    before.chronicle <:+ after.chronicle := by
  obtain ⟨events, told, -⟩ := sustains
  exact ⟨events, told.symm⟩

/-- The module still runs afterwards. -/
theorem Sustains.running (sustains : Sustains specifier before after)
    (running : stateAfter specifier before.chronicle = .running)
    (undisposed : .disposed ∉ after.chronicle) :
    stateAfter specifier after.chronicle = .running := by
  obtain ⟨events, told, rest⟩ := sustains
  rw [told, stateAfter_append_of_passed (rest running undisposed).1, running]

theorem Sustains.trans (first : Sustains specifier before between)
    (second : Sustains specifier between after) : Sustains specifier before after := by
  obtain ⟨early, earlyTold, earlyRest⟩ := id first
  obtain ⟨late, lateTold, lateRest⟩ := id second
  refine ⟨late ++ early, by rw [lateTold, earlyTold, List.append_assoc], ?_⟩
  intro running undisposed
  have between : .disposed ∉ between.chronicle := fun member => undisposed (second.told.mem member)
  obtain ⟨earlyPassed, earlySame⟩ := earlyRest running between
  obtain ⟨latePassed, lateSame⟩ := lateRest (first.running running between) undisposed
  refine ⟨fun event member about => ?_, lateSame.trans earlySame⟩
  rcases List.mem_append.mp member with late | early
  · exact latePassed event late about
  · exact earlyPassed event early about

/-- A module that does not run has nothing to go on with. -/
theorem Sustains.of_told (told : before.chronicle <:+ after.chronicle)
    (resting : .disposed ∉ before.chronicle → stateAfter specifier before.chronicle ≠ .running) :
    Sustains specifier before after := by
  obtain ⟨events, same⟩ := id told
  exact ⟨events, same.symm, fun running undisposed =>
    absurd running (resting fun member => undisposed (told.mem member))⟩

/-- One event that is about another module lets a module run on. -/
theorem Sustains.cons (told : after.chronicle = event :: before.chronicle)
    (elsewhere : event.specifier? ≠ some specifier)
    (same : event ≠ .disposed → after.records.get? specifier = before.records.get? specifier) :
    Sustains specifier before after := by
  refine ⟨[event], told, fun _ undisposed => ⟨?_, same ?_⟩⟩
  · intro later member about
    cases List.mem_singleton.mp member
    exact absurd about elsewhere
  · rintro rfl
    rw [told] at undisposed
    exact undisposed List.mem_cons_self

theorem pass_sustains (modules : ModuleCache) (name : String) :
    Sustains specifier modules (modules.pass name) := by
  refine ⟨[.passed name], rfl, fun _ _ => ⟨?_, rfl⟩⟩
  intro event member about
  cases List.mem_singleton.mp member
  exact congrArg ModuleEvent.passed (Option.some.inj about)

theorem refuse_sustains (orderly : modules.IsOrderly) {name : String}
    (unknown : modules.has name = false) : Sustains specifier modules (modules.refuse name) := by
  by_cases same : name = specifier
  · subst same
    refine .of_told (List.suffix_cons _ _) fun undisposed => ?_
    rw [orderly.state_of_not_has unknown undisposed]
    exact nofun
  · exact .cons rfl (fun about => same (Option.some.inj about)) fun _ => rfl

theorem start_sustains (modules : ModuleCache) {name : String} (different : specifier ≠ name)
    (cell : CellId) : Sustains specifier modules (modules.start name cell) := by
  refine .cons rfl (fun about => different (Option.some.inj about).symm) fun _ => ?_
  show (modules.records.put name _).get? specifier = _
  rw [Named.get?_put, if_neg different]

theorem complete_sustains {name : String} (different : specifier ≠ name)
    (found : .disposed ∉ modules.chronicle → modules.records.get? name = some ⟨cell, false⟩) :
    Sustains specifier modules (modules.complete name cell) := by
  refine ⟨[.completed name], rfl, fun _ undisposed => ⟨?_, ?_⟩⟩
  · intro event member about
    cases List.mem_singleton.mp member
    exact absurd (Option.some.inj about).symm different
  · rw [get?_complete (found fun member => undisposed (List.mem_cons_of_mem _ member)),
      if_neg different]

theorem drop_sustains (modules : ModuleCache) {name : String} (different : specifier ≠ name) :
    Sustains specifier modules (modules.drop name) := by
  refine .cons rfl (fun about => different (Option.some.inj about).symm) fun _ => ?_
  show (modules.records.erase name).get? specifier = _
  rw [Named.get?_erase, if_neg different]

/-- A module that was idle until it started has nothing to go on with, and the start of one lets
the others run on. -/
theorem Sustains.of_start (orderly : before.IsOrderly) {name : String}
    (unknown : before.has name = false)
    (told : (before.start name cell).chronicle <:+ after.chronicle)
    (sustains : ∀ {specifier}, specifier ≠ name →
      Sustains specifier (before.start name cell) after) (specifier : String) :
    Sustains specifier before after := by
  by_cases same : specifier = name
  · subst same
    refine .of_told ((List.suffix_cons _ _).trans told) fun undisposed => ?_
    rw [orderly.state_of_not_has unknown undisposed]
    exact nofun
  · exact (start_sustains before same cell).trans (sustains same)

/-- While a module that was started runs on, its record stays. -/
theorem Sustains.record {name : String}
    (sustains : Sustains name (before.start name cell) after)
    (undisposed : .disposed ∉ after.chronicle) :
    after.records.get? name = some ⟨cell, false⟩ := by
  have running : stateAfter name (before.start name cell).chronicle = .running := if_pos rfl
  obtain ⟨events, told, rest⟩ := sustains
  rw [(rest running undisposed).2]
  show (before.records.put name _).get? name = _
  rw [Named.get?_put, if_pos rfl]

theorem dispose_sustains (modules : ModuleCache) : Sustains specifier modules modules.dispose :=
  .cons rfl nofun fun lasting => absurd rfl lasting

end ModuleCache

end ScriptBridge
