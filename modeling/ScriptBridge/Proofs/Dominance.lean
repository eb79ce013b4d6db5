/-
This file compares overloads argument by argument. An argument is made ready in the same
way whatever was made ready before it: its value stands behind the others, and its cost
is added to theirs. So an overload that takes its arguments one by one, with nothing left
to a default and nothing collected, costs what the grades of the arguments add up to. One
that takes every argument as well as another and one argument better costs strictly
less; whatever else is among the candidates, the other might as well not be there.
-/

import ScriptBridge.Proofs.Grades
import ScriptBridge.Proofs.OverloadChoice
import ScriptBridge.Proofs.ParameterFilling

namespace ScriptBridge

open Run Host

/-! ### Arguments made ready after others -/

namespace Binding

open Bridge Conversion

namespace Prepared

/-- Arguments made ready, after others that were. -/
def after (others prepared : Prepared) : Prepared where
  arguments := others.arguments ++ prepared.arguments
  cost := others.cost.plus prepared.cost
  boxes := others.boxes ++ prepared.boxes.map fun (place, box) =>
    (others.arguments.length + place, box)

theorem after_empty (others : Prepared) : others.after {} = others := by
  unfold after
  rw [List.append_nil, Cost.plus_empty, List.map_nil, List.append_nil]

theorem after_add (others prepared : Prepared) (value : Host.Value) (rule : Rule) (penalty : Nat) :
    (others.after prepared).add value rule penalty =
      others.after (prepared.add value rule penalty) := by
  unfold after add
  dsimp only
  rw [List.append_assoc, Cost.add_eq_plus, Cost.add_eq_plus, Cost.plus_assoc]

theorem after_addBoxed (others prepared : Prepared) (value : Host.Value) (box : CellId) :
    (others.after prepared).addBoxed value box = others.after (prepared.addBoxed value box) := by
  unfold addBoxed
  rw [after_add]
  unfold after
  dsimp only
  rw [List.map_append, List.length_append, List.append_assoc]
  rfl

theorem after_addDefault (others prepared : Prepared) (parameter : Parameter) :
    (others.after prepared).addDefault parameter =
      others.after (prepared.addDefault parameter) := by
  unfold after addDefault Cost.plus
  dsimp only
  rw [List.append_assoc, Nat.add_assoc]

end Prepared

variable (engine : EngineId) (others prepared : Prepared)

theorem convertArgument_after (type : TypeRef) (argument : Script.Value) :
    convertArgument engine (others.after prepared) type argument =
      others.after <$> convertArgument engine prepared type argument := by
  unfold convertArgument
  rw [map_bind]
  refine bind_congr fun converted => ?_
  rw [map_pure, Prepared.after_add]

/-- What an argument adds does not depend on those before it. -/
theorem prepareArgument_after (parameter : Parameter) (argument : Script.Value) :
    prepareArgument engine (others.after prepared) parameter argument =
      others.after <$> prepareArgument engine prepared parameter argument := by
  unfold prepareArgument
  split
  · exact convertArgument_after engine others prepared parameter.type argument
  rw [map_bind]
  refine bind_congr fun table => ?_
  rw [map_bind]
  refine bind_congr fun box => ?_
  cases box with
  | some box =>
    dsimp only
    rw [map_bind]
    refine bind_congr fun boxType => ?_
    split
    · rfl
    rw [map_bind]
    refine bind_congr fun current => ?_
    rw [map_bind]
    refine bind_congr fun value => ?_
    rw [map_pure, Prepared.after_addBoxed]
  | none =>
    cases parameter.passing with
    | output =>
      dsimp only
      rw [map_pure, Prepared.after_add]
    | byValue => exact convertArgument_after engine others prepared parameter.type argument
    | byReference => exact convertArgument_after engine others prepared parameter.type argument

theorem convertLoose_plus (element : TypeRef) (paid cost : Cost) (arguments : List Script.Value) :
    convertLoose engine element (paid.plus cost) arguments =
      (fun (items, total) => (items, paid.plus total)) <$>
        convertLoose engine element cost arguments := by
  induction arguments generalizing cost with
  | nil => rfl
  | cons argument rest inductionHypothesis =>
    unfold convertLoose
    rw [map_bind]
    refine bind_congr fun converted => ?_
    rw [Cost.add_eq_plus, Cost.plus_assoc, ← Cost.add_eq_plus, inductionHypothesis, bind_map_left,
      map_bind]
    rfl

theorem collectLoose_after (parameter : Parameter) (arguments : List Script.Value) :
    collectLoose engine (others.after prepared) parameter arguments =
      others.after <$> collectLoose engine prepared parameter arguments := by
  unfold collectLoose
  show (convertLoose engine _ (others.cost.plus prepared.cost) arguments >>= _) = _
  rw [convertLoose_plus, bind_map_left, map_bind]
  refine bind_congr fun (items, cost) => ?_
  dsimp only
  rw [map_bind]
  refine bind_congr fun array => ?_
  rw [map_pure]
  unfold Prepared.after Cost.plus
  dsimp only
  rw [List.append_assoc, Bool.or_true]

theorem collectArguments_after (parameter : Parameter) (arguments : List Script.Value) :
    collectArguments engine (others.after prepared) parameter arguments =
      others.after <$> collectArguments engine prepared parameter arguments := by
  unfold collectArguments
  dsimp only
  split
  · rw [map_bind]
    refine bind_congr fun direct => ?_
    cases direct with
    | ok converted =>
      dsimp only
      rw [map_pure, Prepared.after_add]
    | error _ => exact collectLoose_after engine others prepared parameter _
  · rw [pure_bind, pure_bind]
    exact collectLoose_after engine others prepared parameter arguments

/-- Arguments that were made ready before stay in front, and what they cost is added. -/
theorem prepareFrom_after (parameters : List Parameter) (arguments : List Script.Value) :
    prepareFrom engine (others.after prepared) parameters arguments =
      others.after <$> prepareFrom engine prepared parameters arguments := by
  induction parameters generalizing prepared arguments with
  | nil => rfl
  | cons parameter rest inductionHypothesis =>
    unfold prepareFrom
    split
    · exact collectArguments_after engine others prepared parameter arguments
    cases arguments with
    | nil =>
      dsimp only
      rw [Prepared.after_addDefault, inductionHypothesis]
    | cons argument more =>
      dsimp only
      rw [prepareArgument_after, bind_map_left, map_bind]
      exact bind_congr fun next => inductionHypothesis next more

/-- Arguments made ready after others come to what they come to on their own. -/
theorem prepareFrom_after_eq_ok {parameters : List Parameter} {arguments : List Script.Value}
    {world after : World} {result : Prepared} :
    (prepareFrom engine others parameters arguments).outcome world = (.ok result, after) ↔
      ∃ alone, (prepareFrom engine {} parameters arguments).outcome world = (.ok alone, after) ∧
        others.after alone = result := by
  have frame := prepareFrom_after engine others {} parameters arguments
  rw [Prepared.after_empty] at frame
  rw [frame, ← bind_pure_comp, outcome_bind_eq_ok]
  constructor
  · rintro ⟨alone, between, made, last⟩
    cases last
    exact ⟨alone, made, rfl⟩
  · rintro ⟨alone, made, rfl⟩
    exact ⟨alone, after, made, rfl⟩

/-! ### Arguments taken one by one -/

/-- Every argument reaches a parameter of its own, at a grade of its own: nothing is left to a
default, and nothing is put into a new array. -/
inductive ConvertsEach (engine : EngineId) :
    World → List Parameter → List Script.Value → List Grade → Prop
  | done {world : World} : ConvertsEach engine world [] [] []
  /-- An argument for its parameter, and others after it. -/
  | next {world between : World} {parameter : Parameter} {parameters : List Parameter}
      {argument : Script.Value} {arguments : List Script.Value} {grade : Grade}
      {grades : List Grade} {alone : Prepared} (single : parameter.collects = false)
      (made : (prepareArgument engine {} parameter argument).outcome world = (.ok alone, between))
      (costs : alone.cost = grade.cost)
      (following : ConvertsEach engine between parameters arguments grades) :
      ConvertsEach engine world (parameter :: parameters) (argument :: arguments) (grade :: grades)
  /-- The last argument, which is the array that a parameter collects. -/
  | whole {world after : World} {parameter : Parameter} {parameters : List Parameter}
      {argument : Script.Value} {grade : Grade} {alone : Prepared}
      (collects : parameter.collects = true)
      (made : (collectArguments engine {} parameter [argument]).outcome world = (.ok alone, after))
      (costs : alone.cost = grade.cost) :
      ConvertsEach engine world (parameter :: parameters) [argument] [grade]

/-- A candidate takes every argument for itself. -/
def TakesEach (engine : EngineId) (arguments : List Script.Value) (world : World) (slot : Slot)
    (grades : List Grade) : Prop :=
  Parameter.accepts slot.implementation.parameters arguments.length = true ∧
    ConvertsEach engine world slot.implementation.parameters arguments grades

variable {engine} {world : World} {arguments : List Script.Value}

/-- Arguments taken one by one cost what their grades add up to. -/
theorem ConvertsEach.prepareFrom_eq_ok {parameters : List Parameter} {grades : List Grade}
    (converts : ConvertsEach engine world parameters arguments grades) :
    ∃ prepared after,
      (prepareFrom engine {} parameters arguments).outcome world = (.ok prepared, after) ∧
        prepared.cost = .ofGrades grades := by
  induction converts with
  | done => exact ⟨{}, _, rfl, rfl⟩
  | @next _ _ _ _ _ _ grade _ alone single made costs _ inductionHypothesis =>
    obtain ⟨prepared, after, madeRest, costsRest⟩ := inductionHypothesis
    refine ⟨alone.after prepared, after, ?_, ?_⟩
    · unfold prepareFrom
      rw [if_neg (Bool.eq_false_iff.mp single), outcome_bind_of_ok made]
      exact (prepareFrom_after_eq_ok _ _).mpr ⟨prepared, madeRest, rfl⟩
    · rw [Cost.ofGrades_cons, ← costs, ← costsRest]
      rfl
  | @whole _ after _ _ _ grade alone collects made costs =>
    refine ⟨alone, after, ?_, ?_⟩
    · unfold prepareFrom
      rw [if_pos collects]
      exact made
    · rw [costs, Cost.ofGrades_cons]
      exact (Cost.plus_empty _).symm

/-- An argument is made ready at a grade. -/
theorem exists_grade_of_prepareArgument {parameter : Parameter} {argument : Script.Value}
    {alone : Prepared} {after : World}
    (made : (prepareArgument engine {} parameter argument).outcome world = (.ok alone, after)) :
    ∃ grade : Grade, alone.cost = grade.cost := by
  have converted (made : (convertArgument engine {} parameter.type argument).outcome world =
      (.ok alone, after)) : ∃ grade : Grade, alone.cost = grade.cost := by
    obtain ⟨converted, -, -, rfl⟩ := convertArgument_eq_ok made
    exact ⟨⟨converted.rule, converted.penalty⟩, rfl⟩
  unfold prepareArgument at made
  split at made
  · exact converted made
  rw [outcome_bind_of_ok (outcome_types _), outcome_bind_of_ok (outcome_boxOf? _ _)] at made
  cases passed : world.boxOf? argument with
  | some box =>
    rw [passed] at made
    dsimp only at made
    rw [outcome_bind_of_ok (outcome_readStore _ _)] at made
    split at made
    · cases made
    · cases made
      exact ⟨⟨.exact, 0⟩, rfl⟩
  | none =>
    rw [passed] at made
    cases passing : parameter.passing with
    | output =>
      rw [passing] at made
      cases made
      exact ⟨⟨.widening, 0⟩, rfl⟩
    | byValue =>
      rw [passing] at made
      exact converted made
    | byReference =>
      rw [passing] at made
      exact converted made

/-- What is put into a new array is noted in the cost. -/
theorem expanded_of_collectLoose {parameter : Parameter} {alone : Prepared} {after : World}
    (made : (collectLoose engine {} parameter arguments).outcome world = (.ok alone, after)) :
    alone.cost.expanded = true := by
  unfold collectLoose at made
  obtain ⟨⟨items, cost⟩, between, -, more⟩ := outcome_bind_eq_ok.mp made
  cases more
  rfl

/-- What a parameter that collects takes without a new array is a single argument. -/
theorem whole_of_collectArguments {parameter : Parameter} {alone : Prepared} {after : World}
    (made : (collectArguments engine {} parameter arguments).outcome world = (.ok alone, after))
    (unexpanded : alone.cost.expanded = false) :
    ∃ argument, arguments = [argument] ∧ ∃ grade : Grade, alone.cost = grade.cost := by
  have loosely {between : World} (made : (collectLoose engine {} parameter arguments).outcome
      between = (.ok alone, after)) : False :=
    Bool.eq_false_iff.mp unexpanded (expanded_of_collectLoose made)
  unfold collectArguments at made
  dsimp only at made
  split at made
  · next argument =>
    obtain ⟨direct, between, -, more⟩ := outcome_bind_eq_ok.mp made
    cases direct with
    | ok converted =>
      cases more
      exact ⟨argument, rfl, ⟨converted.rule, converted.penalty⟩, rfl⟩
    | error _ => exact (loosely more).elim
  · exact (loosely made).elim

/-- Arguments that are made ready with nothing left to a default and nothing collected are taken
one by one. -/
theorem convertsEach_of_prepareFrom {parameters : List Parameter} {prepared : Prepared}
    {after : World}
    (few : (∀ parameter ∈ parameters, parameter.collects = false) →
      arguments.length ≤ parameters.length)
    (made : (prepareFrom engine {} parameters arguments).outcome world = (.ok prepared, after))
    (defaults : prepared.cost.defaults = 0) (expanded : prepared.cost.expanded = false) :
    ∃ grades, ConvertsEach engine world parameters arguments grades := by
  induction parameters generalizing arguments world prepared with
  | nil =>
    rw [List.eq_nil_of_length_eq_zero (Nat.le_zero.mp (few nofun))]
    exact ⟨[], .done⟩
  | cons parameter rest inductionHypothesis =>
    unfold prepareFrom at made
    cases collects : parameter.collects with
    | true =>
      rw [if_pos collects] at made
      obtain ⟨argument, rfl, grade, costs⟩ := whole_of_collectArguments made expanded
      exact ⟨[grade], .whole collects made costs⟩
    | false =>
      rw [if_neg (Bool.eq_false_iff.mp collects)] at made
      cases arguments with
      | nil =>
        obtain ⟨alone, -, rfl⟩ := (prepareFrom_after_eq_ok _ _).mp made
        exact absurd (Nat.add_eq_zero_iff.mp defaults).1 (Nat.succ_ne_zero _)
      | cons argument others =>
        obtain ⟨next, between, takes, more⟩ := outcome_bind_eq_ok.mp made
        obtain ⟨alone, madeRest, rfl⟩ := (prepareFrom_after_eq_ok _ _).mp more
        obtain ⟨grade, costs⟩ := exists_grade_of_prepareArgument takes
        have fewer (single : ∀ parameter ∈ rest, parameter.collects = false) :
            others.length ≤ rest.length :=
          Nat.le_of_succ_le_succ (few (List.forall_mem_cons.mpr ⟨collects, single⟩))
        obtain ⟨grades, following⟩ := inductionHypothesis fewer madeRest
          (Nat.add_eq_zero_iff.mp defaults).2 (Bool.or_eq_false_iff.mp expanded).2
        exact ⟨grade :: grades, .next collects takes costs following⟩

theorem length_le_of_accepts {parameters : List Parameter} {count : Nat}
    (accepted : Parameter.accepts parameters count = true)
    (single : ∀ parameter ∈ parameters, parameter.collects = false) :
    count ≤ parameters.length := by
  unfold Parameter.accepts Parameter.greatest? at accepted
  have bounded := ((Bool.and_eq_true _ _).mp accepted).2
  cases last : parameters.getLast? with
  | none =>
    rw [last] at bounded
    exact (of_decide_eq_true bounded).trans (Nat.zero_le _)
  | some parameter =>
    rw [last] at bounded
    dsimp only at bounded
    rw [if_neg (Bool.eq_false_iff.mp (single parameter (List.mem_of_getLast? last)))] at bounded
    exact of_decide_eq_true bounded

variable {slot : Slot} {grades : List Grade}

theorem TakesEach.takes (takesEach : TakesEach engine arguments world slot grades) :
    ∃ prepared, Takes engine arguments world slot prepared ∧ prepared.cost = .ofGrades grades := by
  obtain ⟨accepted, converts⟩ := takesEach
  obtain ⟨prepared, after, made, costs⟩ := converts.prepareFrom_eq_ok
  exact ⟨prepared, ⟨after, prepare_eq_ok_iff.mpr ⟨accepted, made⟩⟩, costs⟩

/-- A candidate takes every argument for itself exactly if it takes the arguments with nothing left
to a default and nothing collected. -/
theorem exists_takesEach_iff :
    (∃ grades, TakesEach engine arguments world slot grades) ↔
      ∃ prepared, Takes engine arguments world slot prepared ∧ prepared.cost.defaults = 0 ∧
        prepared.cost.expanded = false := by
  constructor
  · rintro ⟨grades, takesEach⟩
    obtain ⟨prepared, takes, costs⟩ := takesEach.takes
    refine ⟨prepared, takes, ?_⟩
    rw [costs]
    exact Cost.ofGrades_unfilled grades
  · rintro ⟨prepared, ⟨after, made⟩, defaults, expanded⟩
    obtain ⟨accepted, made⟩ := prepare_eq_ok_iff.mp made
    obtain ⟨grades, converts⟩ :=
      convertsEach_of_prepareFrom (length_le_of_accepts accepted) made defaults expanded
    exact ⟨grades, accepted, converts⟩

theorem Takes.unique {one other : Prepared} (takes : Takes engine arguments world slot one)
    (alike : Takes engine arguments world slot other) : one = other := by
  obtain ⟨_, made⟩ := takes
  obtain ⟨_, again⟩ := alike
  rw [made] at again
  cases again
  rfl

/-! ### Dominated candidates -/

variable {better worse : Slot} {one other : Prepared}

/-- What costs more than another candidate is not among the cheapest. -/
theorem slot_ne_of_mem_cheapest {candidates : List Slot} (member : better ∈ candidates)
    (takes : Takes engine arguments world better one)
    (takesWorse : Takes engine arguments world worse other)
    (cheaper : one.cost.compare other.cost = .lt) {best : Match}
    (cheapest : best ∈ cheapest (matchesOf engine arguments world candidates)) :
    best.slot ≠ worse := by
  rintro rfl
  rw [(cheapest_eq_filter _).1, List.mem_filter] at cheapest
  obtain ⟨matched, least⟩ := cheapest
  obtain ⟨_, -, attempted⟩ := mem_matchesOf.mp matched
  obtain ⟨rfl, made⟩ := attempt_eq_ok.mp attempted
  obtain ⟨after, madeBetter⟩ := takes
  rw [Takes.unique takesWorse ⟨_, made⟩] at cheaper
  have above : best.cost.compare one.cost = .gt := Std.OrientedCmp.gt_of_lt cheaper
  have below : (best.cost.compare one.cost).isLE :=
    List.all_eq_true.mp least ⟨better, one, after⟩
      (mem_matchesOf.mpr ⟨better, member, attempt_eq_ok.mpr ⟨rfl, madeBetter⟩⟩)
  rw [above] at below
  cases below

/-- What costs more than another candidate might as well not be there. -/
theorem resolve_without {before after : List Slot} {name : String} {declared : Nat}
    (member : better ∈ before ++ after) (takes : Takes engine arguments world better one)
    (takesWorse : Takes engine arguments world worse other)
    (cheaper : one.cost.compare other.cost = .lt) :
    (resolve engine name (before ++ worse :: after) declared arguments).outcome world =
      (resolve engine name (before ++ after) declared arguments).outcome world := by
  -- The order of the candidates does not matter. As the last one, the dearer candidate comes to a
  -- scan that has found something cheaper.
  have last : (before ++ worse :: after).Perm (before ++ after ++ [worse]) :=
    List.perm_middle.trans (List.perm_append_singleton worse _).symm
  rw [resolve_perm last, resolve_eq, resolve_eq]
  generalize before ++ after = candidates at member
  obtain ⟨left, made⟩ := takes
  obtain ⟨leftWorse, madeWorse⟩ := takesWorse
  have matched : ⟨better, one, left⟩ ∈ matchesOf engine arguments world candidates :=
    mem_matchesOf.mpr ⟨better, member, attempt_eq_ok.mpr ⟨rfl, made⟩⟩
  have attempted : attempt engine arguments world worse = .ok ⟨worse, other, leftWorse⟩ :=
    attempt_eq_ok.mpr ⟨rfl, madeWorse⟩
  have last : matchesOf engine arguments world (candidates ++ [worse]) =
      matchesOf engine arguments world candidates ++ [⟨worse, other, leftWorse⟩] :=
    matchesOf_eq_append.mpr ⟨candidates, [], rfl, attempted, rfl, rfl⟩
  rw [last, cheapest_append]
  obtain ⟨kept, nonempty⟩ := cheapest_eq_filter (matchesOf engine arguments world candidates)
  cases scanned : cheapest (matchesOf engine arguments world candidates) with
  | nil =>
    rw [nonempty scanned] at matched
    cases matched
  | cons first rest =>
    have found : first ∈ (matchesOf engine arguments world candidates).filter
        (isLeast (matchesOf engine arguments world candidates)) := by
      rw [← kept, scanned]
      exact List.mem_cons_self
    have least := List.all_eq_true.mp (List.mem_filter.mp found).2 _ matched
    have above : other.cost.compare first.cost = .gt :=
      Std.OrientedCmp.gt_of_lt (Std.TransCmp.lt_of_isLE_of_lt least cheaper)
    dsimp only
    rw [show Match.cost ⟨worse, other, leftWorse⟩ = other.cost from rfl, above]
    cases rest <;> rfl

/-- The arguments of a candidate have grades exactly if it takes them one by one: with nothing left
to a default and nothing collected. A candidate with none at a worse grade than another candidate
and one at a better costs less than the other, for any number of arguments. So where it is among the
candidates the other is never taken, is never among those that a call is ambiguous between, and can
be left out. -/
theorem dominated_overload_never_wins (engine : EngineId) (arguments : List Script.Value)
    (world : World) :
    (∀ slot, (∃ grades, TakesEach engine arguments world slot grades) ↔
      ∃ prepared, Takes engine arguments world slot prepared ∧ prepared.cost.defaults = 0 ∧
        prepared.cost.expanded = false) ∧
    ∀ (better worse : Slot) (left right : List Grade),
      TakesEach engine arguments world better left →
      TakesEach engine arguments world worse right → Dominates left right →
      (∃ one other, Takes engine arguments world better one ∧
        Takes engine arguments world worse other ∧ one.cost = .ofGrades left ∧
          other.cost = .ofGrades right ∧ one.cost.compare other.cost = .lt) ∧
      ∀ (name : String) (declared : Nat) (candidates : List Slot), better ∈ candidates →
        (∀ prepared after, (resolve engine name candidates declared arguments).outcome world ≠
          (.ok (worse, prepared), after)) ∧
        (∀ best ∈ cheapest (matchesOf engine arguments world candidates), best.slot ≠ worse) ∧
        ∀ before after, candidates = before ++ worse :: after →
          (resolve engine name candidates declared arguments).outcome world =
            (resolve engine name (before ++ after) declared arguments).outcome world := by
  refine ⟨fun _ => exists_takesEach_iff, ?_⟩
  intro better worse left right takesBetter takesWorse dominates
  obtain ⟨one, takes, costs⟩ := takesBetter.takes
  obtain ⟨other, takesOther, costsOther⟩ := takesWorse.takes
  have cheaper : one.cost.compare other.cost = .lt := by
    rw [costs, costsOther]
    exact (Cost.ofGrades_undercuts dominates).compare
  refine ⟨⟨one, other, takes, takesOther, costs, costsOther, cheaper⟩, ?_⟩
  intro name declared candidates member
  have absent : ∀ best ∈ cheapest (matchesOf engine arguments world candidates),
      best.slot ≠ worse :=
    fun best => slot_ne_of_mem_cheapest member takes takesOther cheaper
  refine ⟨fun prepared after taken => ?_, absent, ?_⟩
  · refine absent ⟨worse, prepared, after⟩ ?_ rfl
    rw [resolve_eq_ok.mp taken]
    exact List.mem_cons_self
  · rintro before after rfl
    refine resolve_without ?_ takes takesOther cheaper
    rcases List.mem_append.mp member with inBefore | inRest
    · exact List.mem_append_left _ inBefore
    · rcases List.mem_cons.mp inRest with rfl | inAfter
      · rw [Takes.unique takes takesOther, Cost.compare_self] at cheaper
        cases cheaper
      · exact List.mem_append_right _ inAfter

/-- A parameter that takes a value of a type. -/
def valueOf (type : TypeRef) : Parameter := { name := "value", type }

/-- An overload that takes a value of each type. -/
def overload (types : List TypeRef) : Slot :=
  .plain { (default : Member) with
    name := "Take"
    kind := .method
    parameters := types.map valueOf }

/-- Of the overloads for two integers and for a wider integer with any value, the first is
cheaper. -/
theorem dominated_overload_never_wins_of_two :
    TakesEach 0 [.int 5, .int 7] {} (overload [.numeric .int32, .numeric .int32])
        [⟨.exact, 0⟩, ⟨.exact, 0⟩] ∧
      TakesEach 0 [.int 5, .int 7] {} (overload [.numeric .int64, .object])
        [⟨.widening, 0⟩, ⟨.widening, 1⟩] ∧
      Dominates [⟨.exact, 0⟩, ⟨.exact, 0⟩] [⟨.widening, 0⟩, ⟨.widening, 1⟩] ∧
      ∃ one other,
        Takes 0 [.int 5, .int 7] {} (overload [.numeric .int32, .numeric .int32]) one ∧
        Takes 0 [.int 5, .int 7] {} (overload [.numeric .int64, .object]) other ∧
        one.cost = .ofGrades [⟨.exact, 0⟩, ⟨.exact, 0⟩] ∧
        other.cost = .ofGrades [⟨.widening, 0⟩, ⟨.widening, 1⟩] ∧
        one.cost.compare other.cost = .lt := by
  have better : TakesEach 0 [.int 5, .int 7] {} (overload [.numeric .int32, .numeric .int32])
      [⟨.exact, 0⟩, ⟨.exact, 0⟩] :=
    ⟨rfl, .next rfl rfl rfl (.next rfl rfl rfl .done)⟩
  have worse : TakesEach 0 [.int 5, .int 7] {} (overload [.numeric .int64, .object])
      [⟨.widening, 0⟩, ⟨.widening, 1⟩] :=
    ⟨rfl, .next rfl rfl rfl (.next rfl rfl rfl .done)⟩
  have widens (penalty : Nat) : (⟨.exact, 0⟩ : Grade) < ⟨.widening, penalty⟩ :=
    Prod.Lex.toLex_lt_toLex.mpr (.inl Nat.zero_lt_one)
  have dominates : Dominates [⟨.exact, 0⟩, ⟨.exact, 0⟩] [⟨.widening, 0⟩, ⟨.widening, 1⟩] :=
    ⟨.cons (widens 0).le (.cons (widens 1).le .nil), 0, _, _, rfl, rfl, widens 0⟩
  exact ⟨better, worse, dominates,
    ((dominated_overload_never_wins 0 _ {}).2 _ _ _ _ better worse dominates).1⟩

end Binding

end ScriptBridge
