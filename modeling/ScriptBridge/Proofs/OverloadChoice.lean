/-
This file proves what the choice among overloads chooses. The scan over the
candidates keeps those of least cost seen so far, and clears them, extends them
or leaves them alone as the next candidate compares; whatever the order of the
candidates, what is left at the end are the candidates that no other undercuts.
So a candidate is chosen exactly when it takes the arguments at less cost than
every other that takes them, a call is ambiguous exactly when two candidates
share the least cost, and permuting the candidates changes nothing.
-/

import Mathlib.Data.List.Induction
import ScriptBridge.Binding.Overload
import ScriptBridge.Proofs.Outcome

namespace ScriptBridge

/-! ### The order of costs -/

namespace Conversion.Cost

/-- The order of costs as a lexicographic order of its parts. -/
theorem compare_eq_compareLex : Cost.compare =
    compareLex (compareOn fun cost => cost.worst.rank)
      (compareLex (compareOn Cost.total)
        (compareLex (compareOn Cost.penalty)
          (compareLex (compareOn fun cost => cost.expanded.toNat) (compareOn Cost.defaults)))) :=
  rfl

instance : Std.TransCmp Cost.compare := by
  rw [compare_eq_compareLex]
  infer_instance

/-- Costs that compare as equal are equal. -/
theorem eq_of_compare {left right : Cost} (same : left.compare right = .eq) : left = right := by
  unfold Cost.compare at same
  simp only [Ordering.then_eq_eq, Std.compare_eq_iff_eq] at same
  obtain ⟨leftWorst, leftTotal, leftPenalty, leftExpanded, leftDefaults⟩ := left
  obtain ⟨rightWorst, rightTotal, rightPenalty, rightExpanded, rightDefaults⟩ := right
  obtain ⟨worst, rfl, rfl, expanded, rfl⟩ := same
  have sameWorst : leftWorst = rightWorst := by
    cases leftWorst <;> cases rightWorst <;> first | rfl | cases worst
  have sameExpanded : leftExpanded = rightExpanded := by
    cases leftExpanded <;> cases rightExpanded <;> first | rfl | cases expanded
  rw [sameWorst, sameExpanded]

theorem compare_self (cost : Cost) : cost.compare cost = .eq := Std.ReflCmp.compare_self

end Conversion.Cost

namespace Binding

open Conversion Bridge

/-- The cost of a match. -/
def Match.cost (candidate : Match) : Cost := candidate.prepared.cost

/-! ### The cheapest matches -/

/-- Does no candidate cost less? -/
def isLeast (candidates : List Match) (best : Match) : Bool :=
  candidates.all fun other => (best.cost.compare other.cost).isLE

theorem isLeast_append (candidates : List Match) (next best : Match) :
    isLeast (candidates ++ [next]) best =
      (isLeast candidates best && (best.cost.compare next.cost).isLE) := by
  simp only [isLeast, List.all_append, List.all_cons, List.all_nil, Bool.and_true]

/-- What the scan does with one more candidate. -/
theorem cheapest_append (candidates : List Match) (next : Match) :
    cheapest (candidates ++ [next]) =
      match cheapest candidates with
      | [] => [next]
      | first :: rest =>
        match next.cost.compare first.cost with
        | .lt => [next]
        | .eq => first :: rest ++ [next]
        | .gt => first :: rest := by
  unfold cheapest
  rw [List.foldl_append, List.foldl_cons, List.foldl_nil]
  cases List.foldl _ _ candidates <;> rfl

/-- A candidate below one of least cost is the only one of least cost once it is added. -/
theorem filter_isLeast_of_lt {candidates : List Match} {next first : Match}
    (least : isLeast candidates first) (below : next.cost.compare first.cost = .lt) :
    (candidates ++ [next]).filter (isLeast (candidates ++ [next])) = [next] := by
  have undercuts (other : Match) (member : other ∈ candidates) :
      next.cost.compare other.cost = .lt :=
    Std.TransCmp.lt_of_lt_of_isLE below (List.all_eq_true.1 least other member)
  rw [List.filter_append, List.filter_eq_nil_iff.2, List.nil_append]
  · have least : isLeast (candidates ++ [next]) next := by
      rw [isLeast_append, Cost.compare_self, Bool.and_eq_true]
      refine ⟨List.all_eq_true.2 fun other member => ?_, rfl⟩
      rw [undercuts other member]
      rfl
    rw [List.filter_cons_of_pos least, List.filter_nil]
  · intro other member
    rw [isLeast_append, Std.OrientedCmp.gt_of_lt (undercuts other member)]
    simp only [Ordering.isLE_gt, Bool.and_false, Bool.false_eq_true, not_false_eq_true]

/-- Adding a candidate that does not cost less than one of least cost leaves those of least cost
among the others as they are. -/
theorem filter_isLeast_of_le {candidates : List Match} {next first : Match}
    (member : first ∈ candidates)
    (above : (first.cost.compare next.cost).isLE) :
    candidates.filter (isLeast (candidates ++ [next])) =
      candidates.filter (isLeast candidates) := by
  refine List.filter_congr fun other _ => ?_
  rw [isLeast_append]
  cases otherLeast : isLeast candidates other with
  | false => rfl
  | true =>
    have below : (other.cost.compare first.cost).isLE := List.all_eq_true.1 otherLeast first member
    rw [Std.TransCmp.isLE_trans below above]
    rfl

/-- The scan leaves those that cost no more than any candidate, in order; it leaves nothing only
when there is nothing to choose from. -/
theorem cheapest_eq_filter (candidates : List Match) :
    cheapest candidates = candidates.filter (isLeast candidates) ∧
      (cheapest candidates = [] → candidates = []) := by
  induction candidates using List.reverseRecOn with
  | nil => exact ⟨rfl, fun _ => rfl⟩
  | append_singleton candidates next inductionHypothesis =>
    obtain ⟨kept, nonempty⟩ := inductionHypothesis
    rw [cheapest_append]
    cases scanned : cheapest candidates with
    | nil =>
      rw [nonempty scanned]
      refine ⟨?_, fun impossible => by cases impossible⟩
      have least : isLeast ([] ++ [next]) next := by
        rw [isLeast_append, Cost.compare_self]
        rfl
      rw [List.nil_append] at least ⊢
      rw [List.filter_cons_of_pos least, List.filter_nil]
    | cons first rest =>
      have found : first ∈ candidates.filter (isLeast candidates) := by
        rw [← kept, scanned]
        exact List.mem_cons_self
      obtain ⟨member, least⟩ := List.mem_filter.1 found
      rw [scanned] at kept
      cases order : next.cost.compare first.cost with
      | lt =>
        simp only [order]
        refine ⟨(filter_isLeast_of_lt least order).symm, fun impossible => ?_⟩
        cases impossible
      | eq =>
        have above : first.cost.compare next.cost = .eq := Std.OrientedCmp.eq_symm order
        have last : isLeast (candidates ++ [next]) next := by
          rw [isLeast_append, Cost.compare_self, Bool.and_eq_true]
          refine ⟨List.all_eq_true.2 fun other otherMember => ?_, rfl⟩
          rw [Std.TransCmp.congr_left order]
          exact List.all_eq_true.1 least other otherMember
        simp only [order]
        refine ⟨?_, fun impossible => by cases impossible⟩
        rw [List.filter_append, filter_isLeast_of_le member (by rw [above]; rfl), ← kept,
          List.filter_cons_of_pos last, List.filter_nil]
      | gt =>
        have above : first.cost.compare next.cost = .lt := Std.OrientedCmp.lt_of_gt order
        simp only [order]
        refine ⟨?_, fun impossible => by cases impossible⟩
        have notLast : ¬ isLeast (candidates ++ [next]) next := by
          intro last
          rw [isLeast_append, Bool.and_eq_true] at last
          have below := List.all_eq_true.1 last.1 first member
          rw [order] at below
          cases below
        rw [List.filter_append, filter_isLeast_of_le member (by rw [above]; rfl), ← kept,
          List.filter_cons_of_neg notLast, List.filter_nil, List.append_nil]

/-- One candidate alone is cheapest exactly when it costs strictly less than all others. -/
theorem cheapest_eq_singleton (candidates : List Match) (best : Match) :
    cheapest candidates = [best] ↔
      ∃ left right, candidates = left ++ best :: right ∧
        ∀ other ∈ left ++ right, best.cost.compare other.cost = .lt := by
  rw [(cheapest_eq_filter candidates).1, List.filter_eq_cons_iff]
  constructor
  · rintro ⟨left, right, split, leftDear, least, rightDear⟩
    refine ⟨left, right, split, fun other member => ?_⟩
    have inCandidates : other ∈ candidates := by
      rw [split]
      exact List.mem_append.2 ((List.mem_append.1 member).imp id (List.mem_cons_of_mem _))
    have dear : ¬ isLeast candidates other := by
      rcases List.mem_append.1 member with inLeft | inRight
      · exact leftDear other inLeft
      · exact List.filter_eq_nil_iff.1 rightDear other inRight
    have below := List.all_eq_true.1 least other inCandidates
    cases order : best.cost.compare other.cost with
    | lt => rfl
    | eq =>
      have same := Cost.eq_of_compare order
      refine absurd ?_ dear
      unfold isLeast at least ⊢
      rwa [← same]
    | gt =>
      rw [order] at below
      cases below
  · rintro ⟨left, right, split, cheaper⟩
    have dear (other : Match) (member : other ∈ left ++ right) : ¬ isLeast candidates other := by
      intro least
      have inCandidates : best ∈ candidates := by
        rw [split]
        exact List.mem_append_right _ List.mem_cons_self
      have below := List.all_eq_true.1 least best inCandidates
      rw [Std.OrientedCmp.gt_of_lt (cheaper other member)] at below
      cases below
    refine ⟨left, right, split, fun other member => dear other (List.mem_append_left _ member), ?_,
      List.filter_eq_nil_iff.2 fun other member => dear other (List.mem_append_right _ member)⟩
    refine List.all_eq_true.2 fun other member => ?_
    rw [split, List.mem_append, List.mem_cons, or_left_comm, ← List.mem_append] at member
    rcases member with rfl | member
    · rw [Cost.compare_self]
      rfl
    · rw [cheaper other member]
      rfl

/-- Several candidates are cheapest exactly when two of them cost the same and none costs less. -/
theorem cheapest_eq_cons_cons (candidates : List Match) :
    (∃ first second rest, cheapest candidates = first :: second :: rest) ↔
      ∃ left first middle second right,
        candidates = left ++ first :: middle ++ second :: right ∧ first.cost = second.cost ∧
          isLeast candidates first := by
  rw [(cheapest_eq_filter candidates).1]
  constructor
  · rintro ⟨first, second, rest, scanned⟩
    obtain ⟨left, others, split, -, firstLeast, scannedOthers⟩ := List.filter_eq_cons_iff.1 scanned
    obtain ⟨middle, right, splitOthers, -, secondLeast, -⟩ :=
      List.filter_eq_cons_iff.1 scannedOthers
    refine ⟨left, first, middle, second, right, ?_, ?_, firstLeast⟩
    · rw [split, splitOthers, List.append_assoc, List.cons_append]
    · have firstMember : first ∈ candidates := by
        rw [split]
        exact List.mem_append_right _ List.mem_cons_self
      have secondMember : second ∈ candidates := by
        rw [split, splitOthers]
        exact List.mem_append_right _ (List.mem_cons_of_mem _ (List.mem_append_right _
          List.mem_cons_self))
      have below := List.all_eq_true.1 firstLeast second secondMember
      have above := List.all_eq_true.1 secondLeast first firstMember
      exact Cost.eq_of_compare (Std.OrientedCmp.isLE_antisymm below above)
  · rintro ⟨left, first, middle, second, right, split, same, least⟩
    have secondLeast : isLeast candidates second := by
      unfold isLeast at least ⊢
      rwa [← same]
    generalize isLeast candidates = keeps at least secondLeast
    rw [split, List.filter_append, List.filter_append, List.filter_cons_of_pos least,
      List.filter_cons_of_pos secondLeast]
    rcases left.filter keeps with - | ⟨one, - | ⟨two, more⟩⟩
    · rcases middle.filter keeps with - | ⟨one, more⟩
      · exact ⟨_, _, _, rfl⟩
      · exact ⟨_, _, _, rfl⟩
    · exact ⟨_, _, _, rfl⟩
    · exact ⟨_, _, _, rfl⟩

/-! ### The matches among candidates -/

variable {engine : EngineId} {arguments : List Script.Value} {world : World}

/-- The matches of candidates, in order. -/
def matchesOf (engine : EngineId) (arguments : List Script.Value) (world : World)
    (candidates : List Slot) : List Match :=
  candidates.filterMap fun slot => (attempt engine arguments world slot).toOption

/-- Does a candidate take the arguments, made ready in the way given? -/
def Takes (engine : EngineId) (arguments : List Script.Value) (world : World) (slot : Slot)
    (prepared : Prepared) : Prop :=
  ∃ after, (prepare engine slot.implementation.parameters arguments).outcome world =
    (.ok prepared, after)

theorem attempt_eq_ok {slot : Slot} {best : Match} :
    attempt engine arguments world slot = .ok best ↔
      best.slot = slot ∧ (prepare engine slot.implementation.parameters arguments).outcome world =
        (.ok best.prepared, best.world) := by
  show (match (prepare engine slot.implementation.parameters arguments).outcome world with
    | (.ok prepared, after) => .ok ⟨slot, prepared, after⟩
    | (.error halt, _) => .error halt : Except (Halt Mismatch) Match) = _ ↔ _
  rcases (prepare engine slot.implementation.parameters arguments).outcome world with
    ⟨halt | prepared, after⟩
  · exact ⟨nofun, nofun⟩
  · constructor
    · rintro ⟨⟩
      exact ⟨rfl, rfl⟩
    · rintro ⟨rfl, same⟩
      cases same
      rfl

theorem attempt_eq_error {slot : Slot} {halt : Halt Mismatch} :
    attempt engine arguments world slot = .error halt ↔
      ∃ after, (prepare engine slot.implementation.parameters arguments).outcome world =
        (.error halt, after) := by
  show (match (prepare engine slot.implementation.parameters arguments).outcome world with
    | (.ok prepared, after) => .ok ⟨slot, prepared, after⟩
    | (.error halt, _) => .error halt : Except (Halt Mismatch) Match) = _ ↔ _
  rcases (prepare engine slot.implementation.parameters arguments).outcome world with
    ⟨other | prepared, after⟩
  · constructor
    · rintro ⟨⟩
      exact ⟨after, rfl⟩
    · rintro ⟨_, ⟨⟩⟩
      rfl
  · exact ⟨nofun, nofun⟩

theorem toOption_attempt {slot : Slot} {best : Match} :
    (attempt engine arguments world slot).toOption = some best ↔
      attempt engine arguments world slot = .ok best := by
  cases attempt engine arguments world slot with
  | ok made => exact ⟨fun same => congrArg _ (Option.some.inj same), fun same => by cases same; rfl⟩
  | error halt => exact ⟨nofun, nofun⟩

theorem mem_matchesOf {candidates : List Slot} {candidate : Match} :
    candidate ∈ matchesOf engine arguments world candidates ↔
      ∃ slot ∈ candidates, attempt engine arguments world slot = .ok candidate := by
  unfold matchesOf
  rw [List.mem_filterMap]
  exact exists_congr fun slot => and_congr_right fun _ => toOption_attempt

/-- What candidates take is what the matches are. -/
theorem forall_mem_matchesOf {candidates : List Slot} (property : Prepared → Prop) :
    (∀ candidate ∈ matchesOf engine arguments world candidates, property candidate.prepared) ↔
      ∀ slot ∈ candidates, ∀ prepared, Takes engine arguments world slot prepared →
        property prepared := by
  constructor
  · rintro holds slot member prepared ⟨after, made⟩
    exact holds ⟨slot, prepared, after⟩ (mem_matchesOf.2 ⟨slot, member, attempt_eq_ok.2 ⟨rfl, made⟩⟩)
  · intro holds candidate member
    obtain ⟨slot, inCandidates, made⟩ := mem_matchesOf.1 member
    exact holds slot inCandidates _ ⟨_, (attempt_eq_ok.1 made).2⟩

/-- A match stands among the matches where its candidate stands among the candidates. -/
theorem matchesOf_eq_append {candidates : List Slot} {best : Match} {left right : List Match} :
    matchesOf engine arguments world candidates = left ++ best :: right ↔
      ∃ before after, candidates = before ++ best.slot :: after ∧
        attempt engine arguments world best.slot = .ok best ∧
        matchesOf engine arguments world before = left ∧
        matchesOf engine arguments world after = right := by
  constructor
  · intro split
    obtain ⟨before, others, splitCandidates, inLeft, rest⟩ := List.filterMap_eq_append_iff.1 split
    obtain ⟨skipped, slot, after, splitOthers, failed, made, inRight⟩ :=
      List.filterMap_eq_cons_iff.1 rest
    have made := toOption_attempt.1 made
    obtain ⟨rfl, -⟩ := attempt_eq_ok.1 made
    refine ⟨before ++ skipped, after, ?_, made, ?_, inRight⟩
    · rw [splitCandidates, splitOthers, List.append_assoc]
    · unfold matchesOf
      rw [List.filterMap_append, inLeft, List.filterMap_eq_nil_iff.2 failed, List.append_nil]
  · rintro ⟨before, after, rfl, made, rfl, rfl⟩
    unfold matchesOf
    rw [List.filterMap_append, List.filterMap_cons, made]
    rfl

/-! ### The choice -/

variable {name : String} {declared : Nat} {candidates : List Slot}

theorem outcome_resolve : (resolve engine name candidates declared arguments).outcome world =
    match choose name declared (candidates.map (attempt engine arguments world)) with
    | .ok best => (.ok (best.slot, best.prepared), best.world)
    | .error error => (.error (.raised error), world) := rfl

/-- The choice by what the scan over the matches leaves. -/
theorem resolve_eq : (resolve engine name candidates declared arguments).outcome world =
    match cheapest (matchesOf engine arguments world candidates) with
    | [] =>
      (.error (.raised (unmatched name declared
        (candidates.map (attempt engine arguments world)))), world)
    | [best] => (.ok (best.slot, best.prepared), best.world)
    | _ => (.error (.raised (.ambiguousMember name)), world) := by
  rw [outcome_resolve]
  unfold choose
  rw [List.filterMap_map]
  unfold matchesOf
  rw [show Except.toOption ∘ attempt engine arguments world =
    fun slot => (attempt engine arguments world slot).toOption from rfl]
  rcases cheapest (candidates.filterMap _) with - | ⟨best, - | ⟨next, rest⟩⟩
  · rfl
  · rfl
  · rfl

/-- Where no candidate takes the arguments, the failure of a conversion is told exactly for the only
overload of the name. -/
theorem unmatched_eq (name : String) (declared : Nat) (attempts : List (Except (Halt Mismatch) Match)) :
    (∃ error, attempts = [.error (.raised (.conversion error))] ∧ declared = 1 ∧
        unmatched name declared attempts = .argumentConversion error) ∨
      ((∀ error, attempts = [.error (.raised (.conversion error))] → declared ≠ 1) ∧
        unmatched name declared attempts = .missingMember name) := by
  unfold unmatched
  split
  next error =>
    by_cases single : declared = 1
    · rw [single]
      exact .inl ⟨error, rfl, rfl, rfl⟩
    · refine .inr ⟨fun _ _ => single, ?_⟩
      rw [if_neg (by rwa [beq_iff_eq])]
  next other =>
    exact .inr ⟨fun error same => absurd same (other error), rfl⟩

theorem resolve_eq_ok {slot : Slot} {prepared : Prepared} {after : World} :
    (resolve engine name candidates declared arguments).outcome world =
        (.ok (slot, prepared), after) ↔
      cheapest (matchesOf engine arguments world candidates) = [⟨slot, prepared, after⟩] := by
  rw [resolve_eq]
  rcases cheapest (matchesOf engine arguments world candidates) with - | ⟨best, - | ⟨next, rest⟩⟩
  · exact ⟨nofun, nofun⟩
  · constructor
    · rintro ⟨⟩
      rfl
    · rintro ⟨⟩
      rfl
  · exact ⟨nofun, nofun⟩

theorem resolve_eq_ambiguous :
    (resolve engine name candidates declared arguments).outcome world =
        (.error (.raised (.ambiguousMember name)), world) ↔
      ∃ first second rest,
        cheapest (matchesOf engine arguments world candidates) = first :: second :: rest := by
  rw [resolve_eq]
  rcases cheapest (matchesOf engine arguments world candidates) with - | ⟨best, - | ⟨next, rest⟩⟩
  · constructor
    · intro impossible
      have told : unmatched name declared (candidates.map (attempt engine arguments world)) =
          .ambiguousMember name := Halt.raised.inj (Except.error.inj (Prod.mk.inj impossible).1)
      rcases unmatched_eq name declared
        (candidates.map (attempt engine arguments world)) with ⟨_, -, -, other⟩ | ⟨-, other⟩
      · rw [told] at other
        cases other
      · rw [told] at other
        cases other
    · rintro ⟨_, _, _, ⟨⟩⟩
  · constructor
    · rintro ⟨⟩
    · rintro ⟨_, _, _, ⟨⟩⟩
  · constructor
    · intro _
      exact ⟨best, next, rest, rfl⟩
    · intro _
      rfl

/-- Nothing matches exactly when no candidate takes the arguments. -/
theorem cheapest_matchesOf_eq_nil :
    cheapest (matchesOf engine arguments world candidates) = [] ↔
      ∀ slot ∈ candidates, ∀ prepared, ¬ Takes engine arguments world slot prepared := by
  rw [← forall_mem_matchesOf fun _ => False, ← List.eq_nil_iff_forall_not_mem]
  refine ⟨(cheapest_eq_filter _).2, fun none => ?_⟩
  rw [none]
  rfl

/-- The only candidate, of the only overload, fails to convert an argument. -/
def FailsToConvert (engine : EngineId) (arguments : List Script.Value) (world : World)
    (candidates : List Slot) (declared : Nat) (error : ConversionError) : Prop :=
  declared = 1 ∧ ∃ slot after, candidates = [slot] ∧
    (prepare engine slot.implementation.parameters arguments).outcome world =
      (.error (.raised (.conversion error)), after)

theorem failsToConvert_iff {error : ConversionError} :
    FailsToConvert engine arguments world candidates declared error ↔
      candidates.map (attempt engine arguments world) = [.error (.raised (.conversion error))] ∧
        declared = 1 := by
  unfold FailsToConvert
  rw [List.map_eq_singleton_iff, and_comm]
  refine and_congr_left fun _ => exists_congr fun slot => ?_
  rw [exists_and_left, attempt_eq_error]

/-- A candidate that fails to convert takes nothing. -/
theorem FailsToConvert.not_takes {error : ConversionError}
    (fails : FailsToConvert engine arguments world candidates declared error) :
    ∀ slot ∈ candidates, ∀ prepared, ¬ Takes engine arguments world slot prepared := by
  obtain ⟨-, only, after, rfl, failed⟩ := fails
  rintro slot member prepared ⟨other, made⟩
  rw [List.mem_singleton.1 member, failed] at made
  cases made

/-- Where no candidate takes the arguments, the call fails and the world stays as it was. -/
theorem resolve_eq_unmatched
    (none : ∀ slot ∈ candidates, ∀ prepared, ¬ Takes engine arguments world slot prepared) :
    (resolve engine name candidates declared arguments).outcome world =
      (.error (.raised (unmatched name declared
        (candidates.map (attempt engine arguments world)))), world) := by
  rw [resolve_eq, cheapest_matchesOf_eq_nil.2 none]

/-- A call that fails and is not ambiguous has no candidate that takes the arguments. -/
theorem not_takes_of_error {error : ScriptError} {after : World}
    (failed : (resolve engine name candidates declared arguments).outcome world =
      (.error (.raised error), after))
    (distinct : error ≠ .ambiguousMember name) :
    ∀ slot ∈ candidates, ∀ prepared, ¬ Takes engine arguments world slot prepared := by
  rw [← cheapest_matchesOf_eq_nil]
  rw [resolve_eq] at failed
  rcases scanned : cheapest (matchesOf engine arguments world candidates) with
    - | ⟨best, - | ⟨next, rest⟩⟩
  · rfl
  · rw [scanned] at failed
    cases failed
  · rw [scanned] at failed
    cases failed
    exact absurd rfl distinct

theorem resolve_eq_argumentConversion {error : ConversionError} :
    (resolve engine name candidates declared arguments).outcome world =
        (.error (.raised (.argumentConversion error)), world) ↔
      FailsToConvert engine arguments world candidates declared error := by
  constructor
  · intro told
    have none := not_takes_of_error told nofun
    rw [resolve_eq_unmatched none] at told
    have told := Halt.raised.inj (Except.error.inj (Prod.mk.inj told).1)
    rcases unmatched_eq name declared
      (candidates.map (attempt engine arguments world)) with ⟨other, only, single, same⟩ | ⟨-, same⟩
    · rw [told] at same
      cases same
      exact failsToConvert_iff.2 ⟨only, single⟩
    · rw [told] at same
      cases same
  · intro fails
    obtain ⟨only, rfl⟩ := failsToConvert_iff.1 fails
    rw [resolve_eq_unmatched fails.not_takes, only]
    rfl

theorem resolve_eq_missingMember :
    (resolve engine name candidates declared arguments).outcome world =
        (.error (.raised (.missingMember name)), world) ↔
      (∀ slot ∈ candidates, ∀ prepared, ¬ Takes engine arguments world slot prepared) ∧
        ∀ error, ¬ FailsToConvert engine arguments world candidates declared error := by
  constructor
  · intro told
    have none := not_takes_of_error told nofun
    refine ⟨none, fun error fails => ?_⟩
    rw [resolve_eq_argumentConversion.2 fails] at told
    cases told
  · rintro ⟨none, never⟩
    rw [resolve_eq_unmatched none]
    rcases unmatched_eq name declared
      (candidates.map (attempt engine arguments world)) with ⟨error, only, single, -⟩ | ⟨-, told⟩
    · exact absurd (failsToConvert_iff.2 ⟨only, single⟩) (never error)
    · rw [told]

/-! ### Permutations -/

/-- The cheapest of permuted candidates are the cheapest, permuted. -/
theorem cheapest_perm {left right : List Match} (same : left.Perm right) :
    (cheapest left).Perm (cheapest right) := by
  rw [(cheapest_eq_filter left).1, (cheapest_eq_filter right).1]
  have sameLeast : isLeast left = isLeast right := by
    funext best
    exact same.all_eq
  rw [sameLeast]
  exact same.filter _

/-- Among several candidates no failure of a conversion is told. -/
theorem unmatched_cons_cons (first second : Except (Halt Mismatch) Match)
    (rest : List (Except (Halt Mismatch) Match)) :
    unmatched name declared (first :: second :: rest) = .missingMember name := by
  rcases unmatched_eq name declared (first :: second :: rest) with
    ⟨_, impossible, -⟩ | ⟨-, told⟩
  · cases impossible
  · exact told

theorem unmatched_perm {left right : List (Except (Halt Mismatch) Match)}
    (same : left.Perm right) : unmatched name declared left = unmatched name declared right := by
  rcases left with - | ⟨first, - | ⟨second, rest⟩⟩
  · rw [List.nil_perm.1 same]
  · rw [List.singleton_perm.1 same]
  · have long := same.length_eq
    rcases right with - | ⟨one, - | ⟨two, others⟩⟩
    · cases long
    · cases long
    · rw [unmatched_cons_cons, unmatched_cons_cons]

/-- The order of the candidates does not matter. -/
theorem resolve_perm {others : List Slot} (same : candidates.Perm others) :
    (resolve engine name candidates declared arguments).outcome world =
      (resolve engine name others declared arguments).outcome world := by
  have sameCheapest : (cheapest (matchesOf engine arguments world candidates)).Perm
      (cheapest (matchesOf engine arguments world others)) := cheapest_perm (same.filterMap _)
  rw [resolve_eq, resolve_eq, unmatched_perm (same.map _)]
  rcases scanned : cheapest (matchesOf engine arguments world candidates) with
    - | ⟨best, - | ⟨next, rest⟩⟩
  · rw [scanned] at sameCheapest
    rw [List.nil_perm.1 sameCheapest]
  · rw [scanned] at sameCheapest
    rw [List.singleton_perm.1 sameCheapest]
  · have long := sameCheapest.length_eq
    rcases scannedOthers : cheapest (matchesOf engine arguments world others) with
      - | ⟨one, - | ⟨two, more⟩⟩
    · rw [scanned, scannedOthers] at long
      cases long
    · rw [scanned, scannedOthers] at long
      cases long
    · rfl

/-! ### Overload resolution -/

/-- A candidate is taken exactly when it takes the arguments at strictly less cost than every other
that takes them. -/
theorem resolve_ok_iff {slot : Slot} {prepared : Prepared} {after : World} :
    (resolve engine name candidates declared arguments).outcome world =
        (.ok (slot, prepared), after) ↔
      ∃ left right, candidates = left ++ slot :: right ∧
        (prepare engine slot.implementation.parameters arguments).outcome world =
          (.ok prepared, after) ∧
        ∀ other ∈ left ++ right, ∀ rival, Takes engine arguments world other rival →
          prepared.cost.compare rival.cost = .lt := by
  rw [resolve_eq_ok, cheapest_eq_singleton]
  constructor
  · rintro ⟨leftMatches, rightMatches, split, cheaper⟩
    obtain ⟨left, right, splitCandidates, made, rfl, rfl⟩ := matchesOf_eq_append.1 split
    refine ⟨left, right, splitCandidates, (attempt_eq_ok.1 made).2, ?_⟩
    rw [← forall_mem_matchesOf fun rival => prepared.cost.compare rival.cost = .lt]
    unfold matchesOf at cheaper ⊢
    rw [List.filterMap_append]
    exact cheaper
  · rintro ⟨left, right, splitCandidates, made, cheaper⟩
    rw [← forall_mem_matchesOf fun rival => prepared.cost.compare rival.cost = .lt]
      at cheaper
    refine ⟨matchesOf engine arguments world left, matchesOf engine arguments world right,
      matchesOf_eq_append.2 ⟨left, right, splitCandidates, attempt_eq_ok.2 ⟨rfl, made⟩, rfl, rfl⟩, ?_⟩
    unfold matchesOf at cheaper ⊢
    rw [List.filterMap_append] at cheaper
    exact cheaper

/-- A call is ambiguous exactly when two candidates share the least cost of all that take the
arguments. -/
theorem resolve_ambiguous_iff :
    (resolve engine name candidates declared arguments).outcome world =
        (.error (.raised (.ambiguousMember name)), world) ↔
      ∃ left first middle second right one two,
        candidates = left ++ first :: middle ++ second :: right ∧
        Takes engine arguments world first one ∧ Takes engine arguments world second two ∧
        one.cost = two.cost ∧
        ∀ other ∈ candidates, ∀ rival, Takes engine arguments world other rival →
          (one.cost.compare rival.cost).isLE := by
  rw [resolve_eq_ambiguous, cheapest_eq_cons_cons]
  constructor
  · rintro ⟨leftMatches, one, middleMatches, two, rightMatches, split, same, least⟩
    rw [List.append_assoc] at split
    obtain ⟨left, others, splitCandidates, madeFirst, -, rest⟩ := matchesOf_eq_append.1 split
    obtain ⟨middle, right, splitOthers, madeSecond, -, -⟩ := matchesOf_eq_append.1 rest
    refine ⟨left, one.slot, middle, two.slot, right, one.prepared, two.prepared, ?_,
      ⟨_, (attempt_eq_ok.1 madeFirst).2⟩, ⟨_, (attempt_eq_ok.1 madeSecond).2⟩, same, ?_⟩
    · rw [splitCandidates, splitOthers, List.append_assoc, List.cons_append]
    · exact (forall_mem_matchesOf fun rival => (one.cost.compare rival.cost).isLE).1
        (List.all_eq_true.1 least)
  · rintro ⟨left, first, middle, second, right, one, two, splitCandidates,
      ⟨afterFirst, madeFirst⟩, ⟨afterSecond, madeSecond⟩, same, least⟩
    have least := (forall_mem_matchesOf fun rival => (one.cost.compare rival.cost).isLE).2 least
    let firstMatch : Match := ⟨first, one, afterFirst⟩
    let secondMatch : Match := ⟨second, two, afterSecond⟩
    have rest : matchesOf engine arguments world (middle ++ second :: right) =
        matchesOf engine arguments world middle ++
          secondMatch :: matchesOf engine arguments world right :=
      matchesOf_eq_append.2 ⟨middle, right, rfl, attempt_eq_ok.2 ⟨rfl, madeSecond⟩, rfl, rfl⟩
    have split : matchesOf engine arguments world candidates =
        matchesOf engine arguments world left ++
          firstMatch :: matchesOf engine arguments world (middle ++ second :: right) :=
      matchesOf_eq_append.2 ⟨left, middle ++ second :: right,
        splitCandidates.trans (List.append_assoc _ _ _), attempt_eq_ok.2 ⟨rfl, madeFirst⟩, rfl, rfl⟩
    rw [rest, ← List.cons_append, ← List.append_assoc] at split
    exact ⟨_, firstMatch, _, secondMatch, _, split, same, List.all_eq_true.2 least⟩

/-- Overload resolution takes the candidate that takes the arguments at strictly less cost than
every other, tells ambiguity exactly when the least cost is shared, tells the failure of a
conversion exactly for the only overload of the name and a missing member otherwise, and comes to
the same for every order of the candidates. -/
theorem resolve_takes_cheapest (engine : EngineId) (name : String) (candidates : List Slot)
    (declared : Nat) (arguments : List Script.Value) (world : World) :
    (∀ slot prepared after,
      (resolve engine name candidates declared arguments).outcome world =
          (.ok (slot, prepared), after) ↔
        ∃ left right, candidates = left ++ slot :: right ∧
          (prepare engine slot.implementation.parameters arguments).outcome world =
            (.ok prepared, after) ∧
          ∀ other ∈ left ++ right, ∀ rival, Takes engine arguments world other rival →
            prepared.cost.compare rival.cost = .lt) ∧
    ((resolve engine name candidates declared arguments).outcome world =
          (.error (.raised (.ambiguousMember name)), world) ↔
        ∃ left first middle second right one two,
          candidates = left ++ first :: middle ++ second :: right ∧
          Takes engine arguments world first one ∧ Takes engine arguments world second two ∧
          one.cost = two.cost ∧
          ∀ other ∈ candidates, ∀ rival, Takes engine arguments world other rival →
            (one.cost.compare rival.cost).isLE) ∧
    (∀ error,
      (resolve engine name candidates declared arguments).outcome world =
          (.error (.raised (.argumentConversion error)), world) ↔
        FailsToConvert engine arguments world candidates declared error) ∧
    ((resolve engine name candidates declared arguments).outcome world =
          (.error (.raised (.missingMember name)), world) ↔
        (∀ slot ∈ candidates, ∀ prepared, ¬ Takes engine arguments world slot prepared) ∧
          ∀ error, ¬ FailsToConvert engine arguments world candidates declared error) ∧
    ∀ others, candidates.Perm others →
      (resolve engine name others declared arguments).outcome world =
        (resolve engine name candidates declared arguments).outcome world :=
  ⟨fun _ _ _ => resolve_ok_iff, resolve_ambiguous_iff, fun _ => resolve_eq_argumentConversion,
    resolve_eq_missingMember, fun _ same => (resolve_perm same).symm⟩

end Binding

end ScriptBridge
