/-
This file adds up what arguments cost. The grade of an argument is the rule by which it
reaches its parameter with the penalty among equal rules, rules first. Of the rules of
an argument list the worst counts; weights and penalties are added. Weights grow
strictly with their rules, so weights added up, and penalties added up where those are
equal, compare as the grades do: arguments of which none has a worse grade and one has a
better one cost less, however many there are and whatever is paid besides.
-/

import Mathlib.Algebra.Order.Monoid.Prod
import Mathlib.Algebra.Order.Ring.Nat
import ScriptBridge.Conversion.Rule

namespace ScriptBridge

/-! ### Grades -/

namespace Conversion

namespace Rule

theorem rank_worse (left right : Rule) : (left.worse right).rank = max left.rank right.rank := by
  cases left <;> cases right <;> rfl

theorem worse_assoc (first second third : Rule) :
    (first.worse second).worse third = first.worse (second.worse third) := by
  cases first <;> cases second <;> cases third <;> rfl

/-- Weights grow strictly with the rules. -/
theorem weight_lt_weight_iff {left right : Rule} :
    left.weight < right.weight ↔ left.rank < right.rank := by
  cases left <;> cases right <;> decide

theorem weight_inj {left right : Rule} : left.weight = right.weight ↔ left.rank = right.rank := by
  cases left <;> cases right <;> decide

end Rule

/-- How well an argument reaches its parameter: by which rule, and at which penalty among equal
rules. -/
structure Grade where
  rule : Rule
  penalty : Nat

namespace Grade

/-- Grades are compared by their rules first. -/
def key (grade : Grade) : ℕ ×ₗ ℕ := toLex (grade.rule.rank, grade.penalty)

instance : Preorder Grade := Preorder.lift key

/-- The cost of a single argument. -/
def cost (grade : Grade) : Cost := ({} : Cost).add grade.rule grade.penalty

/-- What the argument adds to weights and penalties. -/
def burden (grade : Grade) : ℕ ×ₗ ℕ := toLex (grade.rule.weight, grade.penalty)

theorem burden_le_burden {left right : Grade} : left.burden ≤ right.burden ↔ left ≤ right := by
  show _ ↔ left.key ≤ right.key
  unfold burden key
  rw [Prod.Lex.toLex_le_toLex, Prod.Lex.toLex_le_toLex]
  exact or_congr Rule.weight_lt_weight_iff (and_congr_left fun _ => Rule.weight_inj)

theorem burden_lt_burden {left right : Grade} : left.burden < right.burden ↔ left < right := by
  show _ ↔ left.key < right.key
  unfold burden key
  rw [Prod.Lex.toLex_lt_toLex, Prod.Lex.toLex_lt_toLex]
  exact or_congr Rule.weight_lt_weight_iff (and_congr_left fun _ => Rule.weight_inj)

/-- The better of two grades has no worse rule. -/
theorem rank_le_rank {left right : Grade} (better : left ≤ right) :
    left.rule.rank ≤ right.rule.rank := by
  rcases Prod.Lex.toLex_le_toLex.mp better with less | ⟨same, -⟩
  · exact Nat.le_of_lt less
  · exact Nat.le_of_eq same

end Grade

/-! ### Sums of costs -/

namespace Cost

/-- Two costs together. -/
def plus (cost other : Cost) : Cost where
  worst := cost.worst.worse other.worst
  total := cost.total + other.total
  penalty := cost.penalty + other.penalty
  expanded := cost.expanded || other.expanded
  defaults := cost.defaults + other.defaults

theorem plus_empty (cost : Cost) : cost.plus {} = cost := by
  obtain ⟨worst, total, penalty, expanded, defaults⟩ := cost
  cases worst <;> cases expanded <;> rfl

theorem plus_assoc (first second third : Cost) :
    (first.plus second).plus third = first.plus (second.plus third) := by
  unfold plus
  dsimp only
  rw [Rule.worse_assoc, Nat.add_assoc, Nat.add_assoc, Bool.or_assoc, Nat.add_assoc]

theorem add_eq_plus (cost : Cost) (rule : Rule) (penalty : Nat) :
    cost.add rule penalty = cost.plus (Grade.cost ⟨rule, penalty⟩) := by
  obtain ⟨worst, total, paid, expanded, defaults⟩ := cost
  unfold Grade.cost add plus
  dsimp only
  rw [Nat.zero_add, Nat.zero_add, Bool.or_false, Nat.add_zero]
  cases worst <;> cases rule <;> rfl

/-- The cost of arguments of the given grades. -/
def ofGrades (grades : List Grade) : Cost :=
  grades.foldr (fun grade cost => grade.cost.plus cost) {}

theorem ofGrades_cons (grade : Grade) (grades : List Grade) :
    ofGrades (grade :: grades) = grade.cost.plus (ofGrades grades) := rfl

/-- Grades are of arguments: no default is filled in, and nothing is collected. -/
theorem ofGrades_unfilled (grades : List Grade) :
    (ofGrades grades).defaults = 0 ∧ (ofGrades grades).expanded = false := by
  induction grades with
  | nil => exact ⟨rfl, rfl⟩
  | cons grade rest inductionHypothesis =>
    obtain ⟨defaults, expanded⟩ := inductionHypothesis
    rw [ofGrades_cons]
    unfold plus
    dsimp only
    rw [defaults, expanded]
    exact ⟨rfl, rfl⟩

/-- Weights and penalties. -/
def burden (cost : Cost) : ℕ ×ₗ ℕ := toLex (cost.total, cost.penalty)

theorem burden_plus (cost other : Cost) :
    (cost.plus other).burden = cost.burden + other.burden := rfl

theorem rank_plus (cost other : Cost) :
    (cost.plus other).worst.rank = max cost.worst.rank other.worst.rank :=
  Rule.rank_worse _ _

end Cost

namespace Grade

theorem rank_cost (grade : Grade) : grade.cost.worst.rank = grade.rule.rank := by
  obtain ⟨rule, penalty⟩ := grade
  cases rule <;> rfl

theorem burden_cost (grade : Grade) : grade.cost.burden = grade.burden := by
  obtain ⟨rule, penalty⟩ := grade
  unfold cost Cost.add Cost.burden burden
  dsimp only
  rw [Nat.zero_add, Nat.zero_add]

end Grade

/-! ### Dominance -/

namespace Cost

/-- The cost is below another whatever is paid besides: its worst rule is no worse, and its weights
and penalties come to less. -/
structure Undercuts (cost other : Cost) : Prop where
  worst : cost.worst.rank ≤ other.worst.rank
  burden : cost.burden < other.burden

/-- A cost that undercuts another is less. -/
theorem Undercuts.compare {cost other : Cost} (undercuts : cost.Undercuts other) :
    cost.compare other = .lt := by
  obtain ⟨worst, burden⟩ := undercuts
  unfold Cost.compare
  rcases Nat.lt_or_eq_of_le worst with less | same
  · rw [Nat.compare_eq_lt.mpr less]
    rfl
  rw [Nat.compare_eq_eq.mpr same]
  rcases Prod.Lex.toLex_lt_toLex.mp burden with less | ⟨sameTotal, less⟩
  · rw [Nat.compare_eq_lt.mpr less]
    rfl
  · rw [Nat.compare_eq_eq.mpr sameTotal, Nat.compare_eq_lt.mpr less]
    rfl

/-- What both pay besides does not matter. -/
theorem Undercuts.plus {cost other : Cost} (undercuts : cost.Undercuts other) (both : Cost) :
    (cost.plus both).Undercuts (other.plus both) where
  worst := by
    rw [rank_plus, rank_plus]
    exact max_le_max_right _ undercuts.worst
  burden := by
    rw [burden_plus, burden_plus]
    exact add_lt_add_left undercuts.burden _

/-- A better grade undercuts, after the same cost. -/
theorem undercuts_of_grade (cost : Cost) {left right : Grade} (better : left < right) :
    (cost.plus left.cost).Undercuts (cost.plus right.cost) where
  worst := by
    rw [rank_plus, rank_plus, left.rank_cost, right.rank_cost]
    exact max_le_max_left _ (Grade.rank_le_rank better.le)
  burden := by
    rw [burden_plus, burden_plus, left.burden_cost, right.burden_cost]
    exact add_lt_add_right (Grade.burden_lt_burden.mpr better) _

end Cost

/-- Every argument has as good a grade as in the other list, and one has a better one. -/
def Dominates (left right : List Grade) : Prop :=
  List.Forall₂ (· ≤ ·) left right ∧
    ∃ (place : Nat) (better worse : Grade), left[place]? = some better ∧
      right[place]? = some worse ∧ better < worse

namespace Cost

/-- Arguments that have as good grades do not cost more. -/
theorem ofGrades_le {left right : List Grade} (pointwise : List.Forall₂ (· ≤ ·) left right) :
    (ofGrades left).worst.rank ≤ (ofGrades right).worst.rank ∧
      (ofGrades left).burden ≤ (ofGrades right).burden := by
  induction pointwise with
  | nil => exact ⟨Nat.le_refl _, le_refl _⟩
  | @cons better worse _ _ first _ inductionHypothesis =>
    rw [ofGrades_cons, ofGrades_cons, rank_plus, rank_plus, burden_plus, burden_plus,
      better.rank_cost, worse.rank_cost, better.burden_cost, worse.burden_cost]
    exact ⟨max_le_max (Grade.rank_le_rank first) inductionHypothesis.1,
      add_le_add (Grade.burden_le_burden.mpr first) inductionHypothesis.2⟩

/-- Arguments that dominate cost less, however many there are. -/
theorem ofGrades_undercuts {left right : List Grade} (dominates : Dominates left right) :
    (ofGrades left).Undercuts (ofGrades right) := by
  obtain ⟨pointwise, place, better, worse, here, there, less⟩ := dominates
  refine ⟨(ofGrades_le pointwise).1, ?_⟩
  -- Before the better place and after it nothing is lost; sums of pairs are strict at that place.
  induction pointwise generalizing place with
  | nil => cases here
  | @cons first other _ _ firstLe rest inductionHypothesis =>
    rw [ofGrades_cons, ofGrades_cons, burden_plus, burden_plus, first.burden_cost,
      other.burden_cost]
    cases place with
    | zero =>
      cases here
      cases there
      exact add_lt_add_of_lt_of_le (Grade.burden_lt_burden.mpr less) (ofGrades_le rest).2
    | succ place =>
      exact add_lt_add_of_le_of_lt (Grade.burden_le_burden.mpr firstLe)
        (inductionHypothesis place here there)

end Cost

end Conversion

end ScriptBridge
