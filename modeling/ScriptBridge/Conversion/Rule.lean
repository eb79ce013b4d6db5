/-
This file ranks conversions. Every pair of a source and a target kind has one
rule; the rules of an argument list add up to the cost of an overload, compared
by its worst rule first, then by total weight, then by penalties among equal
rules, then by whether loose arguments were collected and how many defaults were
filled in.
-/

import ScriptBridge.Number.Kind

namespace ScriptBridge.Conversion

open Number

/-! ### Rules -/

/-- How a value reaches a target, best first. -/
inductive Rule
  /-- The kinds are the same. -/
  | exact
  /-- Every value of the source fits. -/
  | widening
  /-- Values that fit are taken. -/
  | narrowing
  /-- No value is taken. -/
  | rejected
  deriving DecidableEq, Repr, Inhabited

namespace Rule

/-- Every rule. -/
def all : List Rule := [.exact, .widening, .narrowing, .rejected]

/-- The name of the rule. -/
def name : Rule → String
  | .exact => "Exact"
  | .widening => "Widening"
  | .narrowing => "NarrowingChecked"
  | .rejected => "Rejected"

/-- The rule with the given name. -/
def ofName? (text : String) : Option Rule := all.find? fun rule => rule.name == text

/-- The place of the rule in the order, best first. -/
def rank : Rule → Nat
  | .exact => 0
  | .widening => 1
  | .narrowing => 2
  | .rejected => 3

/-- What the rule adds to the cost of an argument list. -/
def weight : Rule → Nat
  | .exact => 0
  | .widening => 1
  | .narrowing => 4
  | .rejected => 65535

/-- The worse of two rules. -/
def worse (left right : Rule) : Rule := if left.rank < right.rank then right else left

/-- Is any value taken? -/
def isAllowed (rule : Rule) : Bool := rule != .rejected

end Rule

/-! ### Numeric rules -/

/-- The kind a script integer counts as: the narrowest of the two signed ones from 32 bits up. -/
def scriptIntKind (value : Int) : Kind := if Kind.int32.contains value then .int32 else .int64

/-- The rule between two numeric kinds of the host side. -/
def numericRule (source target : Kind) : Rule :=
  if source == target then .exact
  else match source.isIntegral, target.isIntegral with
    | true, true => if source.isSubset target then .widening else .narrowing
    | true, false => .widening
    | false, true => .rejected
    | false, false => if source == .single && target == .double then .widening else .narrowing

/-- The rule for a script integer. -/
def scriptIntRule (value : Int) (target : Kind) : Rule :=
  let nominal := scriptIntKind value
  if !target.isIntegral then .widening
  else if target == nominal then .exact
  else if nominal.isSubset target then .widening
  else .narrowing

/-- The rule for a script number that is not an integer. -/
def scriptDoubleRule : Kind → Rule
  | .double => .exact
  | .single | .decimal => .narrowing
  | _ => .rejected

/-- The penalty of a numeric target among equal rules: integers first, then the wider binary
format, then the narrower, then decimals. -/
def numericPenalty : Kind → Nat
  | .double => 1
  | .single => 2
  | .decimal => 3
  | _ => 0

/-! ### Costs -/

/-- The cost of binding one overload; lower is better. -/
structure Cost where
  worst : Rule := .exact
  total : Nat := 0
  penalty : Nat := 0
  /-- Were loose arguments collected? -/
  expanded : Bool := false
  /-- The optional parameters filled from their defaults. -/
  defaults : Nat := 0
  deriving DecidableEq, Repr, Inhabited

namespace Cost

/-- The cost with one more converted argument. -/
def add (cost : Cost) (rule : Rule) (penalty : Nat) : Cost :=
  { cost with
    worst := cost.worst.worse rule
    total := cost.total + rule.weight
    penalty := cost.penalty + penalty }

/-- The order of costs, part by part. -/
def compare (left right : Cost) : Ordering :=
  (Ord.compare left.worst.rank right.worst.rank).then <|
    (Ord.compare left.total right.total).then <|
      (Ord.compare left.penalty right.penalty).then <|
        (Ord.compare left.expanded.toNat right.expanded.toNat).then <|
          Ord.compare left.defaults right.defaults

end Cost

end ScriptBridge.Conversion
