/-
This file chooses among overloads. Every candidate is matched against the
arguments: first their number, then each argument against its parameter. Of the
candidates that match, the one of least cost is taken; if several cost the same,
the call is ambiguous. An argument passed by reference may be a box of exactly
the parameter's type, which receives what the call left in its place.
-/

import ScriptBridge.Binding.Slot
import ScriptBridge.Bridge.ToHost

namespace ScriptBridge.Binding

open Host Run Conversion Bridge

/-! ### Arguments -/

/-- Arguments made ready for one parameter list. -/
structure Prepared where
  /-- One value for each parameter. -/
  arguments : List Host.Value := []
  cost : Cost := {}
  /-- The boxes that receive arguments after the call, with the places of those arguments. -/
  boxes : List (Nat × CellId) := []
  deriving Inhabited

instance : HoldsCells Prepared :=
  ⟨fun prepared => Value.cellsOf prepared.arguments ++ prepared.boxes.map (·.2)⟩

/-- Why a candidate does not match. -/
inductive Mismatch
  /-- The parameter list does not take that many arguments. -/
  | count
  /-- An argument does not convert. -/
  | conversion (error : ConversionError)
  deriving DecidableEq, Repr

namespace Prepared

/-- The arguments with one more, converted by a rule. -/
def add (prepared : Prepared) (value : Host.Value) (rule : Rule) (penalty : Nat) : Prepared :=
  { prepared with
    arguments := prepared.arguments ++ [value], cost := prepared.cost.add rule penalty }

/-- The arguments with a parameter filled from its default. -/
def addDefault (prepared : Prepared) (parameter : Parameter) : Prepared :=
  { prepared with
    arguments := prepared.arguments ++ [parameter.default.getD .null]
    cost := { prepared.cost with defaults := prepared.cost.defaults + 1 } }

/-- The arguments with one more taken from a box that receives it back. -/
def addBoxed (prepared : Prepared) (value : Host.Value) (box : CellId) : Prepared :=
  { prepared.add value .exact 0 with
    boxes := prepared.boxes ++ [(prepared.arguments.length, box)] }

end Prepared

/-- A conversion that may make a candidate fail. -/
def matching {Result : Type} (run : ConversionRun Result) : Run Mismatch Result :=
  mapFailure (fun _ error => .conversion error) run

/-- The arguments with one more, converted to a type. -/
def convertArgument (engine : EngineId) (prepared : Prepared) (type : TypeRef)
    (argument : Script.Value) : Run Mismatch Prepared := do
  let converted ← held (matching (toHost engine argument type))
  return prepared.add converted.value converted.rule converted.penalty

/-- The box that an argument is a proxy of. -/
def boxOf? (argument : Script.Value) : Run Mismatch (Option CellId) := do
  match ← boxedValue? argument with
  | some (.box cell) => return some cell
  | _ => return none

/-- The arguments with one more, as its parameter asks for. -/
def prepareArgument (engine : EngineId) (prepared : Prepared) (parameter : Parameter)
    (argument : Script.Value) : Run Mismatch Prepared := do
  if parameter.passing == .byValue then convertArgument engine prepared parameter.type argument
  else
    let table ← types
    match ← boxOf? argument, parameter.passing with
    | some box, passing =>
      let boxType ← readStore (·.boxType box)
      if boxType != parameter.type then
        raise (.conversion (.incompatible (table.display (.box boxType))
          (table.display parameter.type)))
      else
        let current ← readStore (·.boxValue box)
        let value := if passing == .output then table.initial parameter.type else current
        return prepared.addBoxed (← hold value) box
    | none, .output => return prepared.add (table.initial parameter.type) .widening 0
    | none, _ => convertArgument engine prepared parameter.type argument

/-- Loose arguments converted to the element type of a collecting parameter. -/
def convertLoose (engine : EngineId) (element : TypeRef) :
    Cost → List Script.Value → Run Mismatch (List Host.Value × Cost)
  | cost, [] => return ([], cost)
  | cost, argument :: rest => do
    let converted ← held (matching (toHost engine argument element))
    let (others, total) ←
      convertLoose engine element (cost.add converted.rule converted.penalty) rest
    return (converted.value :: others, total)

/-- The arguments with an array of all that are left, converted one by one. -/
def collectLoose (engine : EngineId) (prepared : Prepared) (parameter : Parameter)
    (arguments : List Script.Value) : Run Mismatch Prepared := do
  let element := parameter.element?.getD .object
  let (items, cost) ← convertLoose engine element prepared.cost arguments
  let array ← create (.hostArray element items.toArray)
  return { prepared with
    arguments := prepared.arguments ++ [.array array], cost := { cost with expanded := true } }

/-- The arguments with all that are left, for a parameter that collects: a single one that is the
array itself is taken as such. -/
def collectArguments (engine : EngineId) (prepared : Prepared) (parameter : Parameter)
    (arguments : List Script.Value) : Run Mismatch Prepared := do
  let direct ← match arguments with
    | [single] => settle (held (matching (toHost engine single parameter.type)))
    | _ => pure (.error .count)
  match direct with
  | .ok converted => return prepared.add converted.value converted.rule converted.penalty
  | .error _ => collectLoose engine prepared parameter arguments

/-- Arguments made ready for parameters, from the left. -/
def prepareFrom (engine : EngineId) :
    Prepared → List Parameter → List Script.Value → Run Mismatch Prepared
  | prepared, [], _ => return prepared
  | prepared, parameter :: rest, arguments => do
    if parameter.collects then collectArguments engine prepared parameter arguments
    else match arguments with
      | [] => prepareFrom engine (prepared.addDefault parameter) rest []
      | argument :: others =>
        let next ← prepareArgument engine prepared parameter argument
        prepareFrom engine next rest others

/-- Arguments made ready for a parameter list. -/
def prepare (engine : EngineId) (parameters : List Parameter) (arguments : List Script.Value) :
    Run Mismatch Prepared := do
  if Parameter.accepts parameters arguments.length then
    prepareFrom engine {} parameters arguments
  else raise .count

/-- Puts arguments back into the boxes that were passed for them. -/
def writeBack {Failure : Type} (prepared : Prepared) (arguments : List Host.Value) :
    Run Failure Unit :=
  modifyStore fun store => prepared.boxes.foldl (fun store (place, box) =>
    match arguments[place]? with
    | some value => store.setBox box value
    | none => store) store

/-! ### Choice -/

/-- A candidate that takes the arguments. -/
structure Match where
  slot : Slot
  prepared : Prepared
  /-- The world once the arguments are ready. -/
  world : World

/-- The matches of least cost, in order. -/
def cheapest (candidates : List Match) : List Match :=
  candidates.foldl (fun best next =>
    match best with
    | [] => [next]
    | first :: _ =>
      match next.prepared.cost.compare first.prepared.cost with
      | .lt => [next]
      | .eq => best ++ [next]
      | .gt => best) []

/-- The error of a call that no candidate matches. Only where the name has a single overload, and
script sees it, is the failure of a conversion told. -/
def unmatched (name : String) (declared : Nat) : List (Except (Halt Mismatch) Match) → ScriptError
  | [.error (.raised (.conversion error))] =>
    if declared == 1 then .argumentConversion error else .missingMember name
  | _ => .missingMember name

/-- The choice among candidates, given how each took the arguments and how many overloads of the
name there are, hidden ones included. -/
def choose (name : String) (declared : Nat) (attempts : List (Except (Halt Mismatch) Match)) :
    Except ScriptError Match :=
  match cheapest (attempts.filterMap Except.toOption) with
  | [] => .error (unmatched name declared attempts)
  | [best] => .ok best
  | _ => .error (.ambiguousMember name)

/-- How a candidate takes the arguments in a world. -/
def attempt (engine : EngineId) (arguments : List Script.Value) (world : World) (slot : Slot) :
    Except (Halt Mismatch) Match :=
  match prepare engine slot.implementation.parameters arguments world with
  | (.ok prepared, after) => .ok ⟨slot, prepared, after⟩
  | (.error halt, _) => .error halt

/-- The overload for the arguments, with the arguments made ready for it. Every candidate is tried
on its own; what the others made of the arguments is dropped. -/
def resolve (engine : EngineId) (name : String) (candidates : List Slot) (declared : Nat)
    (arguments : List Script.Value) : ScriptRun (Slot × Prepared) := fun world =>
  match choose name declared (candidates.map (attempt engine arguments world)) with
  | .ok best => (.ok (best.slot, best.prepared), best.world)
  | .error error => (.error (.raised error), world)

end ScriptBridge.Binding
