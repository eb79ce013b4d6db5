/-
This file describes the members of host types: what a member is called, how it is
declared to script, its parameters and what runs when it is used. Counting of
arguments lives here too: parameters with a default are optional, and a last
parameter that collects takes any number.
-/

import ScriptBridge.Access
import ScriptBridge.Host.Code

namespace ScriptBridge.Host

/-! ### Parameters -/

/-- How an argument is passed. -/
inductive Passing
  | byValue
  | byReference
  | output
  deriving DecidableEq, Repr, Inhabited

/-- A parameter. One that collects has an array type and takes all arguments from its place on. -/
structure Parameter where
  name : String
  type : TypeRef
  passing : Passing := .byValue
  default : Option Value := none
  collects : Bool := false
  deriving Repr, Inhabited

namespace Parameter

/-- May a caller leave the argument out? -/
def isOptional (parameter : Parameter) : Bool := parameter.default.isSome || parameter.collects

/-- The type of the arguments a collecting parameter takes. -/
def element? (parameter : Parameter) : Option TypeRef :=
  match parameter.type, parameter.collects with
  | .array element, true => some element
  | _, _ => none

/-- The least number of arguments for a parameter list. -/
def least (parameters : List Parameter) : Nat :=
  parameters.countP fun parameter => !parameter.isOptional

/-- The greatest number of arguments for a parameter list; none if the last one collects. -/
def greatest? (parameters : List Parameter) : Option Nat :=
  match parameters.getLast? with
  | some last => if last.collects then none else some parameters.length
  | none => some 0

/-- Does a parameter list take that many arguments? -/
def accepts (parameters : List Parameter) (count : Nat) : Bool :=
  least parameters ≤ count &&
    match greatest? parameters with
    | some greatest => count ≤ greatest
    | none => true

end Parameter

/-- The parameters and the result of a delegate type. -/
structure Signature where
  parameters : List Parameter
  result : TypeRef
  deriving Repr, Inhabited

/-! ### Members -/

/-- The kind of a member. -/
inductive MemberKind
  | field | property | method | event | indexer | constructor
  deriving DecidableEq, Repr, Inhabited

/-- The name of the kind. -/
def MemberKind.name : MemberKind → String
  | .field => "Field"
  | .property => "Property"
  | .method => "Method"
  | .event => "Event"
  | .indexer => "Indexer"
  | .constructor => "Constructor"

/-- What a member runs: code, with the label its runs are logged under, or one of the two members
of a connection between an event and its handler. -/
inductive Body
  | code (label : Option String) (statements : Code)
  | disconnect
  | connected

instance : Inhabited Body := ⟨.code none []⟩

/-- How a member does its work. -/
inductive Implementation
  | accessor (get set : Option Body)
  | invoke (body : Body)
  | event
  | structField (slot : Nat)
  | intrinsic (number : Nat)
  | abstract
  deriving Inhabited

namespace Implementation

/-- The number of an intrinsic, in hexadecimal with at least four digits. -/
def numberText (number : Nat) : String :=
  let digits := Nat.toDigits 16 number
  "0x" ++ String.ofList (List.replicate (4 - digits.length) '0' ++ digits)

/-- The implementation in words. -/
def describe : Implementation → String
  | .accessor get set =>
    s!"Accessor \x7b get: {get.isSome}, set: {set.isSome} \x7d"
  | .invoke _ => "Invoke"
  | .event => "Event"
  | .structField slot => s!"StructField({slot})"
  | .intrinsic number => "Intrinsic(" ++ numberText number ++ ")"
  | .abstract => "Abstract"

/-- Can the implementation be assigned to? -/
def isWritable : Implementation → Bool
  | .accessor _ set => set.isSome
  | .structField _ => true
  | _ => false

end Implementation

/-- A member of a type. An explicit implementation of an interface member is declared by the
interface, with the interface's default access. -/
structure Member where
  declaring : TypeKey
  declaringAccess : Option Access
  name : String
  kind : MemberKind
  isStatic : Bool
  isPrivate : Bool
  parameters : List Parameter
  /-- The type of the value, the result of a method, the handler of an event. -/
  type : TypeRef
  /-- The access annotated on the member itself. -/
  access : Option Access
  /-- The name given to script in place of the declared one. -/
  rename : Option String
  implementation : Implementation
  deriving Inhabited

namespace Member

/-- The name indexers are declared under. -/
def indexerName : String := "Item"

/-- The name constructors are declared under. -/
def constructorName : String := ".ctor"

/-- The name script knows the member by. -/
def scriptName (member : Member) : String := member.rename.getD member.name

/-- Is the member known to script by another name? -/
def isRenamed (member : Member) : Bool :=
  match member.rename with
  | some name => name != member.name
  | none => false

/-- Is the member a field or a property? -/
def isData (member : Member) : Bool := member.kind == .field || member.kind == .property

theorem kind_of_isData {member : Member} (data : member.isData = true) :
    member.kind = .field ∨ member.kind = .property := by
  unfold isData at data
  rwa [Bool.or_eq_true, beq_iff_eq, beq_iff_eq] at data

/-- Does the member take that many arguments? -/
def acceptsCount (member : Member) (count : Nat) : Bool := Parameter.accepts member.parameters count

/-- Does the member belong to instances and not make them? -/
def isInstanceMember (member : Member) : Bool := !member.isStatic && member.kind != .constructor

/-- Are name, kind, parameter types and passing the same? -/
def sameSignature (left right : Member) : Bool :=
  left.name == right.name && left.kind == right.kind &&
    left.parameters.map (fun parameter => (parameter.type, parameter.passing)) ==
      right.parameters.map (fun parameter => (parameter.type, parameter.passing))

end Member

end ScriptBridge.Host
