/-
This file holds the code that host members run. A body is a list of statements
over the instance it runs on, its arguments and, in setters, the value assigned.
Values in code are literals: they are made afresh every time they are evaluated,
and they may hold bodies of their own, those of delegates and of dynamic objects.
-/

import ScriptBridge.Host.Value

namespace ScriptBridge.Host

/-- A shape of value that code extracts without any conversion. -/
inductive Shape
  | bool | numeric (kind : Number.Kind) | char | string | dateTime
  | object | array | buffer | view | delegate | box
  deriving DecidableEq, Repr

/-- What code asks of a value it extracts: anything, a shape, or a shape or null. -/
inductive Extraction
  | any
  | exact (shape : Shape)
  | optional (shape : Shape)
  deriving DecidableEq, Repr

/-- The class of an error that code raises. -/
inductive RaisedKind
  | exception (type : String)
  | argument | range | nullReference | disposed | typeMismatch
  deriving DecidableEq, Repr, Inhabited

/-- An error that code raises, with the error that led to it. -/
inductive Raised
  | mk (kind : RaisedKind) (message : String) (inner : Option Raised)
  deriving Repr, Inhabited

/-- An operation a dynamic object may choose to handle. -/
inductive Capability
  | get | set | delete | getIndex | setIndex
  deriving DecidableEq, Repr

mutual

/-- A value as code writes it. -/
inductive Literal
  /-- A value that holds no cell. -/
  | constant (value : Value)
  | struct (type : TypeKey) (fields : List Literal)
  /-- A fresh object with the values of its state. -/
  | fresh (type : TypeKey) (names : List String) (values : List Literal)
      (dynamic : Option DynamicLiteral)
  /-- The object that carries a label. -/
  | labelled (label : String)
  | array (element : TypeRef) (items : List Literal)
  | buffer (bytes : List UInt8)
  | view (kind : Buffer.ElementKind) (buffer : Literal) (offset length : Nat)
  | box (type : TypeRef) (value : Literal)
  | delegate (type : TypeKey) (body : List Statement)

/-- A dynamic object as code writes it: values by name, the operations handled, the names that
fail, methods by name and what calling the object itself runs. -/
inductive DynamicLiteral
  | mk (names : List String) (values : List Literal) (handled : List Capability)
      (failing : List String) (methodNames : List String) (methods : List (List Statement))
      (call : Option (List Statement))

/-- An expression of a body. -/
inductive Expression
  /-- The instance the body runs on. -/
  | self
  /-- The value assigned, in setters. -/
  | assigned
  | callDepth
  | engineName
  | interrupted
  | stateSize
  | literal (literal : Literal)
  | state (name : String)
  | stateAt (key : Expression)
  | argument (index : Nat)
  | field (index : Nat)
  | add (left right : Expression)
  | concat (parts : List Expression)
  | extract (extraction : Extraction) (operand : Expression)
  /-- Calls a delegate; the result is what it returns or, where asked, one of the arguments
  after the call. -/
  | invoke (delegate : Expression) (arguments : List Expression) (result : Option Nat)
  /-- Evaluates source text on the named engine or the calling one. -/
  | evaluate (engine : Option String) (source : Expression)
  | interrupt (engine : String)
  | handlers (event : String)

/-- A statement of a body. -/
inductive Statement
  | answer (value : Expression)
  | setState (name : String) (value : Expression)
  | setStateAt (key value : Expression)
  | setArgument (index : Nat) (value : Expression)
  | raise (error : Raised)
  | fire (event : String) (arguments : List Expression)
  | checkInterrupt
  | perform (value : Expression)
  | log (value : Expression)

end

instance : Inhabited Literal := ⟨.constant .null⟩

instance : Inhabited DynamicLiteral := ⟨.mk [] [] [] [] [] [] none⟩

instance : Inhabited Expression := ⟨.self⟩

instance : Inhabited Statement := ⟨.checkInterrupt⟩

/-- A list of statements. -/
abbrev Code := List Statement

end ScriptBridge.Host
