/-
This file holds the switches of an engine. They are fixed when the engine is
created; the default access and the access context only start from them.
-/

import ScriptBridge.Access
import ScriptBridge.Host.TypeRef

namespace ScriptBridge

/-- How an untyped host null reaches script. -/
inductive NullExport
  | null
  | undefined
  deriving DecidableEq, Repr, Inhabited

/-- The name of the choice in settings. -/
def NullExport.name : NullExport → String
  | .null => "null"
  | .undefined => "undefined"

/-- The choice with the given name. -/
def NullExport.ofName? (text : String) : Option NullExport :=
  [NullExport.null, .undefined].find? fun choice => choice.name == text

/-- The switches of an engine. -/
structure Options where
  /-- The access of members without an annotation of their own or of their type. -/
  defaultAccess : Access := .full
  /-- The type whose private members, and those of its bases, script may reach. -/
  accessContext : Option Host.TypeKey := none
  /-- Does a typed null keep its type? -/
  wrapNullResults : Bool := false
  /-- Do callbacks get boxes for arguments passed by reference? -/
  autoBoxes : Bool := false
  nullExport : NullExport := .null
  /-- Are host arrays copied into script arrays? -/
  arraysByValue : Bool := false
  /-- Are moments exported as script dates? -/
  convertDates : Bool := false
  /-- The most frames of the engine at one time. -/
  maxDepth : Nat := 256
  deriving DecidableEq, Repr, Inhabited

end ScriptBridge
