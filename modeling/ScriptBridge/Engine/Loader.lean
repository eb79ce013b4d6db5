/-
This file describes what engines load modules with. A loader brings specifiers to
their one form and fetches source texts; either may fail. The one in memory finds
the sources that it was given.
-/

import ScriptBridge.Engine.Specifier
import ScriptBridge.Error
import ScriptBridge.Store.Cell

namespace ScriptBridge

/-- What resolves the specifiers of modules and fetches their source texts. -/
structure Loader where
  /-- The one form of a specifier, as met in a document with the given specifier. -/
  normalize : String → Option String → Except ScriptError String :=
    fun specifier referrer => .ok (Specifier.normalize specifier referrer)
  /-- The source text of a specifier in its one form. -/
  load : String → Except ScriptError String

namespace Loader

/-- The error of a module that is not there. -/
def missingModule (specifier : String) : ScriptError :=
  .plain "Error" s!"Cannot find module '{specifier}'"

/-- The loader that finds sources by specifiers in their one form. -/
def inMemory (sources : Named String) : Loader where
  load specifier := match sources.get? specifier with
    | some source => .ok source
    | none => .error (missingModule specifier)

end Loader

end ScriptBridge
