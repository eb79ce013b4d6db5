/-
This file reads the settings of a runtime: the limit of its heap and the options
its engines start from. Settings are written in TOML, in a section for the
runtime and one for engines; what is not set has a default, and what is set under
an unknown name is passed over. A section may also list the values of its
settings in order.
-/

import ScriptBridge.Engine.Options
import ScriptBridge.Toml.Reader

namespace ScriptBridge

/-- The settings of a runtime. -/
structure Settings where
  /-- The most proxies, functions and modules at one time. -/
  heapLimit : Option Nat := none
  /-- The options that engines start from. -/
  engine : Options := {}
  deriving DecidableEq, Repr, Inhabited

/-- Why a text gives no settings. -/
inductive SettingsError
  /-- The text is not TOML, or a setting has the wrong type. -/
  | unreadable
  /-- A setting has a value that cannot be used. -/
  | unusable (message : String)
  deriving DecidableEq, Repr

namespace Settings

open Toml (Value)

/-! ### Values of settings -/

/-- A count: an integer that is not negative. -/
def readCount? : Value → Option Nat
  | .integer value => if 0 ≤ value then some value.toNat else none
  | _ => none

/-- A switch. -/
def readFlag? : Value → Option Bool
  | .flag value => some value
  | _ => none

/-- Does the value hold nothing? -/
def isEmpty : Value → Bool
  | .list [] | .tables [] | .table _ [] => true
  | _ => false

/-- A choice: its name, or a table that holds nothing under its name. -/
def readChoice? {Choice : Type} (ofName? : String → Option Choice) : Value → Option Choice
  | .text name => ofName? name
  | .table _ [(name, contents)] => if isEmpty contents then ofName? name else none
  | _ => none

/-! ### Sections -/

/-- The setting of a name, by the entries of a section or by its place in a list of values. -/
def setting? (part : Value) (place : Nat) (name : String) : Option (Option Value) :=
  match part with
  | .table _ _ => some (part.entry? name)
  | .list items | .tables items => some items[place]?
  | .moment => some none
  | _ => none

/-- A setting with its default. The outer result is none if it cannot be read. -/
def read? {Setting : Type} (readValue? : Value → Option Setting) (default : Setting)
    (part : Value) (place : Nat) (name : String) : Option Setting := do
  match ← setting? part place name with
  | some value => readValue? value
  | none => some default

/-- The limit of the heap in the section of the runtime. -/
def readHeapLimit? (part : Value) : Option (Option Nat) :=
  read? (fun value => (readCount? value).map some) none part 0 "max_heap_size"

/-- The options in the section of engines. -/
def readOptions? (part : Value) : Option Options := do
  let initial : Options := {}
  let flag (place : Nat) (name : String) : Option Bool := read? readFlag? false part place name
  let defaultAccess ←
    read? (readChoice? Access.ofName?) initial.defaultAccess part 0 "default_access"
  let wrapNullResults ← flag 1 "enable_null_result_wrapping"
  let autoBoxes ← flag 2 "enable_auto_host_variables"
  let nullExport ←
    read? (readChoice? NullExport.ofName?) initial.nullExport part 3 "null_export"
  let arraysByValue ← flag 4 "marshal_arrays_by_value"
  let convertDates ← flag 5 "enable_date_time_conversion"
  let maxDepth ← read? readCount? initial.maxDepth part 6 "max_nested_depth"
  some
    { defaultAccess, wrapNullResults, autoBoxes, nullExport, arraysByValue, convertDates, maxDepth }

/-! ### Settings -/

/-- The settings that a table of sections gives. -/
def ofTable? (table : Value) : Option Settings := do
  let heapLimit ← read? readHeapLimit? none table 0 "runtime"
  let engine ← read? readOptions? {} table 1 "engine"
  some { heapLimit, engine }

/-- The settings, if they can be used. -/
def check (settings : Settings) : Except SettingsError Settings :=
  if settings.heapLimit == some 0 then .error (.unusable "max_heap_size must be positive")
  else if settings.engine.maxDepth == 0 then .error (.unusable "max_nested_depth must be positive")
  else .ok settings

/-- The settings that a text gives. -/
def ofText (text : String) : Except SettingsError Settings :=
  match (Toml.read? text).bind ofTable? with
  | some settings => settings.check
  | none => .error .unreadable

end Settings

end ScriptBridge
