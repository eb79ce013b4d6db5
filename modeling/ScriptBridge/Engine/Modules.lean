/-
This file keeps the records of an engine's modules. A module is recorded under its
specifier before its body runs, so that no other run of it starts meanwhile; the
record is marked when the body completes and removed when it fails. The chronicle
tells what became of every request for a module so far, latest first.
-/

import ScriptBridge.Store.Cell

namespace ScriptBridge

/-- A recorded module: the cell that it lives in, and whether its body completed. -/
structure ModuleRecord where
  cell : CellId
  evaluated : Bool
  deriving DecidableEq, Repr, Inhabited

/-- What happened to the modules of an engine. -/
inductive ModuleEvent
  /-- A recorded module was asked for again and not run. -/
  | passed (specifier : String)
  /-- A module that was not recorded was asked for and could not be made to run. -/
  | refused (specifier : String)
  /-- The body of a module that was not recorded is about to run. -/
  | started (specifier : String)
  | completed (specifier : String)
  | failed (specifier : String)
  /-- All records were removed for good. -/
  | disposed
  deriving DecidableEq, Repr

/-- The modules of an engine. -/
structure ModuleCache where
  records : Named ModuleRecord := []
  chronicle : List ModuleEvent := []
  deriving Inhabited

namespace ModuleCache

/-- Is a module recorded under the specifier? -/
def has (cache : ModuleCache) (specifier : String) : Bool := cache.records.has specifier

/-- Is a module recorded under the specifier whose body completed? -/
def isEvaluated (cache : ModuleCache) (specifier : String) : Bool :=
  (cache.records.get? specifier).any (·.evaluated)

/-- The modules once a recorded one has been passed. -/
def pass (specifier : String) (cache : ModuleCache) : ModuleCache :=
  { cache with chronicle := .passed specifier :: cache.chronicle }

/-- The modules once one that is not recorded could not be made to run. -/
def refuse (specifier : String) (cache : ModuleCache) : ModuleCache :=
  { cache with chronicle := .refused specifier :: cache.chronicle }

/-- The modules with one recorded whose body is about to run. -/
def start (specifier : String) (cell : CellId) (cache : ModuleCache) : ModuleCache where
  records := cache.records.put specifier ⟨cell, false⟩
  chronicle := .started specifier :: cache.chronicle

/-- The modules once a body has completed. Its record is marked, if it is still there. -/
def complete (specifier : String) (cell : CellId) (cache : ModuleCache) : ModuleCache where
  records := cache.records.map fun entry =>
    if entry.1 == specifier && entry.2.cell == cell then (specifier, ⟨cell, true⟩) else entry
  chronicle := .completed specifier :: cache.chronicle

/-- The modules once a body has failed. -/
def drop (specifier : String) (cache : ModuleCache) : ModuleCache where
  records := cache.records.erase specifier
  chronicle := .failed specifier :: cache.chronicle

/-- The modules once the engine is disposed. -/
def dispose (cache : ModuleCache) : ModuleCache where
  records := []
  chronicle := .disposed :: cache.chronicle

end ModuleCache

end ScriptBridge
