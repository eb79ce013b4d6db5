/-
This file shows values: as trees with type names in place of keys, down to a
fixed depth. Values with an identity keep their cell, so that a reader can tell
which of the things shown are the same.
-/

import ScriptBridge.World

namespace ScriptBridge.World

/-- The levels of a value that are shown. -/
def shownLevels : Nat := 9

mutual

/-- A host value, shown down to a number of levels. -/
def showHost (world : World) : Nat → Host.Value → Shown
  | 0, _ => .cut
  | levels + 1, value =>
    let store := world.store
    let typeName (key : Host.TypeKey) : String := (store.types.type key).name
    match value with
    | .enumeration type raw => .enumeration (typeName type) raw
    | .struct type fields => .struct (typeName type) (fields.map (world.showHost levels))
    | .object cell => .object (typeName (store.objectType cell)) cell
    | .array cell =>
      .array (store.types.display (store.element cell))
        ((store.hostItems cell).toList.map (world.showHost levels)) cell
    | .buffer cell => .buffer (store.bytes cell) cell
    | .view view =>
      .view view.window.kind.name view.window.offset view.window.length view.buffer
    | .delegate cell => .delegate (typeName (store.delegateType cell)) cell
    | .type type => .type (store.types.display type)
    | .box cell =>
      .box (store.types.display (store.boxType cell)) (world.showHost levels (store.boxValue cell))
        cell
    | .script handle =>
      match store.handle? handle with
      | some inner => .carried (world.showScript levels inner)
      | none => .cut
    | scalar => .host scalar
  termination_by levels => levels

/-- A script value, shown down to a number of levels. -/
def showScript (world : World) : Nat → Script.Value → Shown
  | 0, _ => .cut
  | levels + 1, value =>
    let store := world.store
    match value with
    | .array cell => .scriptArray ((store.scriptItems cell).toList.map (world.showScript levels))
    | .object cell =>
      let names := (store.properties cell).sortedNames
      .scriptObject names (names.map fun name => world.showScript levels (store.property cell name))
    | .function cell => .function (store.function cell).name
    | .buffer cell => .scriptBuffer (store.bytes cell) cell
    | .view view =>
      .scriptView view.window.kind.name view.window.offset view.window.length view.buffer
    | .member cell => .member (store.member cell).kind.name (store.member cell).name
    | .wrappedNull type => .wrappedNull (store.types.display type)
    | .proxy cell =>
      match world.targetOf cell with
      | .ok target =>
        let proxy := store.proxy cell
        .proxy (world.showHost levels target)
          (proxy.view.map fun view => (store.types.type view).name) proxy.flags.bits
      | .error error => .unreachable error.name
    | primitive => .script primitive
  termination_by levels => levels

end

/-- A host value as it is shown. -/
def shownHost (world : World) (value : Host.Value) : Shown := world.showHost shownLevels value

/-- A script value as it is shown. -/
def shownScript (world : World) (value : Script.Value) : Shown := world.showScript shownLevels value

end ScriptBridge.World
