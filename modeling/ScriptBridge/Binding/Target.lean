/-
This file starts every operation on a proxy: from what the proxy stands for now
it finds the members that script sees, under the names it sees them by. A proxy
of a type binds static members, a proxy of a value of a registered type binds
instance members through the proxy's view, and other values have no members of
their own.
-/

import ScriptBridge.Host.Run

namespace ScriptBridge.Binding

open Host Run

/-! ### Scenes -/

/-- The host value behind a proxy, in use until the scope ends. -/
def target (proxy : CellId) : ScriptRun Host.Value := do
  hold (← ofExcept (← observe (·.targetOf proxy)))

/-- What an operation on a value works on. -/
def subjectIn (store : Store) : Host.Value → Subject
  | .type type => .statics type
  | value =>
    match store.typeOf value with
    | .named key => .member value key
    | _ => .plain value

/-- The subject of a proxy. -/
def subjectOf (proxy : CellId) : ScriptRun Subject := do
  let current ← target proxy
  readStore (subjectIn · current)

/-- What an engine's script sees in a world through a proxy of a subject. -/
def sceneIn (world : World) (engine : EngineId) (proxy : CellId) (subject : Subject) : Scene :=
  let contents := world.store.proxy proxy
  let sight : Sight :=
    ⟨(world.engine engine).policy, world.store.types, contents.flags.contains .privateAccess⟩
  ⟨engine, proxy, subject, contents.view, sight⟩

/-- What an engine's script sees now through a proxy of a subject. -/
def sceneOf (engine : EngineId) (proxy : CellId) (subject : Subject) : ScriptRun Scene :=
  observe (sceneIn · engine proxy subject)

/-- Looks at a proxy to use a member of it. -/
def look (engine : EngineId) (proxy : CellId) : ScriptRun Scene := do
  let scene ← sceneOf engine proxy (← subjectOf proxy)
  note (.looked scene)
  return scene

/-! ### Bodies -/

/-- Runs the body of a member that was looked up. -/
def useBody (calls : Calls) (scene : Scene) (slot : Slot) (action : Body → Action) (body : Body)
    (setting : Setting) (arguments : List Host.Value) :
    HostRun (Host.Value × List Host.Value) := do
  note (.used ⟨scene, slot, action body⟩)
  body.run calls setting arguments

end ScriptBridge.Binding
