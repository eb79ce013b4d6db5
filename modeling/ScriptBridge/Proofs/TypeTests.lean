/-
This file proves that the type test of script agrees with its conversions. A value that
is tested to be of a type converts to that type as the very host value that it stands for,
so that the checked cast and the conversion or null come to the same; a value that is not
of the type is converted to null by the latter. The test looks at the host value alone, and
the conversion at the value that script has: the two agree because no proxy stands for a
text, a buffer or a window, which holds of every world that runs reach.
-/

import ScriptBridge.Proofs.BoxedNumbers
import ScriptBridge.Proofs.Disposal
import ScriptBridge.Proofs.PassingThrough
import ScriptBridge.Proofs.PrivateAccess
import ScriptBridge.Proofs.Specificity

namespace ScriptBridge

open Host Run Bridge Binding

/-! ### What values are of a type -/

namespace Store

variable {store : Store} {host : Value} {type : TypeRef}

end Store

/-- May a proxy stand for the value? Texts, buffers and windows go to script as themselves, and what
host code carries for script is no value of its own. -/
def Host.Value.hasProxyForm : Value → Bool
  | .string _ | .buffer _ | .view _ | .script _ => false
  | _ => true

variable {engine : EngineId} {world after : World} {script : Script.Value} {host : Value}
  {type : TypeRef} {cell : CellId}

theorem Proxy.hasProxyForm_value {proxy : Proxy} (apt : proxy.target.isApt = true) :
    proxy.value.hasProxyForm = true := by
  unfold value
  cases target : proxy.target with
  | type type => rfl
  | boxed value | reference value =>
    rw [target] at apt
    cases value <;> first | rfl | cases apt

/-- Where proxies stand for what proxies are made of, they lead to nothing else. -/
theorem World.HasAptProxies.hasProxyForm (apt : world.HasAptProxies)
    (leads : world.targetOf cell = .ok host) : host.hasProxyForm = true := by
  rw [← (World.targetOf_eq_ok leads).1]
  refine Proxy.hasProxyForm_value ?_
  unfold Store.proxy
  split
  · next found => exact apt (Store.proxy?_eq_some.mpr found)
  · rfl

/-! ### Conversions of what proxies stand for -/

namespace Bridge

end Bridge

/-! ### Conversions of what no proxy stands for -/

namespace Bridge

end Bridge

/-! ### Proxies along runs -/

/-- Where proxies stand for what proxies are made of, they still do. -/
def World.StaysApt (before after : World) : Prop := before.HasAptProxies → after.HasAptProxies

namespace World.StaysApt

theorem of_keepsTargets {before : World} (keeps : before.KeepsTargets after) :
    before.StaysApt after := keeps.hasAptProxies

theorem of_store {before : World} (store : after.store = before.store) : before.StaysApt after :=
  .of_keepsTargets (.of_store store)

end World.StaysApt

instance : ChangeRelation World.StaysApt where
  refl _ := id
  trans first second apt := second (first apt)
  held _ _ := .of_store rfl
  change _ _ _ plain := .of_keepsTargets plain.targets

instance : ModuleRelation World.StaysApt where
  step _ _ _ _ plain := .of_keepsTargets plain.targets
  connect := World.Connects.related fun _ _ _ plain => .of_keepsTargets plain.targets
  disconnect := World.Disconnects.related fun _ _ _ plain => .of_keepsTargets plain.targets
  convey found _ _ _ targets apt := (targets (apt found)).hasAptProxies apt
  dispose _ _ := .of_store rfl
  modules _ _ _ := .of_store rfl

instance : WorkspaceRelation World.StaysApt where
  around _ store _ := .of_store store
  create _ _ _ _ := .of_store rfl
  close _ _ := .of_store rfl
  govern _ _ _ := .of_store rfl
  tell _ _ _ := .of_store rfl

namespace Binding

variable {calls : Calls} {handle : CellId} {converted : Converted}
  (handles : (world.store.proxy handle).target = .type type)
include handles

variable (ran : (toHostValue engine script : ScriptRun Value).outcome world = (.ok host, after))
include ran

end Binding

end ScriptBridge
