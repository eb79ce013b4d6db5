/-
This file says when worlds differ in annotations only, and what a proxy then offers
alike. Either the annotations of classes are free to differ, or those of interfaces.
What a value offers through an interface is declared by that interface and those it
leads to, and what it offers of its own by its classes; so each is declared alike
where the annotations of the other are free, and is carried out by the same members
up to annotations.
-/

import ScriptBridge.Binding.Target
import ScriptBridge.Proofs.Annotations

namespace ScriptBridge

open Host Binding

/-! ### Worlds alike -/

/-- Whose annotations are free to differ. -/
inductive Annotated
  | classes
  | interfaces
  deriving DecidableEq, Repr

namespace Host.TypeTable

/-- The type is an interface, or a type names it as one. -/
def ActsAsInterface (table : TypeTable) (key : TypeKey) : Prop :=
  (table.type key).isInterface = true ∨ ∃ other, key ∈ table.interfaces other

/-- The members that a type declares for itself. -/
def ownMembers (table : TypeTable) (key : TypeKey) : List Member :=
  (table.type key).members.filter fun member => member.declaring == key

theorem filter_ownMembers (table : TypeTable) (key : TypeKey) (selects : Member → Bool) :
    (table.ownMembers key).filter selects =
      (table.type key).members.filter fun member => member.declaring == key && selects member := by
  unfold ownMembers
  rw [List.filter_filter]
  exact congrArg (List.filter · _) (funext fun member => Bool.and_comm _ _)

end Host.TypeTable

/-- What is not free to differ is the same. -/
def Annotated.Keeps (free : Annotated) (left right : TypeTable) : Prop :=
  match free with
  | .classes => ∀ key, left.ActsAsInterface key →
      (left.type key).members = (right.type key).members
  | .interfaces => ∀ key, (left.type key).isInterface = false →
      left.ownMembers key = right.ownMembers key

/-- What a value of the type offers through the view is declared where annotations are not free. -/
def Annotated.Hides (free : Annotated) (table : TypeTable) (key : TypeKey)
    (view : Option TypeKey) : Prop :=
  match free with
  | .classes => ∃ interface, view = some interface ∧ (table.type interface).isInterface = true
  | .interfaces => (∀ seen, view = some seen → (table.type seen).isInterface = false) ∧
      ∀ base ∈ table.chain key, (table.type base).isInterface = false

/-- The worlds differ in nothing but annotations: in the types, as far as these are free to differ,
and in what the history tells of them. -/
structure World.Alike (free : Annotated) (left right : World) : Prop where
  bare : left.bare = right.bare
  keeps : free.Keeps left.store.types right.store.types

section

variable {free : Annotated} {left right : World}

theorem Host.TypeTable.interfaces_of_bare {left right : TypeTable} (bare : left.bare = right.bare)
    (key : TypeKey) : left.interfaces key = right.interfaces key := by
  rw [← left.interfaces_bare, bare, right.interfaces_bare]

theorem Host.TypeTable.isInterface_of_bare {left right : TypeTable}
    (bare : left.bare = right.bare) (key : TypeKey) :
    (left.type key).isInterface = (right.type key).isInterface := by
  have same := congrArg (fun table : TypeTable => (table.type key).isInterface) bare
  rw [TypeTable.type_bare, TypeTable.type_bare] at same
  exact same

theorem Host.TypeTable.ActsAsInterface.of_bare {left right : TypeTable}
    (bare : left.bare = right.bare) {key : TypeKey} (acts : left.ActsAsInterface key) :
    right.ActsAsInterface key := by
  rcases acts with interface | ⟨other, named⟩
  · exact .inl (isInterface_of_bare bare key ▸ interface)
  · exact .inr ⟨other, interfaces_of_bare bare other ▸ named⟩

theorem World.types_bare_of_bare (bare : left.bare = right.bare) :
    left.store.types.bare = right.store.types.bare :=
  congrArg (fun world : World => world.store.types) bare

namespace World.Alike

theorem types (alike : left.Alike free right) : left.store.types.bare = right.store.types.bare :=
  types_bare_of_bare alike.bare

theorem refl (free : Annotated) (world : World) : world.Alike free world where
  bare := rfl
  keeps := by cases free <;> exact fun _ _ => rfl

theorem symm (alike : left.Alike free right) : right.Alike free left where
  bare := alike.bare.symm
  keeps := by
    have keeps := alike.keeps
    cases free with
    | classes => exact fun key acts => (keeps key (acts.of_bare alike.types.symm)).symm
    | interfaces =>
      exact fun key plain =>
        (keeps key ((TypeTable.isInterface_of_bare alike.types key).trans plain)).symm

theorem trans {last : World} (first : left.Alike free right) (second : right.Alike free last) :
    left.Alike free last where
  bare := first.bare.trans second.bare
  keeps := by
    have keeps := first.keeps
    have keepsOn := second.keeps
    cases free with
    | classes =>
      exact fun key acts => (keeps key acts).trans (keepsOn key (acts.of_bare first.types))
    | interfaces =>
      exact fun key plain => (keeps key plain).trans
        (keepsOn key ((TypeTable.isInterface_of_bare first.types key).symm.trans plain))

/-- Worlds that are alike stay so, where both change alike and keep their types. -/
theorem change (alike : left.Alike free right) {leftAfter rightAfter : World}
    (bare : leftAfter.bare = rightAfter.bare)
    (leftTypes : leftAfter.store.types = left.store.types)
    (rightTypes : rightAfter.store.types = right.store.types) :
    leftAfter.Alike free rightAfter where
  bare := bare
  keeps := by
    rw [leftTypes, rightTypes]
    exact alike.keeps

/-- Worlds that are alike stay so under a change that does not depend on annotations. -/
theorem commute (alike : left.Alike free right) (change : World → World)
    (same : ∀ world, (change world).bare = change world.bare)
    (types : ∀ world, (change world).store.types = world.store.types) :
    (change left).Alike free (change right) :=
  alike.change (by rw [same left, alike.bare, same right]) (types left) (types right)

/-- What does not depend on annotations is the same. -/
theorem observe {Part : Type} (alike : left.Alike free right) (part : World → Part)
    (blind : ∀ world, part world.bare = part world) : part left = part right := by
  rw [← blind left, alike.bare, blind right]

end World.Alike

end

/-! ### Searches -/

namespace Host.TypeTable

/-- The interfaces found so far, extended by some interfaces and those they lead to. -/
def searchAll (table : TypeTable) (found names : List TypeKey) : List TypeKey :=
  names.foldr (fun interface found => table.searchInterfaces found interface) found

/-- A search for several interfaces is one for the last of them after the other. An interface that
was found before is passed over; a new one is found, and those that it names are searched for. -/
theorem searchAll_induction {table : TypeTable}
    {motive : List TypeKey → List TypeKey → List TypeKey → Prop}
    (nothing : ∀ found, motive [] found found)
    (several : ∀ {interface rest found between result}, motive rest found between →
      motive [interface] between result → motive (interface :: rest) found result)
    (known : ∀ {interface found}, interface ∈ found → motive [interface] found found)
    (new : ∀ {interface found result}, interface ∉ found →
      motive (table.interfaces interface) (found ++ [interface]) result →
        motive [interface] found result)
    (names found : List TypeKey) : motive names found (table.searchAll found names) := by
  have ofEach (names : List TypeKey) (each : ∀ interface ∈ names, ∀ found,
      motive [interface] found (table.searchInterfaces found interface)) (found : List TypeKey) :
      motive names found (table.searchAll found names) := by
    induction names with
    | nil => exact nothing found
    | cons interface rest inductionHypothesis =>
      exact several (inductionHypothesis fun other member =>
        each other (List.mem_cons_of_mem _ member)) (each interface List.mem_cons_self _)
  have single (found : List TypeKey) (interface : TypeKey) :
      motive [interface] found (table.searchInterfaces found interface) := by
    induction interface using Nat.strongRecOn generalizing found with
    | ind interface inductionHypothesis =>
      rw [searchInterfaces_eq]
      split
      · next inside => exact known (List.contains_iff_mem.mp inside)
      · next outside =>
        refine new (fun inside => outside (List.contains_iff_mem.mpr inside)) (ofEach _ ?_ _)
        exact fun next named found =>
          inductionHypothesis next (table.lt_of_mem_interfaces named) found
  exact ofEach names (fun interface _ found => single found interface) found

end Host.TypeTable

/-! ### Slots alike -/

namespace Binding

namespace Slot

section

variable {slot twin : Slot} (same : slot.bare = twin.bare)

include same

theorem implementation_of_bare :
    slot.implementation.implementation = twin.implementation.implementation :=
  (congrArg (fun slot : Slot => slot.implementation.implementation) same :
    slot.bare.implementation.implementation = twin.bare.implementation.implementation)

theorem implementationName_of_bare : slot.implementation.name = twin.implementation.name :=
  (congrArg (fun slot : Slot => slot.implementation.name) same :
    slot.bare.implementation.name = twin.bare.implementation.name)

theorem parameters_of_bare : slot.implementation.parameters = twin.implementation.parameters :=
  (congrArg (fun slot : Slot => slot.implementation.parameters) same :
    slot.bare.implementation.parameters = twin.bare.implementation.parameters)

theorem isGetter_of_bare : slot.isGetter = twin.isGetter :=
  (congrArg isGetter same : slot.bare.isGetter = twin.bare.isGetter)

theorem kind_of_bare : slot.declaration.kind = twin.declaration.kind :=
  (congrArg (fun slot : Slot => slot.declaration.kind) same :
    slot.bare.declaration.kind = twin.bare.declaration.kind)

theorem type_of_bare : slot.declaration.type = twin.declaration.type :=
  (congrArg (fun slot : Slot => slot.declaration.type) same :
    slot.bare.declaration.type = twin.bare.declaration.type)

theorem name_of_bare : slot.declaration.name = twin.declaration.name :=
  (congrArg (fun slot : Slot => slot.declaration.name) same :
    slot.bare.declaration.name = twin.bare.declaration.name)

theorem isKind_of_bare (kind : MemberKind) : slot.isKind kind = twin.isKind kind :=
  congrArg (· == kind) (kind_of_bare same)

end

/-- The slot with the member that runs bare. -/
def blur (slot : Slot) : Slot := { slot with implementation := slot.implementation.bare }

section

variable {slot twin : Slot} (same : slot.blur = twin.blur)

include same

theorem declaration_of_blur : slot.declaration = twin.declaration :=
  (congrArg Slot.declaration same : slot.blur.declaration = twin.blur.declaration)

theorem bare_of_blur : slot.bare = twin.bare :=
  (congrArg (fun slot : Slot => Slot.mk slot.declaration.bare slot.implementation) same :
    Slot.mk slot.blur.declaration.bare slot.blur.implementation =
      Slot.mk twin.blur.declaration.bare twin.blur.implementation)

end

end Slot

/-- The slot with its members changed. -/
def Slot.map (change : Member → Member) (slot : Slot) : Slot :=
  ⟨change slot.declaration, change slot.implementation⟩

section

variable {table changed : TypeTable} {change : Member → Member}
  (annotates : ∀ member, (change member).bare = member.bare)

include annotates

theorem declaring_of_annotates (member : Member) : (change member).declaring = member.declaring :=
  (congrArg Member.declaring (annotates member) : (change member).bare.declaring = _)

theorem isPrivate_of_annotates (member : Member) : (change member).isPrivate = member.isPrivate :=
  (congrArg Member.isPrivate (annotates member) : (change member).bare.isPrivate = _)

theorem sameSignature_of_annotates (left right : Member) :
    (change left).sameSignature (change right) = left.sameSignature right := by
  rw [← Member.sameSignature_bare, annotates, annotates, Member.sameSignature_bare]

theorem addSlot_map (slots : List Slot) (member : Member) :
    addSlot (slots.map (Slot.map change)) (change member) =
      (addSlot slots member).map (Slot.map change) := by
  unfold addSlot
  rw [List.any_map]
  have same : (fun slot : Slot => slot.implementation.sameSignature (change member)) ∘
      Slot.map change = fun slot => slot.implementation.sameSignature member :=
    funext fun slot => sameSignature_of_annotates annotates slot.implementation member
  rw [same]
  split
  · rfl
  · rw [List.map_append]
    rfl

variable (members : ∀ key, (changed.type key).members = (table.type key).members.map change)

include members

omit annotates in
theorem flatMap_members_map (chain : List TypeKey) :
    (chain.flatMap fun key => (changed.type key).members) =
      (chain.flatMap fun key => (table.type key).members).map change := by
  rw [List.map_flatMap]
  exact congrArg (List.flatMap · chain) (funext members)

/-- The members that types declare are collected alike whatever the annotations. -/
theorem collectSlots_map (chain : List TypeKey) {selects : Member → Bool}
    (blind : ∀ member, selects (change member) = selects member) :
    collectSlots changed chain selects =
      (collectSlots table chain selects).map (Slot.map change) := by
  have collected (members : List Member) (slots : List Slot) :
      (members.map change).foldl addSlot (slots.map (Slot.map change)) =
        (members.foldl addSlot slots).map (Slot.map change) := by
    induction members generalizing slots with
    | nil => rfl
    | cons member rest inductionHypothesis =>
      rw [List.map_cons, List.foldl_cons, List.foldl_cons, addSlot_map annotates,
        inductionHypothesis]
  have selected : (chain.flatMap fun key => (changed.type key).members.filter fun member =>
      member.declaring == key && selects member) =
      (chain.flatMap fun key => (table.type key).members.filter fun member =>
        member.declaring == key && selects member).map change := by
    rw [List.map_flatMap]
    refine congrArg (List.flatMap · chain) (funext fun key => ?_)
    rw [members, List.filter_map]
    refine congrArg (List.map change) (congrArg (List.filter · _) (funext fun member => ?_))
    dsimp only [Function.comp]
    rw [declaring_of_annotates annotates, blind]
  unfold collectSlots
  dsimp only
  rw [selected]
  exact collected _ []

/-- A member of an interface is carried out by the same member up to annotations. -/
theorem implementation?_map (chain : List TypeKey) (slots : List Slot) (interface : TypeKey)
    (declaration : Member) :
    implementation? changed chain (slots.map (Slot.map change)) interface (change declaration) =
      (implementation? table chain slots interface declaration).map change := by
  have explicit : ((chain.flatMap fun key => (changed.type key).members).find? fun member =>
      member.declaring == interface && member.sameSignature (change declaration)) =
      ((chain.flatMap fun key => (table.type key).members).find? fun member =>
        member.declaring == interface && member.sameSignature declaration).map change := by
    rw [flatMap_members_map members, List.find?_map]
    refine congrArg (Option.map change) (congrArg (List.find? · _) (funext fun member => ?_))
    dsimp only [Function.comp]
    rw [declaring_of_annotates annotates, sameSignature_of_annotates annotates]
  have implicit : ((slots.map (Slot.map change)).find? fun slot =>
      !slot.implementation.isPrivate && slot.implementation.sameSignature (change declaration)).map
        (·.implementation) =
      ((slots.find? fun slot =>
        !slot.implementation.isPrivate && slot.implementation.sameSignature declaration).map
          (·.implementation)).map change := by
    rw [List.find?_map, Option.map_map, Option.map_map]
    refine congrArg (Option.map _) (congrArg (List.find? · _) (funext fun slot => ?_))
    dsimp only [Function.comp, Slot.map]
    rw [isPrivate_of_annotates annotates, sameSignature_of_annotates annotates]
  have carried : (change declaration).implementation = declaration.implementation :=
    (congrArg Member.implementation (annotates declaration) :
      (change declaration).bare.implementation = _)
  unfold implementation?
  dsimp only
  rw [explicit, implicit, Option.map_or, Option.map_or, carried]
  refine congrArg (Option.or _) ?_
  cases declaration.implementation <;> rfl

end

theorem members_bare (table : TypeTable) (key : TypeKey) :
    (table.bare.type key).members = (table.type key).members.map Member.bare :=
  congrArg HostType.members (TypeTable.type_bare table key)

section

variable {left right : TypeTable}

theorem chain_of_bare (bare : left.bare = right.bare) (key : TypeKey) :
    left.chain key = right.chain key := by
  rw [← left.chain_bare, bare, right.chain_bare]

/-- What holds of the interfaces that a type and its bases are or name, and with an interface of
those it names, holds of all interfaces of the type. -/
theorem forall_mem_allInterfaces {table : TypeTable} {property : TypeKey → Prop}
    (closed : ∀ key, property key → ∀ next ∈ table.interfaces key, property next)
    {key : TypeKey}
    (own : ∀ type ∈ table.chain key, (table.type type).isInterface = true → property type)
    (named : ∀ type ∈ table.chain key, ∀ next ∈ table.interfaces type, property next) :
    ∀ interface ∈ table.allInterfaces key, property interface := by
  have searched (names : List TypeKey) : (∀ name ∈ names, property name) →
      (∀ key ∈ ([] : List TypeKey), property key) → ∀ key ∈ table.searchAll [] names,
        property key := by
    refine TypeTable.searchAll_induction (motive := fun names found result =>
      (∀ name ∈ names, property name) → (∀ key ∈ found, property key) →
        ∀ key ∈ result, property key) (fun _ _ before => before) ?_ (fun _ _ before => before) ?_
      names []
    · intro interface rest found between result restHolds firstHolds holds before
      obtain ⟨first, others⟩ := List.forall_mem_cons.mp holds
      exact firstHolds (List.forall_mem_singleton.mpr first) (restHolds others before)
    · intro interface found result _ namedHolds holds before
      have itself := List.forall_mem_singleton.mp holds
      exact namedHolds (closed interface itself)
        (List.forall_mem_append.mpr ⟨before, List.forall_mem_singleton.mpr itself⟩)
  refine searched _ (fun name inside => ?_) (List.forall_mem_nil _)
  obtain ⟨type, along, from_⟩ := List.mem_flatMap.mp inside
  rcases List.mem_append.mp from_ with itself | other
  · split at itself
    · next interface =>
      rw [List.mem_singleton.mp itself]
      exact own type along interface
    · cases itself
  · exact named type along name other

/-- Whatever is among the interfaces of a type acts as one. -/
theorem actsAsInterface_of_mem {table : TypeTable} {key interface : TypeKey}
    (member : interface ∈ table.allInterfaces key) : table.ActsAsInterface interface :=
  forall_mem_allInterfaces (fun key _ _ named => .inr ⟨key, named⟩)
    (fun _ _ interface => .inl interface) (fun type _ _ named => .inr ⟨type, named⟩) interface
    member

/-- Through an interface, the members are declared alike and carried out by the same members up to
annotations. -/
theorem interfaceSlots_blur (bare : left.bare = right.bare)
    (keeps : Annotated.classes.Keeps left right) (chain : List TypeKey) (view : TypeKey) :
    (interfaceSlots left chain (collectSlots left chain Member.isInstanceMember) view).map
        Slot.blur =
      (interfaceSlots right chain (collectSlots right chain Member.isInstanceMember) view).map
        Slot.blur := by
  have interfaces : left.allInterfaces view = right.allInterfaces view := by
    rw [← left.allInterfaces_bare, bare, right.allInterfaces_bare]
  have carried (interface : TypeKey) (declaration : Member) :
      (implementation? left chain (collectSlots left chain Member.isInstanceMember) interface
        declaration).map Member.bare =
        (implementation? right chain (collectSlots right chain Member.isInstanceMember) interface
          declaration).map Member.bare := by
    have blind (member : Member) : member.bare.bare = member.bare := rfl
    rw [← implementation?_map blind (members_bare left), ← implementation?_map blind (members_bare right),
      ← collectSlots_map blind (members_bare left) _ fun _ => rfl,
      ← collectSlots_map blind (members_bare right) _ fun _ => rfl, bare]
  unfold interfaceSlots
  rw [List.map_flatMap, List.map_flatMap, ← interfaces]
  refine List.flatMap_congr fun interface member => ?_
  rw [← keeps interface (actsAsInterface_of_mem member), List.map_filterMap, List.map_filterMap]
  refine congrArg (List.filterMap · _) (funext fun declaration => ?_)
  split
  · have same := congrArg (Option.map (Slot.mk declaration)) (carried interface declaration)
    rw [Option.map_map, Option.map_map] at same
    rw [Option.map_map, Option.map_map]
    exact same
  · rfl

/-- Members of classes are collected alike where classes are not free. -/
theorem collectSlots_of_keeps (keeps : Annotated.interfaces.Keeps left right)
    {chain : List TypeKey} (plain : ∀ key ∈ chain, (left.type key).isInterface = false)
    (selects : Member → Bool) :
    collectSlots left chain selects = collectSlots right chain selects := by
  unfold collectSlots
  dsimp only
  refine congrArg (List.foldl addSlot []) (List.flatMap_congr fun key member => ?_)
  rw [← left.filter_ownMembers, ← right.filter_ownMembers, keeps key (plain key member)]

theorem baseSlots_of_keeps (keeps : Annotated.interfaces.Keeps left right)
    {derived bases : List TypeKey}
    (derivedPlain : ∀ key ∈ derived, (left.type key).isInterface = false)
    (basesPlain : ∀ key ∈ bases, (left.type key).isInterface = false) :
    baseSlots left derived bases = baseSlots right derived bases := by
  unfold baseSlots
  rw [collectSlots_of_keeps keeps derivedPlain, collectSlots_of_keeps keeps basesPlain]

/-- A value offers the same declarations, carried out by the same members up to annotations. -/
theorem instanceSlots_blur {free : Annotated} (bare : left.bare = right.bare)
    (keeps : free.Keeps left right) {key : TypeKey} {view : Option TypeKey}
    (hides : Annotated.Hides free left key view) :
    (instanceSlots left key view).map Slot.blur = (instanceSlots right key view).map Slot.blur := by
  have chain := chain_of_bare bare key
  cases free with
  | classes =>
    obtain ⟨interface, rfl, isInterface⟩ := hides
    unfold instanceSlots
    dsimp only
    rw [← TypeTable.isInterface_of_bare bare, if_pos isInterface, if_pos isInterface, ← chain]
    exact interfaceSlots_blur bare keeps _ _
  | interfaces =>
    obtain ⟨seen, plain⟩ := hides
    have own := collectSlots_of_keeps keeps plain Member.isInstanceMember
    unfold instanceSlots
    dsimp only
    rw [← chain, ← own]
    cases view with
    | none => rfl
    | some interface =>
      dsimp only
      rw [← TypeTable.isInterface_of_bare bare, seen interface rfl, if_neg Bool.false_ne_true,
        if_neg Bool.false_ne_true]
      refine congrArg (List.map Slot.blur) ?_
      split
      · exact baseSlots_of_keeps keeps (fun key member => plain key (List.mem_of_mem_take member))
          fun key member => plain key (List.mem_of_mem_drop member)
      · rfl

end

/-! ### Scenes alike -/

/-- Does the engine itself, not host code, carry out the slot? -/
def Slot.isIntrinsic (slot : Slot) : Bool :=
  match slot.implementation.implementation with
  | .intrinsic _ => true
  | _ => false

/-- Slots of which none is intrinsic are carried out by host code. -/
theorem hosted_of_all {slots : List Slot} (hosted : slots.all (!·.isIntrinsic) = true) :
    ∀ slot ∈ slots, ∀ number, slot.implementation.implementation ≠ .intrinsic number := by
  intro slot offered number carried
  have external := List.all_eq_true.mp hosted slot offered
  unfold Slot.isIntrinsic at external
  rw [carried] at external
  cases external

/-- The scenes differ in nothing but annotations. They are of values, what they offer is declared
alike and carried out by the same members up to annotations, and none of it is for the engine itself
to carry out. -/
structure Scene.Alike (left right : Scene) : Prop where
  bare : left.bare = right.bare
  ofValue : ∀ type, left.subject ≠ .statics type
  slots : left.slots.map Slot.blur = right.slots.map Slot.blur
  hosted : ∀ slot ∈ left.slots, ∀ number, slot.implementation.implementation ≠ .intrinsic number

theorem access_bare (policy : Policy) (table : TypeTable) (member : Member)
    (privateAccess : Bool) :
    policy.access table.bare member privateAccess =
      policy.access table member privateAccess := by
  unfold Policy.access Policy.seesPrivate
  simp only [TypeTable.chain_bare]

/-- Slots that blur alike are filtered alike. -/
theorem filter_blur {left right : List Slot} (alike : left.map Slot.blur = right.map Slot.blur)
    {selects : Slot → Bool} (blind : ∀ slot, selects slot.blur = selects slot) :
    (left.filter selects).map Slot.blur = (right.filter selects).map Slot.blur := by
  have same : selects ∘ Slot.blur = selects := funext blind
  rw [← same, ← List.filter_map, ← List.filter_map, alike]

namespace Scene

section

variable {left right : Scene} (same : left.bare = right.bare)

include same

theorem proxy_of_bare : left.proxy = right.proxy :=
  (congrArg Scene.proxy same : left.bare.proxy = right.bare.proxy)

theorem subject_of_bare : left.subject = right.subject :=
  (congrArg Scene.subject same : left.bare.subject = right.bare.subject)

theorem table_of_bare : left.sight.table.bare = right.sight.table.bare :=
  congrArg (fun scene : Scene => scene.sight.table) same

/-- Script has the same access to slots. -/
theorem access_of_bare : left.sight.access = right.sight.access := by
  have policy : left.bare.sight.policy = right.bare.sight.policy :=
    congrArg (fun scene : Scene => scene.sight.policy) same
  have privateAccess : left.bare.sight.privateAccess = right.bare.sight.privateAccess :=
    congrArg (fun scene : Scene => scene.sight.privateAccess) same
  funext slot
  unfold Sight.access
  rw [← access_bare, table_of_bare same, access_bare]
  exact congr (congrArg (Policy.access · right.sight.table slot.declaration) policy) privateAccess

theorem sees_of_bare : left.sight.sees = right.sight.sees := by
  funext slot
  unfold Sight.sees
  rw [access_of_bare same]

theorem mayWrite_of_bare : left.sight.mayWrite = right.sight.mayWrite := by
  funext slot
  unfold Sight.mayWrite
  rw [access_of_bare same]

end

end Scene

namespace Scene.Alike

variable {left right : Scene} (alike : left.Alike right)

include alike

/-- Names find slots that are alike. -/
theorem visible (name : String) :
    (left.lookup name).visible.map Slot.blur = (right.lookup name).visible.map Slot.blur := by
  unfold Scene.lookup
  dsimp only
  rw [sees_of_bare alike.bare]
  exact filter_blur alike.slots fun _ => rfl

theorem declared (name : String) : (left.lookup name).declared = (right.lookup name).declared := by
  have counted (slots : List Slot) :
      slots.countP (·.isNamed name) = (slots.map Slot.blur).countP (·.isNamed name) := by
    rw [List.countP_map]
    rfl
  unfold Scene.lookup
  dsimp only
  rw [counted, alike.slots, ← counted]

end Scene.Alike

end Binding

end ScriptBridge
