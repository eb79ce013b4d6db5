/-
This file gives members another name for script and asks what becomes of the forms that
mention no name: calling an object and indexing it, to read and to assign. What an
object offers, and what script may do with it, is the same under the new name. But a
call of an object with a declared default member looks for the name that the type
declares, and keys look for the name that indexers are declared under. Where the new
name takes that name away, nothing is found; where it does not, the forms have the same
outcome as before.
-/

import ScriptBridge.Proofs.DefaultMember
import ScriptBridge.Proofs.Offers

namespace ScriptBridge

open Host Binding Run

/-! ### Slots under other annotations -/

namespace Binding

section

variable {table changed : TypeTable} {change : Member → Member}
  (annotates : ∀ member, (change member).bare = member.bare)
  (members : ∀ key, (changed.type key).members = (table.type key).members.map change)
  (bare : table.bare = changed.bare)

include annotates

theorem isInstanceMember_of_annotates (member : Member) :
    (change member).isInstanceMember = member.isInstanceMember :=
  (congrArg Member.isInstanceMember (annotates member) : (change member).bare.isInstanceMember = _)

include members

theorem baseSlots_map (derived bases : List TypeKey) :
    baseSlots changed derived bases = (baseSlots table derived bases).map (Slot.map change) := by
  have blind := isInstanceMember_of_annotates annotates
  unfold baseSlots
  dsimp only
  rw [collectSlots_map annotates members derived blind,
    collectSlots_map annotates members bases blind, List.map_map, List.map_map]
  refine congrArg (List.map · _) (funext fun slot => ?_)
  dsimp only [Function.comp]
  rw [List.find?_map]
  have same : (fun other : Slot => other.implementation.sameSignature
      (Slot.map change slot).declaration) ∘ Slot.map change =
      fun other => other.implementation.sameSignature slot.declaration :=
    funext fun other => sameSignature_of_annotates annotates other.implementation slot.declaration
  rw [same]
  cases (collectSlots table derived Member.isInstanceMember).find? fun other =>
    other.implementation.sameSignature slot.declaration <;> rfl

include bare

theorem interfaceSlots_map (chain : List TypeKey) (slots : List Slot) (view : TypeKey) :
    interfaceSlots changed chain (slots.map (Slot.map change)) view =
      (interfaceSlots table chain slots view).map (Slot.map change) := by
  have interfaces : changed.allInterfaces view = table.allInterfaces view := by
    rw [← changed.allInterfaces_bare, ← bare, table.allInterfaces_bare]
  unfold interfaceSlots
  rw [interfaces, List.map_flatMap]
  refine congrArg (List.flatMap · _) (funext fun interface => ?_)
  rw [members, List.filterMap_map, List.map_filterMap]
  refine congrArg (List.filterMap · _) (funext fun declaration => ?_)
  dsimp only [Function.comp]
  rw [declaring_of_annotates annotates, isInstanceMember_of_annotates annotates,
    implementation?_map annotates members]
  split
  · rw [Option.map_map, Option.map_map]
    rfl
  · rfl

/-- An instance offers the same members whatever their annotations. -/
theorem instanceSlots_map (key : TypeKey) (view : Option TypeKey) :
    instanceSlots changed key view = (instanceSlots table key view).map (Slot.map change) := by
  have own (chain : List TypeKey) :=
    collectSlots_map annotates members chain (isInstanceMember_of_annotates annotates)
  unfold instanceSlots
  dsimp only
  rw [← chain_of_bare bare, own]
  cases view with
  | none => rfl
  | some view =>
    dsimp only
    rw [← TypeTable.isInterface_of_bare bare]
    split
    · exact interfaceSlots_map annotates members bare _ _ _
    · split
      · exact baseSlots_map annotates members _ _
      · rfl

end

end Binding

/-! ### Renamings -/

/-- A name for script that some members get. -/
structure Renaming where
  selects : Member → Bool
  name : String

namespace Renaming

variable (naming : Renaming)

/-- The member, under the name if it gets it. -/
def member (member : Member) : Member :=
  if naming.selects member then { member with rename := some naming.name } else member

/-- The type with its members under their names. -/
def type (type : HostType) : HostType :=
  { type with members := type.members.map naming.member }

/-- The types with their members under their names. -/
def table (table : TypeTable) : TypeTable := ⟨table.types.map naming.type⟩

/-- The world with the types renamed, and otherwise as it is. -/
def world (world : World) : World :=
  { world with store := { world.store with types := naming.table world.store.types } }

/-- What a proxy offers in a world with the types renamed. -/
def scene (scene : Scene) : Scene :=
  { scene with sight := { scene.sight with table := naming.table scene.sight.table } }

/-- The slot with its members under their names. -/
abbrev slot (slot : Slot) : Slot := slot.map naming.member

/-! ### What stays -/

theorem member_bare (member : Member) : (naming.member member).bare = member.bare := by
  unfold Renaming.member
  split <;> rfl

theorem slot_bare (slot : Slot) : (naming.slot slot).bare = slot.bare := by
  show Slot.mk (naming.member slot.declaration).bare (naming.member slot.implementation).bare =
    Slot.mk slot.declaration.bare slot.implementation.bare
  rw [naming.member_bare, naming.member_bare]

theorem type_table (table : TypeTable) (key : TypeKey) :
    (naming.table table).type key = naming.type (table.type key) := by
  unfold TypeTable.type Renaming.table
  rw [Array.getElem?_map]
  cases table.types[key]? <;> rfl

theorem members_table (table : TypeTable) (key : TypeKey) :
    ((naming.table table).type key).members = (table.type key).members.map naming.member :=
  congrArg HostType.members (naming.type_table table key)

theorem table_bare (table : TypeTable) : table.bare = (naming.table table).bare := by
  have same (type : HostType) : (naming.type type).bare = type.bare := by
    unfold HostType.bare Renaming.type
    rw [List.map_map]
    refine congrArg (fun members : List Member =>
      { type with members, defaultAccess := none }) (List.map_congr_left fun member _ => ?_)
    exact naming.member_bare member
  unfold TypeTable.bare Renaming.table
  rw [Array.map_map]
  exact congrArg (fun change => TypeTable.mk (table.types.map change)) (funext same).symm

theorem scene_bare (scene : Scene) : scene.bare = (naming.scene scene).bare :=
  congrArg (fun table => { scene with sight := { scene.sight with table } })
    (naming.table_bare scene.sight.table)

/-- Worlds with and without the renaming are alike where no other members get the name than those
whose annotations are free to differ. -/
theorem alike {free : Annotated} {world : World}
    (keeps : free.Keeps world.store.types (naming.table world.store.types)) :
    world.Alike free (naming.world world) where
  bare := congrArg (fun types : TypeTable =>
    { world.bare with store := { world.store with types } }) (naming.table_bare world.store.types)
  keeps := keeps

/-- A renaming of members of classes leaves interfaces as they are. -/
theorem keeps_of_classes {table : TypeTable}
    (ofClasses : ∀ key, table.ActsAsInterface key →
      ∀ member ∈ (table.type key).members, naming.selects member = false) :
    Annotated.classes.Keeps table (naming.table table) := by
  intro key acts
  have unnamed (member : Member) (inside : member ∈ (table.type key).members) :
      naming.member member = member := by
    unfold Renaming.member
    rw [ofClasses key acts member inside, if_neg Bool.false_ne_true]
  rw [members_table, List.map_congr_left unnamed, List.map_id']

/-- The name is no matter of access. -/
theorem access_scene (scene : Scene) (slot : Slot) :
    (naming.scene scene).sight.access (naming.slot slot) = scene.sight.access slot := by
  have named (table : TypeTable) : scene.sight.policy.access table
      (naming.member slot.declaration) scene.sight.privateAccess =
      scene.sight.policy.access table slot.declaration scene.sight.privateAccess := by
    unfold Renaming.member
    split <;> rfl
  rw [← Scene.access_of_bare (naming.scene_bare scene)]
  exact named _

theorem sees_scene (scene : Scene) (slot : Slot) :
    (naming.scene scene).sight.sees (naming.slot slot) = scene.sight.sees slot :=
  congrArg Access.isVisible (naming.access_scene scene slot)

theorem mayWrite_scene (scene : Scene) (slot : Slot) :
    scene.sight.mayWrite slot = (naming.scene scene).sight.mayWrite (naming.slot slot) :=
  congrArg Access.isWritable (naming.access_scene scene slot).symm

theorem pairs_scene (scene : Scene) (slot : Slot) :
    scene.Pairs (naming.scene scene) slot (naming.slot slot) :=
  ⟨(naming.slot_bare slot).symm, naming.mayWrite_scene scene slot⟩

theorem name_member (member : Member) : (naming.member member).name = member.name :=
  (congrArg Member.name (naming.member_bare member) : (naming.member member).bare.name = _)

theorem slots_scene (scene : Scene) :
    (naming.scene scene).slots = scene.slots.map naming.slot := by
  unfold Scene.slots
  show scene.subject.slots (naming.table scene.sight.table) scene.view = _
  cases scene.subject with
  | statics type =>
    cases type with
    | named key =>
      have same := (chain_of_bare (naming.table_bare scene.sight.table) key).symm
      have blind (member : Member) : ((naming.member member).isStatic &&
          (naming.member member).kind != .constructor) =
            (member.isStatic && member.kind != .constructor) := by
        unfold Renaming.member
        split <;> rfl
      unfold Subject.slots staticSlots
      dsimp only
      rw [same]
      exact collectSlots_map naming.member_bare (naming.members_table _) _ blind
    | _ => rfl
  | member value key =>
    exact instanceSlots_map naming.member_bare (naming.members_table _) (naming.table_bare _) key _
  | plain value => rfl

/-- The first indexer that script sees stays the first. -/
theorem indexer?_scene (scene : Scene) :
    (naming.scene scene).indexer? = scene.indexer?.map naming.slot := by
  unfold Scene.indexer?
  rw [naming.slots_scene, List.find?_map]
  refine congrArg (Option.map naming.slot) (congrArg (List.find? · _) (funext fun slot => ?_))
  dsimp only [Function.comp]
  rw [naming.sees_scene, Slot.isKind_of_bare (naming.slot_bare slot)]

end Renaming

/-! ### What names find -/

/-- The members of the scene that go by the name, and no others, get the new one, by which none of
them went. -/
structure Binding.Scene.Renames (scene : Scene) (naming : Renaming) (name : String) : Prop where
  selected : ∀ slot ∈ scene.slots, slot.isNamed name = naming.selects slot.declaration
  named : ∀ slot ∈ scene.slots, naming.selects slot.declaration = true →
    slot.declaration.scriptName = name
  fresh : ∀ slot ∈ scene.slots, slot.isNamed naming.name = false

namespace Renaming

variable {naming : Renaming} {scene : Scene} {slot : Slot} {old name twin : String}

theorem isNamed_slot (naming : Renaming) (slot : Slot) (name : String) :
    (naming.slot slot).isNamed name =
      ((naming.member slot.declaration).scriptName == name || slot.declaration.name == name) := by
  unfold Slot.isNamed
  rw [← naming.name_member slot.declaration]
  rfl

/-- The name finds in the scene what its twin finds after the renaming, where the same slots go by
them. -/
theorem finds_of_same
    (script : ∀ slot ∈ scene.slots, ((naming.member slot.declaration).scriptName == twin) =
      (slot.declaration.scriptName == name))
    (known : ∀ slot ∈ scene.slots, (naming.slot slot).isNamed twin = slot.isNamed name) :
    scene.Finds (naming.scene scene) name twin where
  bare := naming.scene_bare scene
  visible := by
    have shown : ((naming.scene scene).lookup twin).visible =
        (scene.lookup name).visible.map naming.slot := by
      unfold Scene.lookup
      dsimp only
      rw [naming.slots_scene, List.filter_map]
      refine congrArg (List.map naming.slot) (List.filter_congr fun slot offered => ?_)
      dsimp only [Function.comp]
      rw [naming.sees_scene]
      exact congrArg (scene.sight.sees slot && ·) (script slot offered)
    rw [shown, List.forall₂_map_right_iff]
    exact List.forall₂_same.mpr fun slot _ => naming.pairs_scene scene slot
  declared := by
    unfold Scene.lookup
    dsimp only
    rw [naming.slots_scene, List.countP_map]
    exact List.countP_congr fun slot offered => iff_of_eq (congrArg (· = true)
      (known slot offered).symm)
  misses count := by
    have accepts (slot : Slot) : (naming.slot slot).implementation.acceptsCount count =
        slot.implementation.acceptsCount count := by
      show (naming.member slot.implementation).acceptsCount count = _
      unfold Renaming.member
      split <;> rfl
    unfold missesCount
    rw [naming.slots_scene, List.all_map]
    refine congrArg (decide (0 < count) && ·) ?_
    rw [Bool.eq_iff_iff, List.all_eq_true, List.all_eq_true]
    refine forall₂_congr fun slot offered => ?_
    dsimp only [Function.comp]
    rw [known slot offered, accepts]

theorem scriptName_member (naming : Renaming) (member : Member) :
    (naming.member member).scriptName =
      if naming.selects member then naming.name else member.scriptName := by
  unfold Renaming.member
  split <;> rfl

variable (renames : scene.Renames naming old) (offered : slot ∈ scene.slots)

include renames offered

theorem scriptName_ne_of_not (unselected : naming.selects slot.declaration = false) :
    slot.declaration.scriptName ≠ old := by
  intro is
  have known := renames.selected slot offered
  unfold Slot.isNamed at known
  rw [is, beq_self_eq_true, Bool.true_or, unselected] at known
  cases known

theorem names_ne_of_fresh : slot.declaration.scriptName ≠ naming.name ∧
    slot.declaration.name ≠ naming.name := by
  have unknown := renames.fresh slot offered
  unfold Slot.isNamed at unknown
  rw [Bool.or_eq_false_iff, beq_eq_false_iff_ne, beq_eq_false_iff_ne] at unknown
  exact unknown

omit offered

/-- Other names find what they found. -/
theorem finds_other (other : name ≠ old) (unused : name ≠ naming.name) :
    scene.Finds (naming.scene scene) name name := by
  have script : ∀ slot ∈ scene.slots, ((naming.member slot.declaration).scriptName == name) =
      (slot.declaration.scriptName == name) := by
    intro slot offered
    rw [scriptName_member]
    split
    · next selected =>
      rw [renames.named slot offered selected, beq_false_of_ne unused.symm,
        beq_false_of_ne other.symm]
    · rfl
  refine finds_of_same script fun slot offered => ?_
  rw [isNamed_slot, script slot offered]
  rfl

/-- The new name finds what the old one found. -/
theorem finds_renamed : scene.Finds (naming.scene scene) old naming.name := by
  have script : ∀ slot ∈ scene.slots,
      ((naming.member slot.declaration).scriptName == naming.name) =
        (slot.declaration.scriptName == old) := by
    intro slot offered
    rw [scriptName_member]
    split
    · next selected => rw [renames.named slot offered selected, beq_self_eq_true, beq_self_eq_true]
    · next unselected =>
      rw [beq_false_of_ne (names_ne_of_fresh renames offered).1, beq_false_of_ne
        (scriptName_ne_of_not renames offered (Bool.eq_false_iff.mpr unselected))]
  refine finds_of_same script fun slot offered => ?_
  rw [isNamed_slot, script slot offered,
    beq_false_of_ne (names_ne_of_fresh renames offered).2, Bool.or_false,
    renames.selected slot offered]
  cases selected : naming.selects slot.declaration with
  | true => rw [renames.named slot offered selected, beq_self_eq_true]
  | false => exact beq_false_of_ne (scriptName_ne_of_not renames offered selected)

/-- The old name finds nothing any more. -/
theorem lookup_old : ((naming.scene scene).lookup old).visible = [] := by
  unfold Scene.lookup
  dsimp only
  rw [naming.slots_scene, List.filter_map, List.map_eq_nil_iff, List.filter_eq_nil_iff]
  intro slot offered
  dsimp only [Function.comp]
  rw [Bool.and_eq_true, not_and]
  intro _ is
  have is : (naming.member slot.declaration).scriptName = old := beq_iff_eq.mp is
  rw [scriptName_member] at is
  split at is
  · next selected =>
    exact (names_ne_of_fresh renames offered).1 ((renames.named slot offered selected).trans is.symm)
  · next unselected =>
    exact scriptName_ne_of_not renames offered (Bool.eq_false_iff.mpr unselected) is

/-! ### What calls and keys look for -/

/-- Script finds under the name that a member goes by what it found under the one it went by. -/
theorem finds_script (offered : slot ∈ scene.slots) :
    scene.Finds (naming.scene scene) slot.declaration.scriptName
      (naming.member slot.declaration).scriptName := by
  rw [scriptName_member]
  cases selected : naming.selects slot.declaration with
  | true =>
    rw [renames.named slot offered selected]
    exact finds_renamed renames
  | false =>
    exact finds_other renames (scriptName_ne_of_not renames offered selected)
      (names_ne_of_fresh renames offered).1

/-- A member that goes by another name is found among indexers, if indexers only are renamed. -/
theorem first_of_selected (offered : slot ∈ scene.slots) (seen : scene.sight.sees slot = true)
    (selected : naming.selects slot.declaration = true)
    (indexers : ∀ slot ∈ scene.slots, naming.selects slot.declaration = true →
      slot.isKind .indexer = true) :
    ∃ first rest, (scene.lookup slot.declaration.scriptName).visible = first :: rest ∧
      first.declaration.kind = .indexer := by
  have named := renames.named slot offered selected
  have found : slot ∈ (scene.lookup slot.declaration.scriptName).visible :=
    List.mem_filter.mpr ⟨offered, by rw [seen, beq_self_eq_true]; rfl⟩
  obtain ⟨first, rest, found⟩ := List.exists_cons_of_ne_nil (List.ne_nil_of_mem found)
  have isFirst : first ∈ (scene.lookup slot.declaration.scriptName).visible :=
    found ▸ List.mem_cons_self
  have offered := (List.mem_filter.mp isFirst).1
  have selected : naming.selects first.declaration = true := by
    rw [← renames.selected first offered]
    unfold Slot.isNamed
    rw [scriptName_of_mem_lookup isFirst, named, beq_self_eq_true, Bool.true_or]
  exact ⟨first, rest, found, beq_iff_eq.mp (indexers first offered selected)⟩

/-- What calls of the value look for is found alike, unless the type declares the old name for it.
Without a declaration they look for the first indexer, under whichever name. -/
theorem callsAlike {value : Host.Value} {key : TypeKey} (ofMember : scene.subject = .member value key)
    (kept : scene.declaredName? ≠ some old) (unused : scene.declaredName? ≠ some naming.name)
    (indexers : scene.declaredName? = none → ∀ slot ∈ scene.slots,
      naming.selects slot.declaration = true → slot.isKind .indexer = true)
    (hosts : ∀ name, scene.Hosts name) : scene.CallsAlike (naming.scene scene) where
  bare := naming.scene_bare scene
  ofValue type is := by
    rw [ofMember] at is
    cases is
  found := by
    have declaredTwin := Scene.declaredName?_of_bare (naming.scene_bare scene)
    have ofMemberTwin : (naming.scene scene).subject = .member value key := ofMember
    cases declared : scene.declaredName? with
    | some name =>
      rw [declared] at declaredTwin
      refine .inr ⟨name, name, callName?_of_declared declared,
        callName?_of_declared declaredTwin.symm, ?_, .inl ⟨rfl, hosts name⟩⟩
      exact finds_other renames (fun is => kept (is ▸ declared)) fun is => unused (is ▸ declared)
    | none =>
      rw [declared] at declaredTwin
      rw [callName?_of_undeclared ofMember declared,
        callName?_of_undeclared ofMemberTwin declaredTwin.symm, naming.indexer?_scene]
      cases first : scene.indexer? with
      | none => exact .inl ⟨rfl, rfl⟩
      | some slot =>
        have offered := List.mem_of_find?_eq_some first
        have shown := List.find?_some first
        refine .inr ⟨_, _, rfl, rfl, finds_script renames offered, ?_⟩
        cases selected : naming.selects slot.declaration with
        | true =>
          exact .inr (first_of_selected renames offered (Bool.and_eq_true_iff.mp shown).2 selected
            (indexers declared))
        | false =>
          refine .inl ⟨?_, hosts _⟩
          show _ = (naming.member slot.declaration).scriptName
          rw [scriptName_member, selected, if_neg Bool.false_ne_true]

/-- What keys look for is found alike, unless it is the old name or one of the names is the key. -/
theorem keysAlike (kept : Member.indexerName ≠ old) (unused : Member.indexerName ≠ naming.name)
    {keys : List Script.Value}
    (unnamed : ∀ name, keys = [.string name] → name ≠ old ∧ name ≠ naming.name) :
    scene.KeysAlike keys (naming.scene scene) where
  indexers := finds_other renames kept unused
  named is _ := finds_other renames (unnamed _ is).1 (unnamed _ is).2

end Renaming

/-! ### The forms that mention no name -/

namespace Operation

/-- The operations that call a value. -/
def callForms (proxy : CellId) (keys : List Script.Value) (assigned : Script.Value) :
    List Operation :=
  [.invoke proxy keys, .setInvoke proxy keys assigned]

/-- The operations that give a value keys. -/
def keyForms (proxy : CellId) (keys : List Script.Value) (assigned : Script.Value) :
    List Operation :=
  [.getIndex proxy keys, .setIndex proxy keys assigned]

end Operation

section

variable {free : Annotated} {engine : EngineId} {left right : World} {proxy : CellId}
  {value : Host.Value} {key : TypeKey} {related : Scene → Scene → Prop}

/-- An operation has the same outcome where what it looks for is found alike. -/
theorem World.Presents.sameIn (presents : left.Presents proxy value key)
    (alike : left.Alike free right)
    (here : related (sceneIn left engine proxy (.member value key))
      (sceneIn left engine proxy (.member value key)))
    (there : related (sceneIn left engine proxy (.member value key))
      (sceneIn right engine proxy (.member value key))) {operation : Operation}
    (agrees : ∀ {cut : Prop} {calls twin : Calls}, calls.Agree free cut twin →
      AgreesFrom free cut (World.Faces engine proxy related) Eq (operation.run calls engine)
        (operation.run twin engine)) (calls : Calls) :
    operation.SameIn free calls engine left right :=
  Operation.sameIn_of_agree
    (fun agree => agrees agree (.refl free left) (presents.faces here))
    fun agree => agrees agree alike (presents.faces there)

end

/-- What the forms that mention no name come to under a renaming of the members that go by a name.
Calls go by the name that the type declares, and keys by that of indexers; if the renaming takes
that name away nothing is found, and otherwise the outcome is the same. -/
structure World.RenamesForms (free : Annotated) (calls : Calls) (engine : EngineId)
    (proxy : CellId) (value : Host.Value) (key : TypeKey) (naming : Renaming) (old : String)
    (world : World) : Prop where
  calledAlike : world.store.types.defaultMember? key ≠ some old →
    world.store.types.defaultMember? key ≠ some naming.name →
    (world.store.types.defaultMember? key = none →
      ∀ slot ∈ (sceneIn world engine proxy (.member value key)).slots,
        naming.selects slot.declaration = true → slot.isKind .indexer = true) →
    ∀ keys assigned, ∀ form ∈ Operation.callForms proxy keys assigned,
      form.SameIn free calls engine world (naming.world world)
  keyedAlike : Member.indexerName ≠ old → Member.indexerName ≠ naming.name → ∀ keys assigned,
    (∀ name, keys = [.string name] → name ≠ old ∧ name ≠ naming.name) →
    ∀ form ∈ Operation.keyForms proxy keys assigned,
      form.SameIn free calls engine world (naming.world world)
  calledInVain : dynamicIn? world.store proxy value = none →
    (∀ delegate, value ≠ .delegate delegate) → old ≠ toStringName →
    world.store.types.defaultMember? key = some old → ∀ keys assigned,
    ∀ form ∈ Operation.callForms proxy keys assigned,
      ((form.run calls engine).outcome (naming.world world)).1 =
        .error (.raised (.missingMember old))
  keyedInVain : dynamicIn? world.store proxy value = none → Member.indexerName = old →
    ∀ keys assigned, (∀ name, keys ≠ [.string name]) →
    ∀ form ∈ Operation.keyForms proxy keys assigned,
      ((form.run calls engine).outcome (naming.world world)).1 =
        .error (.raised (unindexed (naming.world world).store value))

/-- Under a renaming the forms that mention no name have the same outcome or find nothing, as the
names go that they look for. -/
theorem renaming_spares_unnamed_forms (free : Annotated) (naming : Renaming) (calls : Calls)
    (engine : EngineId) {world : World} {proxy : CellId} {value : Host.Value} {key : TypeKey}
    {old : String} (keeps : free.Keeps world.store.types (naming.table world.store.types))
    (presents : world.Presents proxy value key)
    (hosted : ∀ slot ∈ (sceneIn world engine proxy (.member value key)).slots, ∀ number,
      slot.implementation.implementation ≠ .intrinsic number)
    (renames : (sceneIn world engine proxy (.member value key)).Renames naming old) :
    world.RenamesForms free calls engine proxy value key naming old := by
  have alike := naming.alike keeps
  have leads (unasked : dynamicIn? world.store proxy value = none) :
      (naming.world world).LeadsTo proxy value key :=
    ⟨presents.target, presents.typed, unasked⟩
  have hosts (name : String) : (sceneIn world engine proxy (.member value key)).Hosts name :=
    fun slot found _ => hosted slot (mem_lookup found).1
  constructor
  case calledAlike =>
    intro kept unused indexers keys assigned form member
    have here : (sceneIn world engine proxy (.member value key)).CallsAlike
        (sceneIn world engine proxy (.member value key)) := .refl nofun hosts
    have there : (sceneIn world engine proxy (.member value key)).CallsAlike
        (sceneIn (naming.world world) engine proxy (.member value key)) :=
      Renaming.callsAlike renames rfl kept unused indexers hosts
    rcases List.mem_pair.mp member with rfl | rfl
    · exact presents.sameIn alike here there (fun agree => callProxy_agreesFrom agree engine keys) _
    · exact presents.sameIn alike here there (fun agree =>
        (assignProxy_agreesFrom agree engine keys assigned).andAnswer _) _
  case keyedAlike =>
    intro kept unused keys assigned unnamed form member
    have here : (sceneIn world engine proxy (.member value key)).KeysAlike keys
        (sceneIn world engine proxy (.member value key)) := ⟨.refl _ _, fun _ _ => .refl _ _⟩
    have there : (sceneIn world engine proxy (.member value key)).KeysAlike keys
        (sceneIn (naming.world world) engine proxy (.member value key)) :=
      Renaming.keysAlike renames kept unused unnamed
    rcases List.mem_pair.mp member with rfl | rfl
    · exact presents.sameIn alike here there (fun agree => getIndex_agreesFrom agree engine keys) _
    · exact presents.sameIn alike here there (fun agree =>
        (setIndex_agreesFrom agree engine keys assigned).andAnswer _) _
  case calledInVain =>
    intro unasked ordinary untold declared keys assigned form member
    have declared : (naming.scene (sceneIn world engine proxy (.member value key))).declaredName? =
        some old := (Scene.declaredName?_of_bare (naming.scene_bare _)).symm.trans declared
    have named := callName?_of_declared declared
    have nothing := Renaming.lookup_old renames
    rcases List.mem_pair.mp member with rfl | rfl
    · exact result_callProxy_of_missing (leads unasked) ordinary named nothing untold keys
    · exact result_bind_of_error
        (result_assignProxy_of_missing (leads unasked) named nothing keys assigned) _
  case keyedInVain =>
    rintro unasked rfl keys assigned unnamed form member
    have nothing := Renaming.lookup_old renames
    rcases List.mem_pair.mp member with rfl | rfl
    · exact result_getIndex_of_unindexed (leads unasked) nothing unnamed
    · exact result_bind_of_error
        (result_setIndex_of_unindexed (leads unasked) nothing unnamed assigned) _

/-! ### An item with slots -/

/-- Indexers get a name of their own. -/
def Renaming.slots : Renaming := ⟨fun member => member.kind == .indexer, "Slots"⟩

namespace World

theorem type_withHandle_beyond (access : Option Access) (key : TypeKey) :
    (withHandle access).store.types.type (key + 2) = default :=
  type_withItem_beyond access key

/-- Of the types of the item it is only its class that has indexers. -/
theorem withHandle_keeps (access : Option Access) :
    Annotated.classes.Keeps (withHandle access).store.types
      (Renaming.slots.table (withHandle access).store.types) := by
  refine Renaming.slots.keeps_of_classes fun key acts member inside => ?_
  match key with
  | 0 =>
    rw [List.mem_singleton.mp inside]
    rfl
  | 1 =>
    rcases acts with isInterface | ⟨named, interface⟩
    · cases isInterface
    · obtain ⟨rest, rfl⟩ := Nat.exists_eq_add_of_le' (TypeTable.lt_of_mem_interfaces interface)
      unfold TypeTable.interfaces at interface
      rw [type_withHandle_beyond] at interface
      cases interface
  | key + 2 =>
    rw [type_withHandle_beyond] at inside
    cases inside

theorem withHandle_presents (access : Option Access) :
    (withHandle access).Presents 1 (.object 0) 1 where
  target := rfl
  typed := rfl
  held _ _ := rfl

theorem withHandle_renames : (sceneIn (withHandle none) 0 1 (.member (.object 0) 1)).Renames
    .slots "Item" := by
  have shown : (sceneIn (withHandle none) 0 1 (.member (.object 0) 1)).slots.all (fun slot =>
      slot.isNamed "Item" == Renaming.slots.selects slot.declaration &&
        (!Renaming.slots.selects slot.declaration || slot.declaration.scriptName == "Item") &&
          !slot.isNamed "Slots") = true := by
    decide +kernel
  have each := List.all_eq_true.mp shown
  simp only [Bool.and_eq_true, Bool.or_eq_true, beq_iff_eq, Bool.not_eq_true'] at each
  refine ⟨fun slot offered => (each slot offered).1.1, fun slot offered selected => ?_,
    fun slot offered => (each slot offered).2⟩
  rcases (each slot offered).1.2 with unselected | named
  · exact absurd selected (Bool.eq_false_iff.mp unselected)
  · exact named

theorem withHandle_hosted :
    ∀ slot ∈ (sceneIn (withHandle none) 0 1 (.member (.object 0) 1)).slots, ∀ number,
      slot.implementation.implementation ≠ .intrinsic number :=
  hosted_of_all (by decide +kernel)

end World

/-- Calling the item still reads what its indexers keep, and keys now find no indexer. -/
theorem renaming_spares_unnamed_forms_of_item :
    let world := World.withHandle none
    let calls := Script.startWithin 3
    (Operation.invoke 1 [.int 1]).SameIn .classes calls 0 world (Renaming.slots.world world) ∧
      (((Operation.getIndex 1 [.int 1]).run calls 0).outcome (Renaming.slots.world world)).1 =
        .error (.raised (unindexed (Renaming.slots.world world).store (.object 0))) := by
  have forms := renaming_spares_unnamed_forms .classes .slots (Script.startWithin 3) 0
    (World.withHandle_keeps none) (World.withHandle_presents none) World.withHandle_hosted
    World.withHandle_renames
  have undeclared : (World.withHandle none).store.types.defaultMember? 1 = none := by
    decide +kernel
  have unasked : dynamicIn? (World.withHandle none).store 1 (.object 0) = none := rfl
  refine ⟨?_, forms.keyedInVain unasked rfl [.int 1] .null nofun _ List.mem_cons_self⟩
  refine forms.calledAlike (undeclared ▸ nofun) (undeclared ▸ nofun) ?_ [.int 1] .null _
    List.mem_cons_self
  exact fun _ slot _ selected => selected

/-- The indexers of an item get a name that no member goes by. Keys found one of them before and
find none after, which calling the item still does. -/
theorem renamed_indexers_take_no_keys :
    let world := World.withHandle none
    let renamed := Renaming.slots.world world
    let called (form : Operation) (world : World) :=
      ((form.run (Script.startWithin 3) 0).outcome world).1
    (sceneIn world 0 1 (.member (.object 0) 1)).Renames .slots "Item" ∧
      (called (.getIndex 1 [.int 1]) world).toOption = some (.string "item") ∧
      errorName? (called (.getIndex 1 [.int 1]) renamed) = some "NotSupported" ∧
      (called (.invoke 1 [.int 1]) world).toOption = some (.string "item") ∧
      (called (.invoke 1 [.int 1]) renamed).toOption = some (.string "item") := by
  refine ⟨World.withHandle_renames, ?_, ?_, ?_, ?_⟩
  · decide +kernel
  · decide +kernel
  · decide +kernel
  · decide +kernel

end ScriptBridge
