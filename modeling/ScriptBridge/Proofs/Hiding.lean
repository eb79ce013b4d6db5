/-
This file shows that tables of members hide by signature. Members are collected along the
chain of a type, and of every signature the first is kept: that of the most derived type,
and of that type the one declared first. Explicit implementations are declared by their
interfaces and are passed over. Names for script and access have no part in a signature,
so a member that overrides one of a base hides it whatever its annotations are, and other
annotations bring the member of the base back for no one.
-/

import Mathlib.Data.List.Nodup
import ScriptBridge.Proofs.FieldPlaces
import ScriptBridge.Proofs.Renaming
import ScriptBridge.Proofs.Specificity

namespace ScriptBridge

open Host Run Binding

/-! ### Signatures -/

namespace Host

/-- What hiding goes by: the name and the kind of a member, the types of its parameters and how they
are passed. -/
def Member.signature (member : Member) : String × MemberKind × List (TypeRef × Passing) :=
  (member.name, member.kind,
    member.parameters.map fun parameter => (parameter.type, parameter.passing))

theorem Member.sameSignature_iff {left right : Member} :
    left.sameSignature right = true ↔ left.signature = right.signature := by
  unfold Member.sameSignature Member.signature
  rw [Bool.and_eq_true, Bool.and_eq_true, beq_iff_eq, beq_iff_eq, beq_iff_eq, Prod.mk.injEq,
    Prod.mk.injEq, and_assoc]

/-- The first of some members that has the signature of a member. -/
def Member.firstAlike? (member : Member) (members : List Member) : Option Member :=
  members.find? fun other => other.signature == member.signature

theorem Member.firstAlike?_append (member : Member) (left right : List Member) :
    member.firstAlike? (left ++ right) = (member.firstAlike? left).or (member.firstAlike? right) :=
  List.find?_append

theorem Member.firstAlike?_congr {member twin : Member} (same : member.signature = twin.signature)
    (members : List Member) : member.firstAlike? members = twin.firstAlike? members := by
  unfold firstAlike?
  rw [same]

theorem Member.exists_firstAlike? {member : Member} {members : List Member}
    (inside : member ∈ members) : ∃ first ∈ members, member.firstAlike? members = some first := by
  have isFound : (member.firstAlike? members).isSome = true :=
    List.find?_isSome.mpr ⟨member, inside, beq_self_eq_true _⟩
  obtain ⟨first, found⟩ := Option.isSome_iff_exists.mp isFound
  exact ⟨first, List.mem_of_find?_eq_some found, found⟩

end Host

/-! ### Collecting -/

namespace Binding

/-- The signature of what a slot runs. -/
def Slot.signature (slot : Slot) : String × MemberKind × List (TypeRef × Passing) :=
  slot.implementation.signature

section

variable {seen : List Member} {slots : List Slot} {member : Member}

/-- The slots are for the first of every signature among the members that were seen. -/
structure Gathers (seen : List Member) (slots : List Slot) : Prop where
  distinct : (slots.map Slot.signature).Nodup
  first : ∀ slot ∈ slots, ∃ member, slot = .plain member ∧ member.firstAlike? seen = some member
  complete : ∀ member ∈ seen, ∃ slot ∈ slots, slot.signature = member.signature

theorem addSlot_of_hidden {slot : Slot} (inside : slot ∈ slots)
    (same : slot.signature = member.signature) : addSlot slots member = slots :=
  if_pos (List.any_eq_true.mpr ⟨slot, inside, Member.sameSignature_iff.mpr same⟩)

theorem addSlot_of_new (new : ∀ slot ∈ slots, slot.signature ≠ member.signature) :
    addSlot slots member = slots ++ [.plain member] := by
  refine if_neg fun hidden => ?_
  obtain ⟨slot, inside, same⟩ := List.any_eq_true.mp hidden
  exact new slot inside (Member.sameSignature_iff.mp same)

/-- One more member gets a slot if it is the first of its signature. -/
theorem Gathers.add (gathers : Gathers seen slots) (member : Member) :
    Gathers (seen ++ [member]) (addSlot slots member) := by
  have kept : ∀ slot ∈ slots, ∃ shown, slot = .plain shown ∧
      shown.firstAlike? (seen ++ [member]) = some shown := by
    intro slot inside
    obtain ⟨shown, plain, found⟩ := gathers.first slot inside
    exact ⟨shown, plain, by rw [Member.firstAlike?_append, found]; rfl⟩
  by_cases hidden : ∃ slot ∈ slots, slot.signature = member.signature
  · obtain ⟨slot, inside, same⟩ := hidden
    rw [addSlot_of_hidden inside same]
    refine ⟨gathers.distinct, kept, fun other among => ?_⟩
    rcases List.mem_append.mp among with before | last
    · exact gathers.complete other before
    · rw [List.mem_singleton.mp last]
      exact ⟨slot, inside, same⟩
  · have new : ∀ slot ∈ slots, slot.signature ≠ member.signature :=
      fun slot inside same => hidden ⟨slot, inside, same⟩
    rw [addSlot_of_new new]
    constructor
    case distinct =>
      rw [List.map_append, List.map_singleton]
      refine List.nodup_append_comm.mp (List.nodup_cons.mpr ⟨fun again => ?_, gathers.distinct⟩)
      obtain ⟨slot, inside, same⟩ := List.mem_map.mp again
      exact new slot inside same
    case first =>
      intro slot inside
      rcases List.mem_append.mp inside with before | last
      · exact kept slot before
      · -- No member of the signature was seen, since it would have a slot.
        have unseen : member.firstAlike? seen = none := by
          refine List.find?_eq_none.mpr fun other among same => ?_
          obtain ⟨slot, inside, shown⟩ := gathers.complete other among
          exact new slot inside (shown.trans (beq_iff_eq.mp same))
        refine ⟨member, List.mem_singleton.mp last, ?_⟩
        rw [Member.firstAlike?_append, unseen, Option.none_or]
        unfold Member.firstAlike?
        rw [List.find?_singleton, beq_self_eq_true]
        rfl
    case complete =>
      intro other among
      rcases List.mem_append.mp among with before | last
      · obtain ⟨slot, inside, same⟩ := gathers.complete other before
        exact ⟨slot, List.mem_append_left _ inside, same⟩
      · rw [List.mem_singleton.mp last]
        exact ⟨.plain member, List.mem_append_right _ (List.mem_singleton_self _), rfl⟩

theorem Gathers.foldl (gathers : Gathers seen slots) (members : List Member) :
    Gathers (seen ++ members) (members.foldl addSlot slots) := by
  induction members generalizing seen slots with
  | nil =>
    rw [List.append_nil]
    exact gathers
  | cons member rest inductionHypothesis =>
    rw [List.append_cons]
    exact inductionHypothesis (gathers.add member)

/-- Collecting members keeps the first of every signature. -/
theorem gathers_foldl (members : List Member) : Gathers members (members.foldl addSlot []) := by
  have start : Gathers [] [] := ⟨List.nodup_nil, List.forall_mem_nil _, List.forall_mem_nil _⟩
  exact start.foldl members

/-- Of a signature that was seen there is one slot, that of the first member that has it. -/
theorem Gathers.mem_iff (gathers : Gathers seen slots) (among : member ∈ seen) :
    ∃ first, member.firstAlike? seen = some first ∧
      ∀ slot, slot ∈ slots ∧ slot.signature = member.signature ↔ slot = .plain first := by
  obtain ⟨slot, inside, same⟩ := gathers.complete member among
  obtain ⟨first, rfl, found⟩ := gathers.first slot inside
  refine ⟨first, (Member.firstAlike?_congr same seen).symm.trans found, fun other => ⟨?_, ?_⟩⟩
  · rintro ⟨insideToo, sameToo⟩
    exact List.inj_on_of_nodup_map gathers.distinct insideToo inside (sameToo.trans same.symm)
  · rintro rfl
    exact ⟨inside, same⟩

end

end Binding

/-! ### What types declare -/

namespace Host.TypeTable

variable {table changed : TypeTable} {key type derived base : TypeKey} {isStatic : Bool}
  {member : Member}

/-- The static members that a type declares for itself, or those of its instances, in the order of
their declaration. Constructors are neither. -/
def declared (table : TypeTable) (isStatic : Bool) (type : TypeKey) : List Member :=
  (table.ownMembers type).filter fun member =>
    member.isStatic == isStatic && member.kind != .constructor

/-- What the types on a chain declare, the most derived type first. -/
def declaredAlong (table : TypeTable) (isStatic : Bool) (key : TypeKey) : List Member :=
  (table.chain key).flatMap (table.declared isStatic)

theorem declaring_of_mem_declared (inside : member ∈ table.declared isStatic type) :
    member.declaring = type :=
  beq_iff_eq.mp (List.mem_filter.mp (List.mem_filter.mp inside).1).2

theorem isStatic_of_mem_declared (inside : member ∈ table.declared isStatic type) :
    member.isStatic = isStatic :=
  beq_iff_eq.mp (Bool.and_eq_true_iff.mp (List.mem_filter.mp inside).2).1

theorem bare_bare (table : TypeTable) : table.bare.bare = table.bare := by
  have same (type : HostType) : type.bare.bare = type.bare := by
    unfold HostType.bare
    dsimp only
    rw [List.map_map]
    rfl
  unfold bare
  rw [Array.map_map]
  exact congrArg (fun change => TypeTable.mk (table.types.map change)) (funext same)

theorem declared_bare (table : TypeTable) (isStatic : Bool) (type : TypeKey) :
    table.bare.declared isStatic type = (table.declared isStatic type).map Member.bare := by
  unfold declared ownMembers
  rw [members_bare, List.filter_map, List.filter_map]
  rfl

/-- A member has its counterpart under other annotations. -/
theorem exists_mem_declared_of_bare (bare : changed.bare = table.bare)
    (inside : member ∈ table.declared isStatic type) :
    ∃ twin ∈ changed.declared isStatic type, twin.signature = member.signature := by
  have same : (changed.declared isStatic type).map Member.bare =
      (table.declared isStatic type).map Member.bare := by
    rw [← declared_bare, bare, declared_bare]
  have bareInside : member.bare ∈ (table.declared isStatic type).map Member.bare :=
    List.mem_map_of_mem inside
  rw [← same] at bareInside
  obtain ⟨twin, declares, equal⟩ := List.mem_map.mp bareInside
  have signature : twin.bare.signature = member.bare.signature := congrArg Member.signature equal
  exact ⟨twin, declares, signature⟩

/-- Keys fall along a chain. -/
theorem pairwise_chain (table : TypeTable) (key : TypeKey) :
    (table.chain key).Pairwise (· > ·) := by
  induction key using Nat.strongRecOn with
  | ind key inductionHypothesis =>
    cases found : table.base? key with
    | none =>
      rw [chain_of_root found]
      exact List.pairwise_singleton _ _
    | some base =>
      have below := table.lt_of_base? found
      rw [chain_of_base? found]
      exact List.pairwise_cons.mpr ⟨fun other along => (le_of_mem_chain along).trans_lt below,
        inductionHypothesis base below⟩

/-- The first member of a signature is declared no further along a chain than any other. -/
theorem le_declaring_of_firstAlike? (along : derived ∈ table.chain key) {override first : Member}
    (overrides : override ∈ table.declared isStatic derived)
    (found : override.firstAlike? (table.declaredAlong isStatic key) = some first) :
    derived ≤ first.declaring := by
  obtain ⟨nearer, further, split⟩ := List.append_of_mem along
  have whole : table.declaredAlong isStatic key =
      nearer.flatMap (table.declared isStatic) ++ (table.declared isStatic derived ++
        further.flatMap (table.declared isStatic)) := by
    unfold declaredAlong
    rw [split, List.flatMap_append, List.flatMap_cons]
  rw [whole, Member.firstAlike?_append, Member.firstAlike?_append] at found
  obtain ⟨shown, declares, shownFirst⟩ := Member.exists_firstAlike? overrides
  rw [shownFirst, Option.some_or] at found
  cases early : override.firstAlike? (nearer.flatMap (table.declared isStatic)) with
  | none =>
    rw [early, Option.none_or] at found
    rw [← Option.some.inj found, declaring_of_mem_declared declares]
  | some earlier =>
    rw [early, Option.some_or] at found
    obtain ⟨type, near, declaresEarlier⟩ := List.mem_flatMap.mp (List.mem_of_find?_eq_some early)
    rw [← Option.some.inj found, declaring_of_mem_declared declaresEarlier]
    have falls := table.pairwise_chain key
    rw [split] at falls
    exact Nat.le_of_lt ((List.pairwise_append.mp falls).2.2 type near derived List.mem_cons_self)

end Host.TypeTable

/-! ### Tables of members -/

namespace Binding

variable {table changed : TypeTable} {key : TypeKey} {isStatic : Bool}

/-- The members that a type offers itself, or those that its instances offer without a view. -/
def offered (table : TypeTable) (key : TypeKey) (isStatic : Bool) : List Slot :=
  if isStatic then staticSlots table key else instanceSlots table key none

theorem offered_eq (table : TypeTable) (key : TypeKey) (isStatic : Bool) :
    offered table key isStatic = (table.declaredAlong isStatic key).foldl addSlot [] := by
  unfold TypeTable.declaredAlong TypeTable.declared
  simp only [TypeTable.filter_ownMembers]
  cases isStatic with
  | true =>
    show collectSlots table (table.chain key) _ = _
    unfold collectSlots
    simp only [beq_true]
  | false =>
    show collectSlots table (table.chain key) _ = _
    unfold collectSlots Member.isInstanceMember
    simp only [beq_false]

/-- A table of members hides by signature: no two slots have one signature, of every signature that
is declared along the chain there is one slot, which is for the first member of the signature, and
every slot is for a member that a type on the chain declares for itself. -/
structure HidesBySignature (table : TypeTable) (key : TypeKey) (isStatic : Bool)
    (slots : List Slot) : Prop where
  distinct : (slots.map Slot.signature).Nodup
  first : ∀ member ∈ table.declaredAlong isStatic key,
    ∃ first, member.firstAlike? (table.declaredAlong isStatic key) = some first ∧
      ∀ slot, slot ∈ slots ∧ slot.signature = member.signature ↔ slot = .plain first
  own : ∀ slot ∈ slots, ∃ type ∈ table.chain key, ∃ member ∈ table.declared isStatic type,
    slot = .plain member

theorem offered_hides (table : TypeTable) (key : TypeKey) (isStatic : Bool) :
    HidesBySignature table key isStatic (offered table key isStatic) := by
  rw [offered_eq]
  have gathers := gathers_foldl (table.declaredAlong isStatic key)
  refine ⟨gathers.distinct, fun member among => gathers.mem_iff among, fun slot inside => ?_⟩
  obtain ⟨member, plain, found⟩ := gathers.first slot inside
  obtain ⟨type, along, declares⟩ := List.mem_flatMap.mp (List.mem_of_find?_eq_some found)
  exact ⟨type, along, member, declares, plain⟩

/-- A member that is overridden nearer has no slot. -/
theorem HidesBySignature.overridden_not_mem {slots : List Slot}
    (hides : HidesBySignature table key isStatic slots) {derived base : TypeKey}
    (along : derived ∈ table.chain key) (below : base < derived) {override overridden : Member}
    (overrides : override ∈ table.declared isStatic derived)
    (declares : overridden ∈ table.declared isStatic base)
    (same : override.signature = overridden.signature) : .plain overridden ∉ slots := by
  intro inside
  have among : override ∈ table.declaredAlong isStatic key :=
    List.mem_flatMap.mpr ⟨derived, along, overrides⟩
  obtain ⟨first, found, unique⟩ := hides.first override among
  obtain rfl : overridden = first :=
    congrArg Slot.declaration ((unique _).mp ⟨inside, same.symm⟩)
  have near := TypeTable.le_declaring_of_firstAlike? along overrides found
  rw [TypeTable.declaring_of_mem_declared declares] at near
  exact Nat.not_lt.mpr near below

/-- Of a type that a declaration made, the members that it declares for itself are those that the
declaration lists as its own, and none of its explicit implementations. -/
def PassesOverExplicit (table : TypeTable) : Prop :=
  ∀ (type : TypeKey) (declaration : Declaration) (world after : World),
    (TypeDefinition.declared declaration).LooksBack type →
    ((TypeDefinition.declared declaration).make type : Run Unit HostType).outcome world =
      (.ok (table.type type), after) →
    ∃ own explicit between,
      (makeMembers type declaration.defaultAccess 0 declaration.members : Run Unit _).outcome
        world = (.ok own, between) ∧
      (makeExplicit declaration.explicit : Run Unit _).outcome between = (.ok explicit, after) ∧
      (table.type type).members = own ++ explicit ∧ table.ownMembers type = own

/-! ### Other annotations -/

/-- A scene shows what a type offers itself, or an instance of it without a view. -/
def Scene.ShowsUnviewed (scene : Scene) (key : TypeKey) : Prop :=
  scene.subject = .statics (.named key) ∨
    (∃ value, scene.subject = .member value key) ∧ scene.view = none

theorem Scene.ShowsUnviewed.slots_eq {scene : Scene} (shows : scene.ShowsUnviewed key) :
    ∃ isStatic, scene.slots = offered scene.sight.table key isStatic := by
  unfold Scene.slots
  rcases shows with subject | ⟨⟨value, subject⟩, view⟩
  · rw [subject]
    exact ⟨true, rfl⟩
  · rw [subject, view]
    exact ⟨false, rfl⟩

/-- What other annotations leave as it is: with every view and without one there are the same members
up to their annotations, and where a type overrides a member of a base, neither the type that is
looked at nor an instance of it without a view shows that member, under whatever policy. -/
structure KeepsHidden (table changed : TypeTable) (key : TypeKey) : Prop where
  instances : ∀ view, (instanceSlots changed key view).map Slot.bare =
    (instanceSlots table key view).map Slot.bare
  statics : (staticSlots changed key).map Slot.bare = (staticSlots table key).map Slot.bare
  hidden : ∀ derived ∈ table.chain key, ∀ base ∈ table.chain derived, base ≠ derived →
    ∀ isStatic, ∀ override ∈ table.declared isStatic derived,
      ∀ overridden ∈ changed.declared isStatic base, override.signature = overridden.signature →
        ∀ scene : Scene, scene.sight.table = changed → scene.ShowsUnviewed key →
          ∀ slot ∈ scene.slots,
            slot.declaration ≠ overridden ∧ slot.implementation ≠ overridden

section

variable (bare : changed.bare = table.bare)

include bare

theorem instanceSlots_of_bare (key : TypeKey) (view : Option TypeKey) :
    (instanceSlots changed key view).map Slot.bare =
      (instanceSlots table key view).map Slot.bare := by
  have blind (member : Member) : member.bare.bare = member.bare := rfl
  have mapped (table : TypeTable) : instanceSlots table.bare key view =
      (instanceSlots table key view).map Slot.bare :=
    instanceSlots_map blind (members_bare table) table.bare_bare.symm key view
  rw [← mapped, bare, mapped]

theorem staticSlots_of_bare (key : TypeKey) :
    (staticSlots changed key).map Slot.bare = (staticSlots table key).map Slot.bare := by
  have blind (member : Member) : member.bare.bare = member.bare := rfl
  have mapped (table : TypeTable) :
      staticSlots table.bare key = (staticSlots table key).map Slot.bare := by
    unfold staticSlots
    rw [TypeTable.chain_bare]
    exact collectSlots_map blind (members_bare table) _ fun _ => rfl
  rw [← mapped, bare, mapped]

/-- Tables that differ in annotations only hide the same members. -/
theorem keepsHidden_of_bare (key : TypeKey) : KeepsHidden table changed key := by
  refine ⟨instanceSlots_of_bare bare key, staticSlots_of_bare bare key, ?_⟩
  intro derived along base ofBase differ isStatic override overrides overridden declares same scene
    seen shows slot inside
  have below : base < derived := lt_of_le_of_ne (TypeTable.le_of_mem_chain ofBase) differ
  obtain ⟨twin, overridesToo, sameToo⟩ := TypeTable.exists_mem_declared_of_bare bare overrides
  rw [← chain_of_bare bare] at along
  obtain ⟨side, offers⟩ := shows.slots_eq
  rw [offers, seen] at inside
  have hides := offered_hides changed key side
  obtain ⟨type, -, member, offeredThere, rfl⟩ := hides.own slot inside
  have differs : member ≠ overridden := by
    rintro rfl
    obtain rfl : side = isStatic := (TypeTable.isStatic_of_mem_declared offeredThere).symm.trans
      (TypeTable.isStatic_of_mem_declared declares)
    exact hides.overridden_not_mem along below overridesToo declares (sameToo.trans same) inside
  exact ⟨differs, differs⟩

end

end Binding

/-- The members of a type itself, and those of its instances without a view, hide by signature:
whatever the hierarchy, explicit implementations are passed over, and other annotations bring no
overridden member back. -/
theorem members_hide_by_signature (table : TypeTable) (key : TypeKey) :
    (∀ isStatic, HidesBySignature table key isStatic (offered table key isStatic)) ∧
      PassesOverExplicit table ∧
      ∀ changed : TypeTable, changed.bare = table.bare → KeepsHidden table changed key :=
  ⟨offered_hides table key, fun _ _ _ _ back made => TypeDefinition.own_make back made,
    fun _ bare => keepsHidden_of_bare bare key⟩

/-! ### An override -/

/-- A method without parameters that a type declares. -/
def greeting (declaring : TypeKey) (access : Option Access) (rename : Option String) : Member where
  declaring := declaring
  declaringAccess := none
  name := "Greet"
  kind := .method
  isStatic := false
  isPrivate := false
  parameters := []
  type := .string
  access := access
  rename := rename
  implementation := .invoke (.code none [])

/-- A class and one derived from it that overrides its method. -/
def greeters (access : Option Access) (rename : Option String) : TypeTable :=
  ⟨#[{ name := "Greeter", kind := .reference, members := [greeting 0 none none] },
    { name := "Usher", kind := .reference, base := some 0, members := [greeting 1 access rename] }]⟩

/-- An instance of the derived class, as script sees it that may use everything. -/
def greeterScene (access : Option Access) (rename : Option String) : Scene where
  engine := 0
  proxy := 0
  subject := .member (.object 0) 1
  view := none
  sight := ⟨{}, greeters access rename, true⟩

/-- Blocking the override takes its name away, and so does renaming it; the method of the base does
not come back. -/
theorem members_hide_by_signature_of_greeters :
    let called (scene : Scene) := (scene.lookup "Greet").visible.map (·.declaration.declaring)
    let spares (scene : Scene) := ∀ slot ∈ scene.slots,
      slot.declaration ≠ greeting 0 none none ∧ slot.implementation ≠ greeting 0 none none
    called (greeterScene none none) = [1] ∧
      called (greeterScene (some .hidden) none) = [] ∧ spares (greeterScene (some .hidden) none) ∧
      called (greeterScene none (some "Meet")) = [] ∧ spares (greeterScene none (some "Meet")) := by
  have bare (access : Option Access) (rename : Option String) :
      (greeters access rename).bare = (greeters none none).bare := by
    unfold TypeTable.bare greeters
    dsimp only
    rw [List.map_toArray, List.map_toArray]
    rfl
  have derives : (greeters none none).chain 1 = [1, 0] := by
    have based : (greeters none none).base? 1 = some 0 := rfl
    rw [TypeTable.chain_of_base? based, TypeTable.chain_of_root rfl]
  have hides (access : Option Access) (rename : Option String) :=
    ((members_hide_by_signature (greeters none none) 1).2.2 _ (bare access rename)).hidden
      1 (derives ▸ List.mem_cons_self) 0 (derives ▸ List.mem_cons_of_mem _ List.mem_cons_self)
      Nat.zero_ne_one false (greeting 1 none none) (List.mem_singleton_self _)
      (greeting 0 none none) (List.mem_singleton_self _) rfl
      (greeterScene access rename) rfl (.inr ⟨⟨_, rfl⟩, rfl⟩)
  exact ⟨by decide +kernel, by decide +kernel, hides _ _, by decide +kernel, hides _ _⟩

end ScriptBridge
