/-
This file tells which places struct fields have. Registering a type numbers the fields
that it declares itself one after another, so that no two of them share a place; the
explicit implementations beside them are declared by interfaces that were registered
before. What an instance offers without a view is declared by the types of its chain, so
two fields share a place only if different types declare them.
-/

import ScriptBridge.Proofs.TextCalls
import ScriptBridge.Proofs.WorkspaceModules

namespace ScriptBridge

open Host Run Binding

/-! ### Places -/

namespace Host

/-- The place of a struct field among the values of the fields. -/
def Member.place? (member : Member) : Option Nat :=
  match member.implementation with
  | .structField place => some place
  | _ => none

/-- The places of the struct fields that a type declares itself. -/
def HostType.places (type : HostType) (key : TypeKey) : List Nat :=
  (type.members.filter fun member => member.declaring == key).filterMap Member.place?

/-- No two struct fields that one type declares share a place. -/
def TypeTable.SeparatesFields (table : TypeTable) : Prop :=
  ∀ key, ((table.type key).places key).Nodup

theorem Member.place?_of_structField {member : Member} {place : Nat}
    (offers : member.implementation = .structField place) : member.place? = some place := by
  unfold Member.place?
  rw [offers]

theorem Member.structField_of_place? {member : Member} {place : Nat}
    (found : member.place? = some place) : member.implementation = .structField place := by
  unfold Member.place? at found
  split at found
  · next offered offers => rw [offers, Option.some.inj found]
  · cases found

/-- Members with one place are one where the places of all members differ. -/
theorem eq_of_place? {members : List Member} (nodup : (members.filterMap Member.place?).Nodup)
    {left right : Member} {place : Nat} (leftMember : left ∈ members)
    (rightMember : right ∈ members)
    (leftPlace : left.place? = some place) (rightPlace : right.place? = some place) :
    left = right := by
  induction members with
  | nil => cases leftMember
  | cons first rest inductionHypothesis =>
    have apart {other : Member} (found : first.place? = some place) (inside : other ∈ rest)
        (again : other.place? = some place) : False := by
      rw [List.filterMap_cons_some found] at nodup
      exact (List.nodup_cons.mp nodup).1 (List.mem_filterMap.mpr ⟨other, inside, again⟩)
    rcases List.mem_cons.mp leftMember with rfl | leftInside
    · rcases List.mem_cons.mp rightMember with rfl | rightInside
      · rfl
      · exact (apart leftPlace rightInside rightPlace).elim
    · rcases List.mem_cons.mp rightMember with rfl | rightInside
      · exact (apart rightPlace leftInside leftPlace).elim
      · refine inductionHypothesis (nodup.sublist ?_) leftInside rightInside
        exact (List.sublist_cons_self _ _).filterMap _

/-! ### Registration -/

variable {Failure : Type} {world after : World} {declaring : TypeKey} {access : Option Access}

theorem MemberDefinition.declaring_make {definition : MemberDefinition} {member : Member}
    (made : (definition.make declaring access : Run Failure _).outcome world =
      (.ok member, after)) : member.declaring = declaring := by
  obtain ⟨parameters, between, -, rest⟩ := outcome_bind_eq_ok.mp made
  cases rest
  rfl

/-- The members that definitions declare have the type as the one that declares them, and the struct
fields among them are numbered one after another. -/
theorem makeMembers_numbers {definitions : List MemberDefinition} {slot : Nat}
    {members : List Member}
    (made : (makeMembers declaring access slot definitions : Run Failure _).outcome world =
      (.ok members, after)) :
    (∀ member ∈ members, member.declaring = declaring) ∧
      ∃ count, members.filterMap Member.place? = List.range' slot count := by
  induction definitions generalizing slot world members after with
  | nil =>
    rw [makeMembers, outcome_pure] at made
    cases made
    exact ⟨List.forall_mem_nil _, 0, rfl⟩
  | cons definition rest inductionHypothesis =>
    rw [makeMembers] at made
    obtain ⟨member, between, first, made⟩ := outcome_bind_eq_ok.mp made
    have own := MemberDefinition.declaring_make first
    split at made
    · next offered offers =>
      obtain ⟨others, last, madeOthers, made⟩ := outcome_bind_eq_ok.mp made
      rw [outcome_pure] at made
      cases made
      obtain ⟨declared, count, numbered⟩ := inductionHypothesis madeOthers
      refine ⟨List.forall_mem_cons.mpr ⟨own, declared⟩, count + 1, ?_⟩
      rw [List.filterMap_cons_some (Member.place?_of_structField rfl), numbered]
      exact List.range'_succ.symm
    · next other =>
      obtain ⟨others, last, madeOthers, made⟩ := outcome_bind_eq_ok.mp made
      rw [outcome_pure] at made
      cases made
      obtain ⟨declared, count, numbered⟩ := inductionHypothesis madeOthers
      refine ⟨List.forall_mem_cons.mpr ⟨own, declared⟩, count, ?_⟩
      have placeless : member.place? = none := by
        unfold Member.place?
        split
        · next place offers => exact (other place offers).elim
        · rfl
      rw [List.filterMap_cons_none placeless, numbered]

/-- Explicit implementations are declared by the interfaces that they are for. -/
theorem declaring_makeExplicit {definitions : List (TypeKey × MemberDefinition)}
    {members : List Member}
    (made : (makeExplicit definitions : Run Failure _).outcome world = (.ok members, after)) :
    ∀ member ∈ members, ∃ entry ∈ definitions, member.declaring = entry.1 := by
  induction definitions generalizing world members after with
  | nil =>
    rw [makeExplicit, outcome_pure] at made
    cases made
    exact List.forall_mem_nil _
  | cons definition rest inductionHypothesis =>
    rw [makeExplicit, outcome_bind_of_ok (outcome_types world)] at made
    obtain ⟨member, between, first, made⟩ := outcome_bind_eq_ok.mp made
    obtain ⟨others, last, madeOthers, made⟩ := outcome_bind_eq_ok.mp made
    rw [outcome_pure] at made
    cases made
    refine List.forall_mem_cons.mpr
      ⟨⟨definition, List.mem_cons_self, MemberDefinition.declaring_make first⟩, ?_⟩
    intro other inside
    obtain ⟨entry, listed, declared⟩ := inductionHypothesis madeOthers other inside
    exact ⟨entry, List.mem_cons_of_mem _ listed, declared⟩

/-- The explicit implementations of a definition are for interfaces registered before it. -/
def TypeDefinition.LooksBack (key : TypeKey) : TypeDefinition → Prop
  | .delegate _ _ _ => True
  | .declared declaration => ∀ entry ∈ declaration.explicit, entry.1 < key

/-- Each of the definitions, registered in order from a key on, looks back. -/
def LookBack : TypeKey → List TypeDefinition → Prop
  | _, [] => True
  | key, definition :: rest => definition.LooksBack key ∧ LookBack (key + 1) rest

/-- In a type as a declaration makes it, the members that it declares for itself are those that the
declaration lists as its own, and its explicit implementations are others. -/
theorem TypeDefinition.own_make {declaration : Declaration} {key : TypeKey}
    (back : (TypeDefinition.declared declaration).LooksBack key) {type : HostType}
    (made : ((TypeDefinition.declared declaration).make key : Run Failure _).outcome world =
      (.ok type, after)) :
    ∃ own explicit between,
      (makeMembers key declaration.defaultAccess 0 declaration.members : Run Failure _).outcome
        world = (.ok own, between) ∧
      (makeExplicit declaration.explicit : Run Failure _).outcome between = (.ok explicit, after) ∧
      type.members = own ++ explicit ∧
      (type.members.filter fun member => member.declaring == key) = own := by
  obtain ⟨own, between, madeOwn, made⟩ := outcome_bind_eq_ok.mp made
  obtain ⟨explicit, last, madeExplicit, made⟩ := outcome_bind_eq_ok.mp made
  rw [outcome_pure] at made
  cases made
  refine ⟨own, explicit, between, madeOwn, madeExplicit, rfl, ?_⟩
  have foreign : ∀ member ∈ explicit, ¬(member.declaring == key) = true := by
    intro member inside same
    obtain ⟨entry, listed, declares⟩ := declaring_makeExplicit madeExplicit member inside
    have earlier : entry.1 < key := back entry listed
    rw [← declares, beq_iff_eq.mp same] at earlier
    exact Nat.lt_irrefl _ earlier
  rw [List.filter_append, List.filter_eq_self.mpr fun member inside =>
      beq_iff_eq.mpr ((makeMembers_numbers madeOwn).1 member inside),
    List.filter_eq_nil_iff.mpr foreign, List.append_nil]

/-- In a type as it is made no two struct fields that it declares share a place. -/
theorem TypeDefinition.nodup_places {definition : TypeDefinition} {key : TypeKey}
    (back : definition.LooksBack key) {type : HostType}
    (made : (definition.make key : Run Failure _).outcome world = (.ok type, after)) :
    (type.places key).Nodup := by
  cases definition with
  | delegate name parameters result =>
    obtain ⟨_, between, -, made⟩ := outcome_bind_eq_ok.mp made
    rw [outcome_pure] at made
    cases made
    exact List.nodup_nil
  | declared declaration =>
    obtain ⟨own, explicit, between, madeOwn, -, -, filtered⟩ := TypeDefinition.own_make back made
    obtain ⟨-, count, numbered⟩ := makeMembers_numbers madeOwn
    unfold HostType.places
    rw [filtered, numbered]
    exact List.nodup_range'

theorem TypeTable.type_register (table : TypeTable) (type : HostType) (key : TypeKey) :
    (table.register type).1.type key = if key = table.size then type else table.type key := by
  unfold TypeTable.register TypeTable.type TypeTable.size
  dsimp only
  rw [Array.getElem?_push]
  split
  · rfl
  · rfl

end Host

/-- Changes leave the registered types as they are. -/
theorem Changes.types {before after : World} (changes : Changes before after) :
    after.store.types = before.store.types := by
  induction changes with
  | refl => rfl
  | tail _ last inductionHypothesis => rw [last.1.keeps.types, inductionHypothesis]

namespace Host

variable {Failure : Type} {world after : World}

theorem TypeTable.SeparatesFields.register {table : TypeTable} (separates : table.SeparatesFields)
    {type : HostType} (own : (type.places table.size).Nodup) :
    (table.register type).1.SeparatesFields := by
  intro key
  rw [TypeTable.type_register]
  split
  · next last =>
    rw [last]
    exact own
  · exact separates key

/-- Registering a type leaves a table that separates fields, and with a key makes it longer by
one. -/
theorem TypeDefinition.register_separates {definition : TypeDefinition}
    (separates : world.store.types.SeparatesFields)
    (back : definition.LooksBack world.store.types.size) {result : Except (Halt Failure) TypeKey}
    (registers : (definition.register : Run Failure TypeKey).outcome world = (result, after)) :
    after.store.types.SeparatesFields ∧
      (result.toBool = true → after.store.types.size = world.store.types.size + 1) := by
  have changes : Changes world
      ((definition.make world.store.types.size : Run Failure HostType).outcome world).2 :=
    Workspace.makeType_leaves world.store.types.size definition world
  unfold TypeDefinition.register at registers
  rw [outcome_bind_of_ok (outcome_types world)] at registers
  rcases made : (definition.make world.store.types.size : Run Failure _).outcome world with
    ⟨halt | type, between⟩
  · rw [outcome_bind_of_error made] at registers
    rw [made] at changes
    cases registers
    rw [changes.types]
    exact ⟨separates, nofun⟩
  · rw [outcome_bind_of_ok made, outcome_bind_of_ok (outcome_types between)] at registers
    rw [made] at changes
    have kept : between.store.types = world.store.types := changes.types
    have own : (type.places between.store.types.size).Nodup := by
      rw [kept]
      exact TypeDefinition.nodup_places back made
    rw [← kept] at separates ⊢
    obtain ⟨-, rfl⟩ := Prod.mk.inj registers
    exact ⟨separates.register own, fun _ => Array.size_push _⟩

/-- Registering types in order leaves a table in which no two fields that one type declares share a
place. -/
theorem registerAll_separates {definitions : List TypeDefinition}
    (separates : world.store.types.SeparatesFields)
    (back : LookBack world.store.types.size definitions) :
    ((registerAll definitions : Run Failure Unit).outcome world).2.store.types.SeparatesFields := by
  induction definitions generalizing world with
  | nil => exact separates
  | cons definition rest inductionHypothesis =>
    show ((discard (definition.register : Run Failure TypeKey) >>= fun _ =>
      registerAll rest).outcome world).2.store.types.SeparatesFields
    have discarded : (discard (definition.register : Run Failure TypeKey)) =
        (definition.register : Run Failure TypeKey) >>= fun _ => pure () := rfl
    rw [discarded, bind_assoc, outcome_bind]
    rcases registers : (definition.register : Run Failure TypeKey).outcome world with
      ⟨halt | key, after⟩
    · exact (TypeDefinition.register_separates separates back.1 registers).1
    · obtain ⟨kept, size⟩ := TypeDefinition.register_separates separates back.1 registers
      exact inductionHypothesis kept (by rw [size rfl]; exact back.2)

/-- The types of a workspace: those that come first and those that definitions declare. -/
def TypeTable.ofDefinitions (definitions : List TypeDefinition) : TypeTable :=
  ((registerAll definitions : Run Unit Unit).outcome
    { store := { types := Builtin.types } }).2.store.types

/-- The types of a workspace separate their fields. -/
theorem TypeTable.ofDefinitions_separates {definitions : List TypeDefinition}
    (back : LookBack Builtin.types.size definitions) :
    (TypeTable.ofDefinitions definitions).SeparatesFields := by
  have plain : Builtin.types.SeparatesFields := by
    intro key
    have placeless : (Builtin.types.type key).places key = [] := by
      match key with
      | 0 => rfl
      | 1 => rfl
      | _ + 2 => rfl
    rw [placeless]
    exact List.nodup_nil
  exact registerAll_separates plain back

end Host

/-! ### What instances offer -/

namespace Binding

variable {table : TypeTable} {key : TypeKey} {slot left right : Slot}

/-- What an instance offers without a view is carried out as it is declared, by a type that the
instance has. -/
theorem declared_of_mem_instanceSlots (member : slot ∈ instanceSlots table key none) :
    slot.implementation = slot.declaration ∧
      slot.declaration.declaring ∈ table.chain key ∧
      slot.declaration ∈ (table.type slot.declaration.declaring).members := by
  rcases mem_foldl_addSlot member with none | ⟨shown, among, rfl⟩
  · cases none
  · obtain ⟨type, along, among⟩ := List.mem_flatMap.mp among
    obtain ⟨declared, selected⟩ := List.mem_filter.mp among
    obtain rfl : shown.declaring = type := beq_iff_eq.mp (Bool.and_eq_true_iff.mp selected).1
    exact ⟨rfl, along, declared⟩

/-- Different fields that an instance offers without a view share a place only if different types
declare them. -/
theorem place_ne_of_declaring_eq (separates : table.SeparatesFields)
    (leftMember : left ∈ instanceSlots table key none)
    (rightMember : right ∈ instanceSlots table key none)
    (same : left.declaration.declaring = right.declaration.declaring)
    (differ : left.declaration.scriptName ≠ right.declaration.scriptName) {place other : Nat}
    (leftOffers : left.implementation.implementation = .structField place)
    (rightOffers : right.implementation.implementation = .structField other) : place ≠ other := by
  rintro rfl
  obtain ⟨leftPlain, -, leftDeclared⟩ := declared_of_mem_instanceSlots leftMember
  obtain ⟨rightPlain, -, rightDeclared⟩ := declared_of_mem_instanceSlots rightMember
  rw [leftPlain] at leftOffers
  rw [rightPlain] at rightOffers
  rw [← same] at rightDeclared
  have equal : left.declaration = right.declaration :=
    eq_of_place? (separates left.declaration.declaring)
      (List.mem_filter.mpr ⟨leftDeclared, beq_self_eq_true _⟩)
      (List.mem_filter.mpr ⟨rightDeclared, beq_iff_eq.mpr same.symm⟩)
      (Member.place?_of_structField leftOffers) (Member.place?_of_structField rightOffers)
  exact differ (congrArg Member.scriptName equal)

end Binding

end ScriptBridge
