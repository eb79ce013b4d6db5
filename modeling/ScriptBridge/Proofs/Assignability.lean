/-
This file tells where assignability is a preorder. A search for interfaces keeps what was
found before it and is closed under naming, so the interfaces of a type are those it and its
bases are, and whatever is reached from its chain by naming interfaces one after another.
Going on from a type on the chain, or by naming from an interface, therefore never leaves
what the type can stand for. The base of an interface that was reached by naming is not
followed, and that is the only way in which transitivity fails.
-/

import ScriptBridge.Proofs.Conformance
import ScriptBridge.Proofs.Specificity

namespace ScriptBridge

open Host

namespace Host.TypeTable

variable {table : TypeTable} {key type base interface : TypeKey} {names found : List TypeKey}

/-! ### Chains -/

theorem self_mem_chain (table : TypeTable) (key : TypeKey) : key ∈ table.chain key := by
  rw [chain_eq]
  exact List.mem_cons_self

/-- The chain of a type on a chain is part of it. -/
theorem chain_subset (member : type ∈ table.chain key) : table.chain type ⊆ table.chain key := by
  induction key using Nat.strongRecOn with
  | ind key inductionHypothesis =>
    cases found : table.base? key with
    | none =>
      rw [chain_of_root found] at member
      rw [List.mem_singleton.mp member]
      exact List.Subset.refl _
    | some base =>
      rw [chain_of_base? found] at member
      rcases List.mem_cons.mp member with rfl | further
      · exact List.Subset.refl _
      · rw [chain_of_base? found]
        exact List.subset_cons_of_subset _
          (inductionHypothesis base (table.lt_of_base? found) further)

/-! ### The search for interfaces -/

/-- Does a type name an interface as one that it implements or extends? -/
def Names (table : TypeTable) (key interface : TypeKey) : Prop :=
  interface ∈ table.interfaces key

/-- What a search from some interfaces comes to: it keeps what was found before, finds where it
starts, and with anything new all that that names. -/
structure Searches (table : TypeTable) (names found result : List TypeKey) : Prop where
  keeps : found ⊆ result
  starts : names ⊆ result
  closed : ∀ key ∈ result, key ∉ found → table.interfaces key ⊆ result

theorem Searches.cons {between result : List TypeKey}
    (first : table.Searches [interface] between result)
    (rest : table.Searches names found between) :
    table.Searches (interface :: names) found result where
  keeps := List.Subset.trans rest.keeps first.keeps
  starts := List.cons_subset.mpr
    ⟨first.starts (List.mem_singleton_self interface), List.Subset.trans rest.starts first.keeps⟩
  closed key member new := by
    by_cases earlier : key ∈ between
    · exact List.Subset.trans (rest.closed key earlier new) first.keeps
    · exact first.closed key member earlier

theorem Searches.known (inside : interface ∈ found) : table.Searches [interface] found found where
  keeps := List.Subset.refl _
  starts := List.cons_subset.mpr ⟨inside, List.nil_subset _⟩
  closed _ member new := absurd member new

theorem Searches.new {result : List TypeKey}
    (named : table.Searches (table.interfaces interface) (found ++ [interface]) result) :
    table.Searches [interface] found result where
  keeps := List.Subset.trans (List.subset_append_left _ _) named.keeps
  starts := List.Subset.trans (List.subset_append_right _ _) named.keeps
  closed key member new := by
    by_cases itself : key = interface
    · rw [itself]
      exact named.starts
    · refine named.closed key member fun earlier => ?_
      rcases List.mem_append.mp earlier with old | start
      · exact new old
      · exact itself (List.mem_singleton.mp start)

theorem searches_searchAll (found names : List TypeKey) :
    table.Searches names found (table.searchAll found names) :=
  searchAll_induction
    (fun _ => ⟨List.Subset.refl _, List.nil_subset _, fun _ member new => absurd member new⟩)
    (fun rest first => first.cons rest) Searches.known (fun _ named => named.new) names found

/-- What a search finds that starts from nothing is closed under naming. -/
theorem Searches.transGen {result : List TypeKey} (searches : table.Searches names [] result)
    (member : key ∈ result) (path : Relation.TransGen table.Names key interface) :
    interface ∈ result := by
  induction path with
  | single named => exact searches.closed key member List.not_mem_nil named
  | tail _ named inductionHypothesis =>
    exact searches.closed _ inductionHypothesis List.not_mem_nil named

/-- Does the chain of a type name the interface, directly or through interfaces that it names? -/
def Implements (table : TypeTable) (key interface : TypeKey) : Prop :=
  ∃ type ∈ table.chain key, Relation.TransGen table.Names type interface

/-- The interfaces of a type are the interfaces on its chain and those that it implements. -/
theorem mem_allInterfaces_iff : interface ∈ table.allInterfaces key ↔
    (interface ∈ table.chain key ∧ (table.type interface).isInterface = true) ∨
      table.Implements key interface := by
  have sound : ∀ interface ∈ table.allInterfaces key,
      (interface ∈ table.chain key ∧ (table.type interface).isInterface = true) ∨
        table.Implements key interface := by
    refine Binding.forall_mem_allInterfaces ?_ ?_ ?_
    · rintro other (⟨along, -⟩ | ⟨type, along, path⟩) next named
      · exact .inr ⟨other, along, .single named⟩
      · exact .inr ⟨type, along, path.tail named⟩
    · intro type along interface
      exact .inl ⟨along, interface⟩
    · intro type along next named
      exact .inr ⟨type, along, .single named⟩
  refine ⟨sound interface, ?_⟩
  have searches : table.Searches _ [] (table.allInterfaces key) :=
    searches_searchAll [] ((table.chain key).flatMap fun type =>
      (if (table.type type).isInterface then [type] else []) ++ table.interfaces type)
  have starts {type next : TypeKey} (along : type ∈ table.chain key)
      (listed : next ∈ (if (table.type type).isInterface then [type] else []) ++
        table.interfaces type) : next ∈ table.allInterfaces key :=
    searches.starts (List.mem_flatMap.mpr ⟨type, along, listed⟩)
  rintro (⟨along, interface⟩ | ⟨type, along, path⟩)
  · refine starts along (List.mem_append_left _ ?_)
    rw [if_pos interface]
    exact List.mem_singleton_self _
  · obtain ⟨next, named, further⟩ := Relation.TransGen.head'_iff.mp path
    have found := starts along (List.mem_append_right _ named)
    rcases Relation.reflTransGen_iff_eq_or_transGen.mp further with rfl | path
    · exact found
    · exact searches.transGen found path

/-! ### Assignability -/

/-- A type can stand for those on its chain, and for the interfaces that it implements. -/
theorem isAssignable_iff : table.isAssignable key type = true ↔
    type ∈ table.chain key ∨
      ((table.type type).isInterface = true ∧ table.Implements key type) := by
  unfold isAssignable
  rw [Bool.or_eq_true, Bool.and_eq_true, List.contains_iff_mem, List.contains_iff_mem,
    mem_allInterfaces_iff]
  constructor
  · rintro (along | ⟨interface, ⟨along, -⟩ | implemented⟩)
    · exact .inl along
    · exact .inl along
    · exact .inr ⟨interface, implemented⟩
  · rintro (along | ⟨interface, implemented⟩)
    · exact .inl along
    · exact .inr ⟨interface, .inr implemented⟩

/-- Naming further interfaces from what a type can stand for is naming from that type. -/
theorem Implements.of_isAssignable (assignable : table.isAssignable key type = true)
    (path : Relation.TransGen table.Names type interface) : table.Implements key interface := by
  rcases isAssignable_iff.mp assignable with along | ⟨-, start, along, before⟩
  · exact ⟨type, along, path⟩
  · exact ⟨start, along, before.trans path⟩

/-- Can a type stand for the base of every interface that it implements? -/
def FollowsBases (table : TypeTable) (key : TypeKey) : Prop :=
  ∀ interface base, (table.type interface).isInterface = true → table.Implements key interface →
    table.base? interface = some base → table.isAssignable key base = true

/-- A type that can stand for the bases of its interfaces can stand for the chain of whatever it
can stand for. -/
theorem FollowsBases.isAssignable_of_mem_chain (follows : table.FollowsBases key)
    (assignable : table.isAssignable key type = true) {further : TypeKey}
    (member : further ∈ table.chain type) : table.isAssignable key further = true := by
  induction type using Nat.strongRecOn with
  | ind type inductionHypothesis =>
    cases found : table.base? type with
    | none =>
      rw [chain_of_root found] at member
      rw [List.mem_singleton.mp member]
      exact assignable
    | some base =>
      have reached : table.isAssignable key base = true := by
        rcases isAssignable_iff.mp assignable with along | ⟨interface, implemented⟩
        · have next : base ∈ table.chain type := by
            rw [chain_of_base? found]
            exact List.mem_cons_of_mem _ (self_mem_chain table base)
          exact isAssignable_iff.mpr (.inl (chain_subset along next))
        · exact follows type base interface implemented found
      rw [chain_of_base? found] at member
      rcases List.mem_cons.mp member with rfl | further
      · exact assignable
      · exact inductionHypothesis base (table.lt_of_base? found) reached further

/-- What can stand for every type on a chain can stand for all that the chain's type can stand
for. -/
theorem isAssignable_of_forall_mem_chain
    (along : ∀ further ∈ table.chain type, table.isAssignable key further = true)
    (assignable : table.isAssignable type interface = true) :
    table.isAssignable key interface = true := by
  rcases isAssignable_iff.mp assignable with member | ⟨kind, start, member, path⟩
  · exact along interface member
  · exact isAssignable_iff.mpr (.inr ⟨kind, Implements.of_isAssignable (along start member) path⟩)

end Host.TypeTable

/-- Assignability is reflexive. It is transitive from a type on exactly if the type can stand for
the base of every interface that it implements: the types on its chain, and interfaces that extend
others only by naming them, are always passed through. -/
theorem assignability_is_preorder_where_bases_follow (table : TypeTable) (key : TypeKey) :
    table.isAssignable key key = true ∧
      ((∀ type further, table.isAssignable key type = true →
          table.isAssignable type further = true → table.isAssignable key further = true) ↔
        table.FollowsBases key) := by
  refine ⟨isAssignable_self table key, ⟨fun transitive => ?_, fun follows => ?_⟩⟩
  · intro interface base kind implemented found
    have reached := TypeTable.isAssignable_iff.mpr (.inr ⟨kind, implemented⟩)
    refine transitive interface base reached (TypeTable.isAssignable_iff.mpr (.inl ?_))
    rw [TypeTable.chain_of_base? found]
    exact List.mem_cons_of_mem _ (TypeTable.self_mem_chain table base)
  · intro type further first second
    refine TypeTable.isAssignable_of_forall_mem_chain (fun _ member => ?_) second
    exact follows.isAssignable_of_mem_chain first member

/-- An interface, one that has it as its base, and a class that implements the second. -/
def widgetTypes : TypeTable :=
  ⟨#[{ name := "IShown", kind := .interface },
    { name := "IDrawn", kind := .interface, base := some 0 },
    { name := "Widget", kind := .reference, interfaces := [1] }]⟩

/-- The class can stand for the interface that it implements, and that for its base, but not the
class for the base. -/
theorem class_misses_base_of_interface :
    widgetTypes.isAssignable 2 1 = true ∧ widgetTypes.isAssignable 1 0 = true ∧
      widgetTypes.isAssignable 2 0 = false := by
  have classChain : widgetTypes.chain 2 = [2] := TypeTable.chain_of_root rfl
  have drawnChain : widgetTypes.chain 1 = [1, 0] := by
    have derives : widgetTypes.base? 1 = some 0 := rfl
    rw [TypeTable.chain_of_base? derives, TypeTable.chain_of_root rfl]
  have interfaces : widgetTypes.allInterfaces 2 = [1] := by
    unfold TypeTable.allInterfaces
    rw [classChain]
    show widgetTypes.searchInterfaces [] 1 = [1]
    rw [TypeTable.searchInterfaces_eq]
    rfl
  refine ⟨?_, ?_, ?_⟩
  · unfold TypeTable.isAssignable
    rw [classChain, interfaces]
    rfl
  · unfold TypeTable.isAssignable
    rw [drawnChain]
    rfl
  · unfold TypeTable.isAssignable
    rw [classChain, interfaces]
    rfl

end ScriptBridge
