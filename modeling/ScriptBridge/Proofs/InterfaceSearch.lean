/-
This file shows that the search for interfaces is exact. A search under way keeps the
interfaces still to be visited and those that it found; a visit takes the last of the
former, and goes on with those that it names unless it was found before. A type is found
at most once, so whatever it names is put off for a visit at most once: the search is over
after as many visits as there were names to begin with and on the types that it found.
What it found are the interfaces on the chain and those reached from there by naming, and
since that does not depend on the order of names, neither does the set of what is found.
-/

import Mathlib.Logic.Function.Iterate
import ScriptBridge.Proofs.Assignability

namespace ScriptBridge

open Host

namespace Host.TypeTable

variable {table other : TypeTable} {key interface : TypeKey} {names found : List TypeKey}
  {number : TypeKey → TypeKey}

/-! ### Visits -/

/-- A search under way: the interfaces still to be visited, the next one last, and those found. -/
structure Search where
  pending : List TypeKey
  found : List TypeKey

/-- The search after one more visit. -/
def visit (table : TypeTable) (search : Search) : Search :=
  match search.pending.getLast? with
  | none => search
  | some interface =>
    if search.found.contains interface then ⟨search.pending.dropLast, search.found⟩
    else ⟨search.pending.dropLast ++ table.interfaces interface, search.found ++ [interface]⟩

/-- The search for the interfaces of a type before its first visit. -/
def beginSearch (table : TypeTable) (key : TypeKey) : Search where
  pending := (table.chain key).flatMap fun type =>
    (if (table.type type).isInterface then [type] else []) ++ table.interfaces type
  found := []

/-- How often types name interfaces. -/
def nameCount (table : TypeTable) (types : List TypeKey) : Nat :=
  (types.map fun type => (table.interfaces type).length).sum

theorem nameCount_append_singleton (table : TypeTable) (types : List TypeKey) (type : TypeKey) :
    table.nameCount (types ++ [type]) = table.nameCount types + (table.interfaces type).length := by
  unfold nameCount
  rw [List.map_append, List.sum_append, List.map_singleton, List.sum_singleton]

theorem visit_known {rest : List TypeKey} (known : interface ∈ found) :
    table.visit ⟨rest ++ [interface], found⟩ = ⟨rest, found⟩ := by
  unfold visit
  dsimp only
  rw [List.getLast?_concat, List.dropLast_concat]
  exact if_pos (List.contains_iff_mem.mpr known)

theorem visit_new {rest : List TypeKey} (new : interface ∉ found) :
    table.visit ⟨rest ++ [interface], found⟩ =
      ⟨rest ++ table.interfaces interface, found ++ [interface]⟩ := by
  unfold visit
  dsimp only
  rw [List.getLast?_concat, List.dropLast_concat]
  exact if_neg fun known => new (List.contains_iff_mem.mp known)

/-- Visiting some interfaces, and whatever they lead to, ends with a result. Each of them takes a
visit, and so does every name on a type that is found by that. -/
def Settles (table : TypeTable) (names found result : List TypeKey) : Prop :=
  ∀ rest, ∃ count, count + table.nameCount found = names.length + table.nameCount result ∧
    table.visit^[count] ⟨rest ++ names, found⟩ = ⟨rest, result⟩

/-- The interfaces that stand last are visited first, with whatever they lead to. -/
theorem Settles.cons {between result : List TypeKey}
    (rest : table.Settles names found between)
    (first : table.Settles [interface] between result) :
    table.Settles (interface :: names) found result := by
  intro below
  obtain ⟨before, counted, settled⟩ := rest (below ++ [interface])
  obtain ⟨last, countedLast, settledLast⟩ := first below
  refine ⟨last + before, ?_, ?_⟩
  · rw [List.length_singleton] at countedLast
    rw [List.length_cons]
    omega
  · rw [← List.append_cons] at settled
    rw [Function.iterate_add_apply, settled, settledLast]

/-- A visit to a new interface puts off those that it names. -/
theorem Settles.new {result : List TypeKey} (new : interface ∉ found)
    (named : table.Settles (table.interfaces interface) (found ++ [interface]) result) :
    table.Settles [interface] found result := by
  intro below
  obtain ⟨count, counted, settled⟩ := named below
  refine ⟨count + 1, ?_, ?_⟩
  · rw [nameCount_append_singleton] at counted
    rw [List.length_singleton]
    omega
  · rw [Function.iterate_add_apply, Function.iterate_one, visit_new new, settled]

/-- Visits find what the recursion over names finds. -/
theorem settles_searchAll (found names : List TypeKey) :
    table.Settles names found (table.searchAll found names) :=
  searchAll_induction (fun _ below => ⟨0, rfl, by rw [List.append_nil]; rfl⟩) Settles.cons
    (fun known _ => ⟨1, rfl, visit_known known⟩) Settles.new names found

/-- The search for the interfaces of a type is over after as many visits as there were names to begin
with and on the types that it found. -/
theorem iterate_visit_beginSearch (table : TypeTable) (key : TypeKey) :
    table.visit^[(table.beginSearch key).pending.length + table.nameCount (table.allInterfaces key)]
      (table.beginSearch key) = ⟨[], table.allInterfaces key⟩ := by
  have settles : table.Settles (table.beginSearch key).pending [] (table.allInterfaces key) :=
    settles_searchAll [] (table.beginSearch key).pending
  obtain ⟨count, counted, settled⟩ := settles []
  have all : count = (table.beginSearch key).pending.length +
      table.nameCount (table.allInterfaces key) := counted
  rw [← all]
  exact settled

/-! ### Each type once -/

/-- A visit finds nothing a second time. -/
theorem nodup_visit {search : Search} (nodup : search.found.Nodup) :
    (table.visit search).found.Nodup := by
  unfold visit
  split
  · exact nodup
  · split
    · exact nodup
    · next new =>
      have fresh : _ ∉ search.found := fun inside => new (List.contains_iff_mem.mpr inside)
      exact List.nodup_append_comm.mp (List.nodup_cons.mpr ⟨fresh, nodup⟩)

theorem nodup_iterate_visit {search : Search} (nodup : search.found.Nodup) (count : Nat) :
    (table.visit^[count] search).found.Nodup := by
  induction count with
  | zero => exact nodup
  | succ count inductionHypothesis =>
    rw [Function.iterate_succ_apply']
    exact nodup_visit inductionHypothesis

theorem nodup_allInterfaces (table : TypeTable) (key : TypeKey) :
    (table.allInterfaces key).Nodup := by
  have begins : (table.beginSearch key).found.Nodup := List.nodup_nil
  have ends := congrArg Search.found (iterate_visit_beginSearch table key)
  dsimp only at ends
  rw [← ends]
  exact nodup_iterate_visit begins _

/-! ### Other orders -/

/-- The same types stand in another table, under other keys: the bases are the same, and every type
names the same interfaces in whatever order. -/
structure Renumbers (table other : TypeTable) (number : TypeKey → TypeKey) : Prop where
  injective : Function.Injective number
  kinds : ∀ key, (other.type (number key)).isInterface = (table.type key).isInterface
  bases : ∀ key, other.base? (number key) = (table.base? key).map number
  named : ∀ key next, next ∈ other.interfaces (number key) ↔
    next ∈ (table.interfaces key).map number

namespace Renumbers

theorem chain (renumbers : table.Renumbers other number) (key : TypeKey) :
    other.chain (number key) = (table.chain key).map number := by
  induction key using Nat.strongRecOn with
  | ind key inductionHypothesis =>
    have based := renumbers.bases key
    cases found : table.base? key with
    | none =>
      rw [found] at based
      rw [chain_of_root found, chain_of_root based, List.map_singleton]
    | some base =>
      rw [found] at based
      rw [chain_of_base? found, chain_of_base? based, List.map_cons,
        inductionHypothesis base (table.lt_of_base? found)]

theorem names_iff (renumbers : table.Renumbers other number) {target : TypeKey} :
    Relation.TransGen other.Names (number key) target ↔
      ∃ interface, Relation.TransGen table.Names key interface ∧ number interface = target := by
  constructor
  · intro path
    induction path with
    | single named =>
      obtain ⟨next, named, same⟩ := List.mem_map.mp ((renumbers.named key _).mp named)
      exact ⟨next, .single named, same⟩
    | tail _ named inductionHypothesis =>
      obtain ⟨middle, before, rfl⟩ := inductionHypothesis
      obtain ⟨next, named, same⟩ := List.mem_map.mp ((renumbers.named middle _).mp named)
      exact ⟨next, before.tail named, same⟩
  · rintro ⟨interface, path, rfl⟩
    refine path.lift number fun type next named => ?_
    exact (renumbers.named type _).mpr (List.mem_map_of_mem named)

theorem implements_iff (renumbers : table.Renumbers other number) {target : TypeKey} :
    other.Implements (number key) target ↔
      ∃ interface, table.Implements key interface ∧ number interface = target := by
  unfold Implements
  rw [renumbers.chain]
  constructor
  · rintro ⟨_, renumbered, path⟩
    obtain ⟨type, along, rfl⟩ := List.mem_map.mp renumbered
    obtain ⟨interface, path, same⟩ := renumbers.names_iff.mp path
    exact ⟨interface, ⟨type, along, path⟩, same⟩
  · rintro ⟨interface, ⟨type, along, path⟩, same⟩
    exact ⟨number type, List.mem_map_of_mem along, renumbers.names_iff.mpr ⟨interface, path, same⟩⟩

/-- The interfaces of a type are the same under the other keys. -/
theorem allInterfaces_perm (renumbers : table.Renumbers other number) (key : TypeKey) :
    (other.allInterfaces (number key)).Perm ((table.allInterfaces key).map number) := by
  refine (List.perm_ext_iff_of_nodup (nodup_allInterfaces other _)
    ((nodup_allInterfaces table key).map renumbers.injective)).mpr fun target => ?_
  rw [mem_allInterfaces_iff, renumbers.implements_iff, renumbers.chain, List.mem_map, List.mem_map]
  constructor
  · rintro (⟨⟨interface, along, rfl⟩, kind⟩ | ⟨interface, implemented, rfl⟩)
    · rw [renumbers.kinds] at kind
      exact ⟨interface, mem_allInterfaces_iff.mpr (.inl ⟨along, kind⟩), rfl⟩
    · exact ⟨interface, mem_allInterfaces_iff.mpr (.inr implemented), rfl⟩
  · rintro ⟨interface, member, rfl⟩
    rcases mem_allInterfaces_iff.mp member with ⟨along, kind⟩ | implemented
    · exact .inl ⟨⟨interface, along, rfl⟩, (renumbers.kinds interface).trans kind⟩
    · exact .inr ⟨interface, implemented, rfl⟩

end Renumbers

/-! ### The search -/

/-- What is asked of a search for the interfaces of a type: it comes to an end, repeats no key, finds
the interfaces on the chain and whatever is reached from there by naming, and finds the same in
whatever order types are registered and name their interfaces. -/
structure SearchesExactly (table : TypeTable) (key : TypeKey) : Prop where
  ends : table.visit^[(table.beginSearch key).pending.length +
      table.nameCount (table.allInterfaces key)] (table.beginSearch key) =
    ⟨[], table.allInterfaces key⟩
  nodup : (table.allInterfaces key).Nodup
  finds : ∀ interface, interface ∈ table.allInterfaces key ↔
    (∃ type ∈ table.chain key, Relation.TransGen table.Names type interface) ∨
      (interface ∈ table.chain key ∧ (table.type interface).isInterface = true)
  orderless : ∀ other number, table.Renumbers other number →
    (other.allInterfaces (number key)).Perm ((table.allInterfaces key).map number)

end Host.TypeTable

/-- The search for the interfaces of a type is exact, for every type of every table. -/
theorem interface_search_is_exact (table : TypeTable) (key : TypeKey) :
    table.SearchesExactly key where
  ends := table.iterate_visit_beginSearch key
  nodup := table.nodup_allInterfaces key
  finds _ := TypeTable.mem_allInterfaces_iff.trans Or.comm
  orderless _ _ renumbers := renumbers.allInterfaces_perm key

/-- A class names two interfaces that both name a third, and another time in the other order. -/
def diamondTypes (named : List TypeKey) : TypeTable :=
  ⟨#[{ name := "IRoot", kind := .interface },
    { name := "ILeft", kind := .interface, interfaces := [0] },
    { name := "IRight", kind := .interface, interfaces := [0] },
    { name := "Diamond", kind := .reference, interfaces := named }]⟩

/-- The interfaces of the class are found in another order, and are the same. -/
theorem interface_search_is_exact_of_diamond :
    (diamondTypes [1, 2]).allInterfaces 3 = [2, 0, 1] ∧
      (diamondTypes [2, 1]).allInterfaces 3 = [1, 0, 2] ∧
      ((diamondTypes [2, 1]).allInterfaces 3).Perm ((diamondTypes [1, 2]).allInterfaces 3) := by
  have renumbers : (diamondTypes [1, 2]).Renumbers (diamondTypes [2, 1]) id := by
    refine ⟨Function.injective_id, fun key => ?_, fun key => ?_, fun key next => ?_⟩
    · match key with
      | 0 | 1 | 2 | 3 | _ + 4 => rfl
    · match key with
      | 0 | 1 | 2 | 3 | _ + 4 => rfl
    · rw [List.map_id]
      match key with
      | 3 =>
        have swapped : ((diamondTypes [2, 1]).interfaces 3).Perm
            ((diamondTypes [1, 2]).interfaces 3) := .swap 1 2 []
        exact swapped.mem_iff
      | 0 | 1 | 2 | _ + 4 => exact Iff.rfl
  have same := (interface_search_is_exact (diamondTypes [1, 2]) 3).orderless _ _ renumbers
  rw [List.map_id] at same
  exact ⟨by decide +kernel, by decide +kernel, same⟩

end ScriptBridge
