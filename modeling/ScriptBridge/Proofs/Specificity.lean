/-
This file proves that overload resolution prefers the more specific class. Types are
registered after those that they mention, so what stands for a type has the greater key,
and along a chain of bases keys fall. A value converts to a type on its chain exactly, at
the distance to it as the penalty; to a base of that type at a greater distance, to an
interface of it at the length of the whole chain at most, to an untyped target by a worse
rule. Of two overloads that differ in nothing else the one that declares the type
on the chain therefore costs less, whatever the other arguments add to both.
-/

import ScriptBridge.Proofs.Dominance
import ScriptBridge.Proofs.Exactness
import ScriptBridge.Proofs.Likeness

namespace ScriptBridge

open Host Run Bridge Binding Conversion

/-! ### Keys along chains -/

namespace Host.TypeTable

variable {table : TypeTable} {key type base : TypeKey}

theorem chain_of_base? (found : table.base? key = some base) :
    table.chain key = key :: table.chain base := by
  rw [chain_eq, found]
  rfl

theorem chain_of_root (root : table.base? key = none) : table.chain key = [key] := by
  rw [chain_eq, root]
  rfl

/-- Bases have lower keys. -/
theorem le_of_mem_chain (member : type ∈ table.chain key) : type ≤ key := by
  induction key using Nat.strongRecOn with
  | ind key inductionHypothesis =>
    cases found : table.base? key with
    | none =>
      rw [chain_of_root found] at member
      exact Nat.le_of_eq (List.mem_singleton.mp member)
    | some base =>
      rw [chain_of_base? found] at member
      rcases List.mem_cons.mp member with rfl | further
      · exact Nat.le_refl _
      · have below := table.lt_of_base? found
        exact (inductionHypothesis base below further).trans (Nat.le_of_lt below)

/-- What a type can stand for has no greater key. -/
theorem le_of_isAssignable (assignable : table.isAssignable key type = true) : type ≤ key := by
  unfold isAssignable at assignable
  rcases Bool.or_eq_true_iff.mp assignable with onChain | interface
  · exact le_of_mem_chain (List.contains_iff_mem.mp onChain)
  · have bounded : ∀ interface ∈ table.allInterfaces key, interface ≤ key := by
      refine forall_mem_allInterfaces ?_ ?_ ?_
      · intro other inside next named
        exact (Nat.le_of_lt (table.lt_of_mem_interfaces named)).trans inside
      · intro other along _
        exact le_of_mem_chain along
      · intro other along next named
        exact (Nat.le_of_lt (table.lt_of_mem_interfaces named)).trans (le_of_mem_chain along)
    exact bounded type (List.contains_iff_mem.mp ((Bool.and_eq_true _ _).mp interface).2)

/-- What has a lower key than a type on a chain stands further along the chain, or not on it. -/
theorem findIdx_chain_lt (member : type ∈ table.chain key) {other : TypeKey}
    (lower : other < type) :
    (table.chain key).findIdx (· == type) < (table.chain key).findIdx (· == other) := by
  have skips {first : TypeKey} (passed : first ≠ other) (rest : List TypeKey) :
      (first :: rest).findIdx (· == other) = rest.findIdx (· == other) + 1 := by
    rw [List.findIdx_cons, beq_false_of_ne passed]
    rfl
  -- On the way to the one type the other is not met, since keys fall along the chain.
  induction key using Nat.strongRecOn with
  | ind key inductionHypothesis =>
    have passed : key ≠ other := (lower.trans_le (le_of_mem_chain member)).ne'
    by_cases here : key = type
    · subst here
      rw [chain_eq, skips passed, List.findIdx_cons, beq_self_eq_true]
      exact Nat.succ_pos _
    cases found : table.base? key with
    | none =>
      rw [chain_of_root found] at member
      exact absurd (List.mem_singleton.mp member).symm here
    | some base =>
      rw [chain_of_base? found] at member ⊢
      rcases List.mem_cons.mp member with same | further
      · exact absurd same.symm here
      rw [skips passed, List.findIdx_cons, beq_false_of_ne here]
      exact Nat.succ_lt_succ (inductionHypothesis base (table.lt_of_base? found) further)

end Host.TypeTable

/-! ### Values of registered types -/

/-- The type of an object, a struct or an enumeration value. -/
def Store.nominal? (store : Store) : Host.Value → Option TypeKey
  | .object cell => some (store.objectType cell)
  | .struct type _ => some type
  | .enumeration type _ => some type
  | _ => none

theorem Store.typeOf_of_nominal? {store : Store} {host : Host.Value} {key : TypeKey}
    (nominal : store.nominal? host = some key) : store.typeOf host = .named key := by
  cases host with
  | object _ => cases nominal; rfl
  | struct _ _ => cases nominal; rfl
  | enumeration _ _ => cases nominal; rfl
  | _ => cases nominal

theorem Store.isInstance_of_nominal? {store : Store} {host : Host.Value} {key : TypeKey}
    (nominal : store.nominal? host = some key) (type : TypeKey) :
    store.isInstance host (.named type) = store.types.isAssignable key type := by
  unfold Store.isInstance
  rw [Store.typeOf_of_nominal? nominal]
  cases host <;> first | rfl | cases nominal

theorem Store.Extends.nominal? {earlier later : Store} (grown : earlier.Extends later)
    (host : Host.Value) : later.nominal? host = earlier.nominal? host := by
  cases host with
  | object cell => exact congrArg some (grown.objectType cell)
  | _ => rfl

/-- What a type can stand for besides itself: a base, an interface, or any value. -/
inductive Host.TypeTable.IsWider (table : TypeTable) (key : TypeKey) : TypeRef → Prop
  | named {type : TypeKey} (assignable : table.isAssignable key type = true) (strict : type ≠ key) :
      IsWider table key (.named type)
  | object : IsWider table key .object
  | dynamic : IsWider table key .dynamic

/-! ### Conversions of such values -/

/-- Once values are in use, they stay in use. -/
theorem World.holding_holding (world : World) (cells : List CellId) :
    (world.holding cells).holding cells = world.holding cells :=
  World.holding_eq_self fun _ member => World.mem_held_holding.mpr (.inl member)

variable {engine : EngineId} {world after : World} {argument : Script.Value} {host : Host.Value}
  {key type : TypeKey}

namespace Bridge

/-- A value of a registered type is taken exactly as a type it can stand for, at the distance of the
two, and as no other registered type. -/
theorem outcome_toHost_named_eq_ok (engine : EngineId) (leads : world.Leads argument host)
    (nominal : world.store.nominal? host = some key) {converted : Converted} :
    (toHost engine argument (.named type)).outcome world = (.ok converted, after) ↔
      world.store.types.isAssignable key type = true ∧
        converted = ⟨host, .exact, (world.store.types.chain key).findIdx (· == type)⟩ ∧
        after = world.holding host.cells := by
  rw [outcome_toHost_of_leads leads]
  obtain ⟨cell, rfl, -⟩ := leads
  show (toNamed _ _ _).outcome _ = _ ↔ _
  unfold toNamed
  rw [outcome_bind_of_ok (outcome_readStore _ _)]
  dsimp only [id, World.holding_store]
  rw [Option.filter_some, Store.isInstance_of_nominal? nominal]
  cases world.store.types.isAssignable key type with
  | true =>
    rw [if_pos rfl]
    dsimp only
    rw [Store.typeOf_of_nominal? nominal, outcome_pure]
    constructor
    · rintro ⟨⟩
      exact ⟨rfl, rfl, rfl⟩
    · rintro ⟨-, rfl, rfl⟩
      rfl
  | false => exact ⟨nofun, nofun⟩

/-- An untyped target takes every value, by a worse rule than that of a type the value is of. -/
theorem outcome_toHost_untyped (leads : world.Leads argument host) {target : TypeRef}
    (untyped : target = .object ∨ target = .dynamic) :
    (toHost engine argument target).outcome world =
      (.ok ⟨host, .widening, boxPenalty target⟩, world.holding host.cells) := by
  have taken : (do return ⟨← toHostValue engine argument, .widening, boxPenalty target⟩ :
      ConversionRun Converted).outcome (world.holding host.cells) =
        (.ok ⟨host, .widening, boxPenalty target⟩, world.holding host.cells) := by
    have later : (world.holding host.cells).Leads argument host := leads.grows (.single (.held _ _))
    rw [outcome_bind_of_ok (outcome_toHostValue_of_leads later), World.holding_holding]
    rfl
  rw [outcome_toHost_of_leads leads]
  rcases untyped with rfl | rfl
  · exact taken
  · exact taken

end Bridge

namespace Binding

/-- How well a value reaches a type on its chain. -/
def exactGrade (table : TypeTable) (key type : TypeKey) : Grade :=
  ⟨.exact, (table.chain key).findIdx (· == type)⟩

/-- What a conversion came to is the argument made ready. -/
theorem outcome_convertArgument {target : TypeRef} {converted : Converted}
    (converts : (toHost engine argument target).outcome world = (.ok converted, after)) :
    (convertArgument engine {} target argument).outcome world =
      (.ok (({} : Prepared).add converted.value converted.rule converted.penalty),
        after.holding converted.value.cells) := by
  unfold convertArgument
  have matched : (matching (toHost engine argument target)).outcome world =
      (.ok converted, after) := outcome_mapFailure_eq_ok.mpr converts
  exact outcome_bind_of_ok (outcome_held_eq_ok.mpr ⟨after, matched, rfl⟩)

/-- A value reaches every type on its chain. -/
theorem outcome_prepareArgument_of_chain (engine : EngineId) (leads : world.Leads argument host)
    (nominal : world.store.nominal? host = some key)
    (onChain : type ∈ world.store.types.chain key) {parameter : Parameter}
    (byValue : parameter.passing = .byValue) (declared : parameter.type = .named type) :
    (prepareArgument engine {} parameter argument).outcome world =
      (.ok (({} : Prepared).add host .exact (exactGrade world.store.types key type).penalty),
        world.holding host.cells) := by
  have assignable : world.store.types.isAssignable key type = true := by
    unfold TypeTable.isAssignable
    rw [List.contains_iff_mem.mpr onChain, Bool.true_or]
  have converts := (outcome_toHost_named_eq_ok engine leads nominal).mpr ⟨assignable, rfl, rfl⟩
  unfold prepareArgument
  rw [if_pos (beq_iff_eq.mpr byValue), declared, outcome_convertArgument converts,
    World.holding_holding]
  rfl

/-- A value reaches a wider type than one on its chain at a worse grade, if at all. -/
theorem grade_of_wider (leads : world.Leads argument host)
    (nominal : world.store.nominal? host = some key)
    (onChain : type ∈ world.store.types.chain key) {parameter : Parameter}
    (byValue : parameter.passing = .byValue)
    (wider : world.store.types.IsWider type parameter.type) {alone : Prepared}
    (made : (prepareArgument engine {} parameter argument).outcome world = (.ok alone, after)) :
    ∃ grade, exactGrade world.store.types key type < grade ∧
      alone = ({} : Prepared).add host grade.rule grade.penalty ∧
      after = world.holding host.cells := by
  unfold prepareArgument at made
  rw [if_pos (beq_iff_eq.mpr byValue)] at made
  obtain ⟨converted, left, converts, rfl⟩ := convertArgument_eq_ok made
  rw [outcome_convertArgument converts] at made
  have untyped (untyped : parameter.type = .object ∨ parameter.type = .dynamic) :
      ∃ grade, exactGrade world.store.types key type < grade ∧
        ({} : Prepared).add converted.value converted.rule converted.penalty =
          ({} : Prepared).add host grade.rule grade.penalty ∧
        after = world.holding host.cells := by
    rw [outcome_toHost_untyped leads untyped] at converts
    cases converts
    cases made
    exact ⟨⟨.widening, boxPenalty parameter.type⟩,
      Prod.Lex.toLex_lt_toLex.mpr (.inl Nat.zero_lt_one), rfl, World.holding_holding _ _⟩
  cases declared : parameter.type with
  | named other =>
    rw [declared] at wider converts
    obtain ⟨assignable, strict⟩ :
        world.store.types.isAssignable type other = true ∧ other ≠ type := by
      cases wider with
      | named assignable strict => exact ⟨assignable, strict⟩
    obtain ⟨-, rfl, rfl⟩ := (outcome_toHost_named_eq_ok engine leads nominal).mp converts
    cases made
    have lower : other < type :=
      lt_of_le_of_ne (TypeTable.le_of_isAssignable assignable) strict
    exact ⟨exactGrade world.store.types key other,
      Prod.Lex.toLex_lt_toLex.mpr (.inr ⟨rfl, TypeTable.findIdx_chain_lt onChain lower⟩),
      rfl, World.holding_holding _ _⟩
  | object => exact untyped (.inl declared)
  | dynamic => exact untyped (.inr declared)
  | _ =>
    rw [declared] at wider
    cases wider

/-! ### One place among others -/

variable {before rest : List Parameter} {parameter narrow wide : Parameter}
  {given more : List Script.Value} {prepared : Prepared} {ready : World}

theorem prepareFrom_cons (own : parameter.collects = false) (others : Prepared) :
    prepareFrom engine others (parameter :: rest) (argument :: more) =
      prepareArgument engine others parameter argument >>= fun next =>
        prepareFrom engine next rest more := by
  rw [prepareFrom]
  exact if_neg (Bool.eq_false_iff.mp own)

/-- Arguments for the first parameters are made ready first. -/
theorem prepareFrom_append (single : ∀ parameter ∈ before, parameter.collects = false)
    (aligned : given.length = before.length) (others : Prepared) :
    prepareFrom engine others (before ++ rest) (given ++ more) =
      prepareFrom engine others before given >>= fun next => prepareFrom engine next rest more := by
  induction before generalizing given others with
  | nil =>
    rw [List.eq_nil_of_length_eq_zero aligned]
    exact (pure_bind _ _).symm
  | cons first further inductionHypothesis =>
    cases given with
    | nil => cases aligned
    | cons argument givenRest =>
      have own := single first List.mem_cons_self
      rw [List.cons_append, List.cons_append, prepareFrom_cons own, prepareFrom_cons own,
        bind_assoc]
      refine bind_congr fun next => ?_
      exact inductionHypothesis (fun other member => single other (List.mem_cons_of_mem _ member))
        (Nat.succ.inj aligned) next

/-- What the argument for one parameter comes to stands between what those before it and those after
it come to. -/
theorem prepareFrom_place_eq_ok (single : ∀ parameter ∈ before, parameter.collects = false)
    (aligned : given.length = before.length) (own : parameter.collects = false) :
    (prepareFrom engine {} (before ++ parameter :: rest) (given ++ argument :: more)).outcome
        world = (.ok prepared, ready) ↔
      ∃ first between alone mid last,
        (prepareFrom engine {} before given).outcome world = (.ok first, between) ∧
        (prepareArgument engine {} parameter argument).outcome between = (.ok alone, mid) ∧
        (prepareFrom engine {} rest more).outcome mid = (.ok last, ready) ∧
        first.after (alone.after last) = prepared := by
  rw [prepareFrom_append single aligned, outcome_bind_eq_ok]
  constructor
  · rintro ⟨first, between, made, others⟩
    obtain ⟨tail, madeTail, rfl⟩ := (prepareFrom_after_eq_ok _ _).mp others
    rw [prepareFrom_cons own, outcome_bind_eq_ok] at madeTail
    obtain ⟨alone, mid, madeAlone, others⟩ := madeTail
    obtain ⟨last, madeLast, rfl⟩ := (prepareFrom_after_eq_ok _ _).mp others
    exact ⟨first, between, alone, mid, last, made, madeAlone, madeLast, rfl⟩
  · rintro ⟨first, between, alone, mid, last, made, madeAlone, madeLast, rfl⟩
    refine ⟨first, between, made, (prepareFrom_after_eq_ok _ _).mpr ⟨alone.after last, ?_, rfl⟩⟩
    rw [prepareFrom_cons own, outcome_bind_of_ok madeAlone]
    exact (prepareFrom_after_eq_ok _ _).mpr ⟨last, madeLast, rfl⟩

/-- How many arguments a parameter list takes does not depend on the types it declares. -/
theorem accepts_congr (optional : narrow.isOptional = wide.isOptional)
    (collects : narrow.collects = wide.collects) (count : Nat) :
    Parameter.accepts (before ++ narrow :: rest) count =
      Parameter.accepts (before ++ wide :: rest) count := by
  have least : Parameter.least (before ++ narrow :: rest) =
      Parameter.least (before ++ wide :: rest) := by
    unfold Parameter.least
    rw [List.countP_append, List.countP_append, List.countP_cons, List.countP_cons, optional]
  have greatest : Parameter.greatest? (before ++ narrow :: rest) =
      Parameter.greatest? (before ++ wide :: rest) := by
    unfold Parameter.greatest?
    rw [List.getLast?_append, List.getLast?_append, List.length_append, List.length_append]
    cases rest with
    | nil =>
      dsimp only [List.getLast?_singleton, Option.some_or]
      rw [collects]
      rfl
    | cons first further =>
      rw [List.getLast?_cons_cons, List.getLast?_cons_cons]
      rfl
  unfold Parameter.accepts
  rw [least, greatest]

/-! ### The more specific overload -/

/-- Two overloads take an argument by value and differ in nothing but that parameter. -/
structure DifferIn (before rest : List Parameter) (narrow wide : Parameter)
    (special general : Slot) : Prop where
  special : special.implementation.parameters = before ++ narrow :: rest
  general : general.implementation.parameters = before ++ wide :: rest
  single : ∀ parameter ∈ before, parameter.collects = false
  narrowOwn : narrow.collects = false
  wideOwn : wide.collects = false
  narrowByValue : narrow.passing = .byValue
  wideByValue : wide.passing = .byValue

/-- The narrower of two parameters makes the same of the arguments at less cost. -/
theorem undercuts_of_wider {special general : Slot}
    (differ : DifferIn before rest narrow wide special general)
    (aligned : given.length = before.length) (leads : world.Leads argument host)
    (nominal : world.store.nominal? host = some key)
    (onChain : type ∈ world.store.types.chain key) (declared : narrow.type = .named type)
    (wider : world.store.types.IsWider type wide.type) {rival : Prepared}
    (made : (prepareFrom engine {} general.implementation.parameters
      (given ++ argument :: more)).outcome world = (.ok rival, ready)) :
    ∃ prepared,
      (prepareFrom engine {} special.implementation.parameters (given ++ argument :: more)).outcome
          world = (.ok prepared, ready) ∧ prepared.arguments = rival.arguments ∧
        prepared.cost.Undercuts rival.cost := by
  rw [differ.general] at made
  obtain ⟨first, between, alone, mid, last, madeFirst, madeAlone, madeLast, rfl⟩ :=
    (prepareFrom_place_eq_ok differ.single aligned differ.wideOwn).mp made
  -- The arguments before may have created cells; what the value is and can stand for is kept.
  have grows : Grows world between := by
    have grows := prepareFrom_grows engine {} before given world
    rwa [madeFirst] at grows
  rw [← grows.extends.nominal?] at nominal
  rw [← grows.extends.types] at onChain wider
  have leads := leads.grows grows
  obtain ⟨grade, better, rfl, rfl⟩ :=
    grade_of_wider leads nominal onChain differ.wideByValue wider madeAlone
  have madeNarrow := outcome_prepareArgument_of_chain engine leads nominal onChain
    differ.narrowByValue declared
  let alone := ({} : Prepared).add host .exact (exactGrade between.store.types key type).penalty
  refine ⟨first.after (alone.after last), ?_, rfl, ?_⟩
  · rw [differ.special]
    exact (prepareFrom_place_eq_ok differ.single aligned differ.narrowOwn).mpr
      ⟨first, between, _, _, last, madeFirst, madeNarrow, madeLast, rfl⟩
  show (first.cost.plus (Cost.plus _ last.cost)).Undercuts (first.cost.plus (Cost.plus _ last.cost))
  rw [← Cost.plus_assoc, ← Cost.plus_assoc]
  exact (Cost.undercuts_of_grade first.cost better).plus last.cost

/-- Of two overloads that differ in one parameter, which takes an object, a struct or an enumeration
value, the one that declares a type on the chain of the value's type is taken, and not the one that
declares a base of that type, an interface it can stand for, or any value. The other arguments do
not matter, as long as they are applicable: as long as the former takes all arguments, or the latter
does and neither or both may be called without the argument. -/
theorem more_specific_overload_wins (engine : EngineId) (world : World) (special general : Slot)
    (before rest : List Parameter) (narrow wide : Parameter) (given more : List Script.Value)
    (argument : Script.Value) (host : Host.Value) (key type : TypeKey)
    (differ : DifferIn before rest narrow wide special general)
    (aligned : given.length = before.length) (leads : world.Leads argument host)
    (nominal : world.store.nominal? host = some key)
    (onChain : type ∈ world.store.types.chain key) (declared : narrow.type = .named type)
    (wider : world.store.types.IsWider type wide.type)
    (applicable :
      (∃ prepared, Takes engine (given ++ argument :: more) world special prepared) ∨
        narrow.isOptional = wide.isOptional ∧
          ∃ prepared, Takes engine (given ++ argument :: more) world general prepared) :
    ∃ prepared ready,
      (prepare engine special.implementation.parameters (given ++ argument :: more)).outcome world =
        (.ok prepared, ready) ∧
      ∀ (name : String) (declared : Nat) (candidates : List Slot),
        candidates.Perm [special, general] →
        (resolve engine name candidates declared (given ++ argument :: more)).outcome world =
          (.ok (special, prepared), ready) := by
  have cheaper {rival : Prepared} {ready : World}
      (made : (prepare engine general.implementation.parameters (given ++ argument :: more)).outcome
        world = (.ok rival, ready)) :=
    undercuts_of_wider differ aligned leads nominal onChain declared wider
      (prepare_eq_ok_iff.mp made).2
  obtain ⟨prepared, ready, made⟩ : ∃ prepared ready,
      (prepare engine special.implementation.parameters (given ++ argument :: more)).outcome world =
        (.ok prepared, ready) := by
    rcases applicable with ⟨prepared, ready, made⟩ | ⟨optional, rival, ready, made⟩
    · exact ⟨prepared, ready, made⟩
    · obtain ⟨prepared, madeNarrow, -, -⟩ := cheaper made
      have accepted := (prepare_eq_ok_iff.mp made).1
      have collects : narrow.collects = wide.collects := differ.narrowOwn.trans differ.wideOwn.symm
      rw [differ.general, ← accepts_congr optional collects, ← differ.special] at accepted
      exact ⟨prepared, ready, prepare_eq_ok_iff.mpr ⟨accepted, madeNarrow⟩⟩
  refine ⟨prepared, ready, made, fun name count candidates both => ?_⟩
  rw [resolve_perm both, resolve_ok_iff]
  refine ⟨[], [general], rfl, made, ?_⟩
  rintro other member rival ⟨left, madeOther⟩
  rw [List.mem_singleton.mp member] at madeOther
  obtain ⟨alike, madeNarrow, -, undercuts⟩ := cheaper madeOther
  rw [(prepare_eq_ok_iff.mp made).2] at madeNarrow
  cases madeNarrow
  exact undercuts.compare

/-- A world with a type, another one that derives from it, and a proxy of an object of the other. -/
def withDerived : World where
  store := {
    types := ⟨#[{ name := "Animal", kind := .reference },
      { name := "Dog", kind := .reference, base := some 0 }]⟩
    cells := #[some (.object { type := 1 }),
      some (.proxy ⟨0, .reference (.object 0), none, .none⟩)] }
  engines := #[Engine.new "main" {} none]
  held := [1, 0]

theorem withDerived_chain : withDerived.store.types.chain 1 = [1, 0] := by
  have derives : withDerived.store.types.base? 1 = some 0 := rfl
  rw [TypeTable.chain_of_base? derives, TypeTable.chain_of_root rfl]

/-- An object is passed as what it is, and not as what it derives from. -/
theorem more_specific_overload_wins_of_derived :
    let special := overload [.bool, .named 1]
    let general := overload [.bool, .named 0]
    let arguments := [Script.Value.bool true, .proxy 1]
    DifferIn [valueOf .bool] [] (valueOf (.named 1)) (valueOf (.named 0)) special general ∧
      withDerived.Leads (.proxy 1) (.object 0) ∧
      withDerived.store.nominal? (.object 0) = some 1 ∧
      1 ∈ withDerived.store.types.chain 1 ∧
      withDerived.store.types.IsWider 1 (.named 0) ∧
      (∃ prepared, Takes 0 arguments withDerived special prepared) ∧
      ∃ prepared ready,
        (prepare 0 special.implementation.parameters arguments).outcome withDerived =
          (.ok prepared, ready) ∧
        ∀ (name : String) (declared : Nat) (candidates : List Slot),
          candidates.Perm [special, general] →
          (resolve 0 name candidates declared arguments).outcome withDerived =
            (.ok (special, prepared), ready) := by
  intro special general arguments
  have differ : DifferIn [valueOf .bool] [] (valueOf (.named 1)) (valueOf (.named 0)) special
      general :=
    { special := rfl, general := rfl, single := by decide, narrowOwn := rfl, wideOwn := rfl,
      narrowByValue := rfl, wideByValue := rfl }
  have leads : withDerived.Leads (.proxy 1) (.object 0) := ⟨1, rfl, rfl⟩
  have nominal : withDerived.store.nominal? (.object 0) = some 1 := rfl
  have onChain : 1 ∈ withDerived.store.types.chain 1 := by
    rw [withDerived_chain]
    exact List.mem_cons_self
  have assignable : withDerived.store.types.isAssignable 1 0 = true := by
    unfold TypeTable.isAssignable
    rw [withDerived_chain]
    rfl
  have wider : withDerived.store.types.IsWider 1 (.named 0) := .named assignable (by decide)
  have madeObject := outcome_prepareArgument_of_chain 0 leads nominal onChain
    (rfl : (valueOf (.named 1)).passing = .byValue) rfl
  have made : (prepareFrom 0 {} ([valueOf .bool] ++ valueOf (.named 1) :: [])
      ([.bool true] ++ .proxy 1 :: [])).outcome withDerived = _ :=
    (prepareFrom_place_eq_ok differ.single rfl rfl).mpr
      ⟨_, _, _, _, {}, rfl, madeObject, rfl, rfl⟩
  have taken : ∃ prepared, Takes 0 arguments withDerived special prepared :=
    ⟨_, _, prepare_eq_ok_iff.mpr ⟨rfl, made⟩⟩
  exact ⟨differ, leads, nominal, onChain, wider, taken,
    more_specific_overload_wins 0 withDerived special general _ [] _ _ [.bool true] [] (.proxy 1)
      (.object 0) 1 1 differ rfl leads nominal onChain rfl wider (.inl taken)⟩

end Binding

end ScriptBridge
