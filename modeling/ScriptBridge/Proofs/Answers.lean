/-
This file follows runs to what they have as a value. What is sound of a world stays so
along a relation, and from a sound world a run that keeps to the relation ends with a
value of which more is known. The proxies that are found or made fit as long as the
records find only fitting ones under the flags, and what is made with the flags fits;
then so does what host values are marshaled as.
-/

import ScriptBridge.Proofs.BridgeSteps
import ScriptBridge.Proofs.ProxyLives

namespace ScriptBridge

open Host

namespace Run

/-! ### Runs from sound worlds -/

/-- What is sound stays so along the relation. -/
class Preserves (relation : outParam (World → World → Prop)) (sound : World → Prop) : Prop where
  preserves : ∀ {before after : World}, relation before after → sound before → sound after

variable {Failure Result Next : Type} {relation : World → World → Prop} {sound : World → Prop}
  {holds : World → Result → Prop}

/-- From a sound world, what the run has as a value is as described. -/
def Ends (run : Run Failure Result) (sound : World → Prop) (holds : World → Result → Prop) : Prop :=
  ∀ world : World, sound world → ∀ result after,
    run.outcome world = (.ok result, after) → holds after result

namespace Ends

theorem pure {result : Result} (always : ∀ world, holds world result) :
    (Pure.pure result : Run Failure Result).Ends sound holds := by
  intro world _ given after ran
  cases ran
  exact always world

theorem raise (error : Failure) : (Run.raise error : Run Failure Result).Ends sound holds := by
  intro world _ result after ran
  cases ran

/-- What comes first leaves the world sound. -/
theorem bind [Preserves relation sound] {run : Run Failure Next}
    {next : Next → Run Failure Result} (first : Leaves relation run)
    (second : ∀ result, (next result).Ends sound holds) : (run >>= next).Ends sound holds := by
  intro world isSound result after ran
  obtain ⟨between, middle, ranFirst, ranSecond⟩ := outcome_bind_eq_ok.mp ran
  have leaves := first world
  rw [ranFirst] at leaves
  exact second between middle (Preserves.preserves leaves isSound) result after ranSecond

/-- What follows may go by what is known of the first value. -/
theorem bind_of_ends [Preserves relation sound] {given : World → Next → Prop}
    {run : Run Failure Next} {next : Next → Run Failure Result} (leaves : Leaves relation run)
    (first : run.Ends sound given)
    (second : ∀ result, (next result).Ends (fun world => sound world ∧ given world result) holds) :
    (run >>= next).Ends sound holds := by
  intro world isSound result after ran
  obtain ⟨between, middle, ranFirst, ranSecond⟩ := outcome_bind_eq_ok.mp ran
  have stays := leaves world
  rw [ranFirst] at stays
  refine second between middle ⟨Preserves.preserves stays isSound, ?_⟩ result after ranSecond
  exact first world isSound between middle ranFirst

/-- What follows only shapes the value. -/
theorem map {given : World → Next → Prop} {run : Run Failure Next} {shape : Next → Result}
    (first : run.Ends sound given)
    (imp : ∀ world next, given world next → holds world (shape next)) :
    (do return shape (← run) : Run Failure Result).Ends sound holds := by
  intro world isSound result after ran
  obtain ⟨next, between, ranFirst, shaped⟩ := outcome_bind_eq_ok.mp ran
  cases shaped
  exact imp _ next (first world isSound next _ ranFirst)

theorem mono {wider : World → Result → Prop} {run : Run Failure Result}
    (ends : run.Ends sound holds) (imp : ∀ world result, holds world result → wider world result) :
    run.Ends sound wider :=
  fun world isSound result after ran => imp after result (ends world isSound result after ran)

theorem scope {run : Run Failure Result}
    (unheld : ∀ (world : World) held result, holds world result → holds { world with held } result)
    (ends : run.Ends sound holds) : (Run.scope run).Ends sound holds := by
  intro world isSound result after ran
  rw [outcome_scope] at ran
  rcases inner : run.outcome world with ⟨halt | given, between⟩
  · rw [inner] at ran
    cases ran
  · rw [inner] at ran
    cases ran
    exact unheld _ _ _ (ends world isSound _ _ inner)

theorem held [HoldsCells Result] {run : Run Failure Result}
    (unheld : ∀ (world : World) held result, holds world result → holds { world with held } result)
    (ends : run.Ends sound holds) : (Run.held run).Ends sound holds := by
  intro world isSound result after ran
  obtain ⟨between, inner, rfl⟩ := outcome_held_eq_ok.mp ran
  exact unheld _ _ _ (ends world isSound _ _ inner)

/-! ### Runs that need a history -/

variable {past : List Binding.MemberEvent → Prop}

/-- What needs no history may have any. -/
theorem after {run : Run Failure Result} (ends : run.Ends sound holds) :
    run.Ends (fun world => sound world ∧ past world.history) holds :=
  fun world isSound => ends world isSound.1

/-- What comes first needs the history, and leaves the world sound. -/
theorem bind_of_reachesFrom [Preserves relation sound] {run : Run Failure Next}
    {next : Next → Run Failure Result} (first : run.ReachesFrom relation past)
    (second : ∀ result, (next result).Ends sound holds) :
    (run >>= next).Ends (fun world => sound world ∧ past world.history) holds := by
  intro world isSound result after ran
  obtain ⟨between, middle, ranFirst, ranSecond⟩ := outcome_bind_eq_ok.mp ran
  have leaves := first world isSound.2
  rw [ranFirst] at leaves
  exact second between middle (Preserves.preserves leaves isSound.1) result after ranSecond

/-- What only changes the world leaves the history to what follows. -/
theorem changes_bind_of_yields [ChangeRelation relation] [Preserves relation sound]
    {run : Run Failure Next} {next : Next → Run Failure Result} (first : Leaves Changes run)
    (second : ∀ result, run.Yields result →
      (next result).Ends (fun world => sound world ∧ past world.history) holds) :
    (run >>= next).Ends (fun world => sound world ∧ past world.history) holds := by
  intro world isSound result after ran
  obtain ⟨between, middle, ranFirst, ranSecond⟩ := outcome_bind_eq_ok.mp ran
  have changes := first world
  rw [ranFirst] at changes
  refine second between ⟨world, middle, ranFirst⟩ middle ⟨?_, ?_⟩ result after ranSecond
  · exact Preserves.preserves changes.related isSound.1
  · rw [changes.history]
    exact isSound.2

theorem changes_bind [ChangeRelation relation] [Preserves relation sound]
    {run : Run Failure Next} {next : Next → Run Failure Result} (first : Leaves Changes run)
    (second : ∀ result,
      (next result).Ends (fun world => sound world ∧ past world.history) holds) :
    (run >>= next).Ends (fun world => sound world ∧ past world.history) holds :=
  changes_bind_of_yields first fun result _ => second result

end Ends

end Run

namespace Bridge

open Run

variable {relation : World → World → Prop} {sound : World → Prop} {engine : EngineId}
  {flags : ItemFlags} {fits : World → CellId → Prop}

/-! ### Proxies -/

/-- The proxies of the engine fit that are found and made under the flags, and go on to. -/
structure Supplies (relation : World → World → Prop) (sound : World → Prop) (engine : EngineId)
    (flags : ItemFlags) (fits : World → CellId → Prop) : Prop where
  found : ∀ {world : World}, sound world → ∀ mark ∈ (world.engine engine).cache.marks,
    mark.1 = flags.identity → fits world mark.2
  made : ∀ {world after : World} {proxy : Proxy}, proxy.engine = engine → proxy.flags = flags →
    after.store = (world.store.create (.proxy proxy)).1 → fits after world.store.cells.size
  stays : ∀ {before after : World} {cell : CellId}, relation before after → fits before cell →
    fits after cell

section

variable [ChangeRelation relation] [Preserves relation sound]
  (supplies : Supplies relation sound engine flags fits)
include supplies

omit [Preserves relation sound] in
/-- A proxy that is found is an entry of the record. -/
theorem findOrMake_ends {Key : Type} [BEq Key] [LawfulBEq Key]
    {entries : ProxyCache → List (Key × CellId)} {key : Key} (flagsOf : Key → ItemFlags)
    (listed : ∀ (cache : ProxyCache), ∀ entry ∈ entries cache,
      (flagsOf entry.1, entry.2) ∈ cache.marks) (keyed : flagsOf key = flags.identity)
    (add : ProxyCache → CellId → ProxyCache) {proxy : Proxy} (owned : proxy.engine = engine)
    (flagged : proxy.flags = flags) : (findOrMake entries add key proxy).Ends sound fits := by
  intro world isSound cell after ran
  obtain ⟨between, reaped, comes⟩ := outcome_findOrMake entries add key proxy world
  have related : relation world between := by
    rcases reaped with rfl | rfl
    · exact RunRelation.refl between
    · have reaps : Leaves relation (reap : ScriptRun Unit) := Leaves.reap
      exact reaps world
  rw [comes] at ran
  cases found : ProxyCache.find? (entries (world.engine proxy.engine).cache) between.store.isLive
    key with
  | some living =>
    rw [found] at ran
    cases ran
    unfold ProxyCache.find? at found
    obtain ⟨entry, entered, rfl⟩ := Option.map_eq_some_iff.mp (Option.filter_eq_some_iff.mp found).1
    have matches_ : (entry.1 == key) = true :=
      List.find?_some (p := fun entry : Key × CellId => entry.1 == key) entered
    have same : entry.1 = key := beq_iff_eq.mp matches_
    have fitting : fits world entry.2 := by
      refine supplies.found isSound (flagsOf entry.1, entry.2) ?_ (same ▸ keyed)
      exact owned ▸ listed _ entry (List.mem_of_find?_eq_some entered)
    exact supplies.stays (RunRelation.trans related (RunRelation.held _ _)) fitting
  | none =>
    rw [found] at ran
    cases ran
    exact supplies.made owned flagged rfl

theorem findReference_ends (value : Value) (view : Option TypeKey) :
    (findReference engine value view flags).Ends sound fits := by
  refine .bind (requireCache_leaves engine) fun _ => ?_
  split
  · refine findOrMake_ends supplies ReferenceKey.flags (fun cache entry entered => ?_)
      rfl _ rfl rfl
    exact List.mem_append_left _ (List.mem_map_of_mem entered)
  · exact .bind (.typeText value) fun _ => .raise _

theorem findHandle_ends (type : TypeRef) : (findHandle engine type flags).Ends sound fits := by
  refine .bind (requireCache_leaves engine) fun _ => ?_
  refine findOrMake_ends supplies HandleKey.flags (fun cache entry entered => ?_)
    rfl _ rfl rfl
  exact List.mem_append_right _ (List.mem_map_of_mem entered)

theorem boxValue_ends (value : Value) : (boxValue engine value flags).Ends sound fits := by
  refine .bind (.holdCells _) fun _ => .bind (reserve_leaves engine) fun _ =>
    .bind (requireCache_leaves engine) fun _ => ?_
  intro world _ cell after ran
  rw [outcome_create] at ran
  cases ran
  exact supplies.made rfl rfl rfl

theorem proxyReference_ends (value : Value) (declared : TypeRef) :
    (proxyReference engine value declared flags).Ends sound fits :=
  .bind (.holdCells _) fun _ => .bind (.readStore _) fun view => .bind (reserve_leaves engine)
    fun _ => findReference_ends supplies value view

end

/-! ### Marshaling -/

/-- The value fits if it is a proxy. -/
def Outermost (fits : World → CellId → Prop) (world : World) (value : Script.Value) : Prop :=
  ∀ cell, value = .proxy cell → fits world cell

/-- What makes a proxy ends with one of which holds what does of all that fit. -/
theorem outermost_made {run : ScriptRun CellId} {shown : World → CellId → Prop}
    (ends : run.Ends sound fits) (shows : ∀ {world cell}, fits world cell → shown world cell) :
    (do return .proxy (← run) : ScriptRun Script.Value).Ends sound (Outermost shown) := by
  refine ends.map fun world cell made other same => ?_
  cases same
  exact shows made

theorem outermost_plain {value : Script.Value} (plain : ∀ cell, value ≠ .proxy cell) :
    (pure value : ScriptRun Script.Value).Ends sound (Outermost fits) :=
  .pure fun _ cell same => absurd same (plain cell)

theorem exportNull_ne_proxy (options : Options) (declared : TypeRef) (cell : CellId) :
    exportNull options declared ≠ .proxy cell := by
  unfold exportNull
  extract_lets untyped
  split
  · rintro ⟨⟩
  · split <;> rintro ⟨⟩

theorem exportInt_ne_proxy (value : Int) (cell : CellId) : exportInt value ≠ .proxy cell := by
  unfold exportInt
  split <;> nofun

/-- Of every proxy that the host gives an engine holds what does of all that fit, as long as it does
of those adopted from handles. -/
theorem toScript_ends [StepRelation relation] [Preserves relation sound] {calls : Calls}
    {shown : World → CellId → Prop} (supplies : Supplies relation sound engine .none fits)
    (shows : ∀ {world cell}, fits world cell → shown world cell)
    (unheld : ∀ (world : World) held cell, shown world cell → shown { world with held } cell)
    (reach : calls.Reach relation)
    (adopts : ∀ {world : World} {handle : CellId} {inner : Script.Value}, sound world →
      world.store.handle? handle = some inner → ∀ own after,
        (adopt engine inner).outcome world = (.ok own, after) → Outermost shown after own)
    (value : Host.Value) (declared : TypeRef) :
    (toScript calls engine value declared).Ends sound (Outermost shown) := by
  have asReference : (do
      return .proxy (← proxyReference engine value declared .none) : ScriptRun Script.Value).Ends
        sound (Outermost shown) :=
    outermost_made (proxyReference_ends supplies _ _) shows
  have asBoxed : (do
      return .proxy (← boxValue engine value .none) : ScriptRun Script.Value).Ends
        sound (Outermost shown) :=
    outermost_made (boxValue_ends supplies _) shows
  refine .scope (fun world held _ shown cell same => unheld world held cell (shown cell same)) ?_
  refine .bind (.holdCells _) fun _ => .bind (.engine engine) fun state => ?_
  cases value with
  | dateTime moment =>
    dsimp only
    split
    · exact outermost_plain nofun
    · exact asBoxed
  | enumeration | struct => exact asBoxed
  | type type =>
    exact .bind (reserve_leaves engine) fun _ =>
      outermost_made (findHandle_ends supplies _) shows
  | script handle =>
    intro world isSound own after ran
    rw [outcome_bind_of_ok (outcome_readStore _ _)] at ran
    cases handed : world.store.handle? handle with
    | some inner =>
      rw [handed] at ran
      exact adopts isSound handed own after ran
    | none =>
      rw [handed] at ran
      cases ran
      exact nofun
  | array cell =>
    dsimp only
    split
    · refine .bind (.readStore _) fun element => .bind (.readStore _) fun items => ?_
      refine .bind (exportItems_leaves (reach.toScript engine · element) _) fun values => ?_
      exact .bind (.create _ trivial rfl) fun _ => outermost_plain nofun
    · exact asReference
  | delegate cell =>
    refine .bind (.readStore _) fun function => ?_
    split
    · exact outermost_plain nofun
    · exact asReference
  | object | box => exact asReference
  | null => exact outermost_plain (exportNull_ne_proxy _ _)
  | integer value => exact outermost_plain (exportInt_ne_proxy _)
  | _ => exact outermost_plain nofun

end Bridge

end ScriptBridge
