/-
This file says which roots a sweep leaves. A sweep releases the roots of the
proxies that had died before it, and no others. The proxies that die with what
those roots held leave tickets that the same sweep does not drain, so their roots
wait for the next one: along a chain of objects that hold proxies of one another
every sweep goes on by one link. Sweeping as often as there are roots releases the
roots of all dead proxies. The limit of the heap is enforced after one sweep.
-/

import Mathlib.Logic.Function.Iterate
import ScriptBridge.Proofs.Deferral
import ScriptBridge.Proofs.Sheltering

namespace ScriptBridge

open Run Bridge

/-! ### Records and counters -/

namespace ProxyCache

theorem prune_snd (cache : ProxyCache) (isLive : CellId → Bool) :
    (cache.prune isLive).2 = cache.entries.countP fun cell => !isLive cell := by
  have dead {Key : Type} (entries : List (Key × CellId)) :
      (entries.filter fun entry => isLive entry.2).length +
        (entries.map (·.2)).countP (fun cell => !isLive cell) = entries.length := by
    rw [List.countP_map]
    exact World.length_filter_add_countP _ entries
  have references := dead cache.references
  have handles := dead cache.handles
  unfold prune ProxyCache.entries
  rw [List.countP_append]
  dsimp only
  omega

theorem prune_of_isLive {cache : ProxyCache} {isLive : CellId → Bool}
    (live : ∀ entry ∈ cache.entries, isLive entry = true) : (cache.prune isLive).1 = cache := by
  unfold entries at live
  simp only [List.mem_append, List.mem_map] at live
  unfold prune
  dsimp only
  rw [List.filter_eq_self.mpr fun entry listed => live _ (.inl ⟨entry, listed, rfl⟩),
    List.filter_eq_self.mpr fun entry listed => live _ (.inr ⟨entry, listed, rfl⟩)]

end ProxyCache

theorem HeapCounters.used_died (heap : HeapCounters) (contents : Cell) :
    (heap.died contents).used ≤ heap.used := by
  cases contents <;> unfold died used <;> dsimp only <;> omega

/-! ### Worlds that calls lead to -/

namespace CacheCall

/-- A call on the record of another engine keeps the invariant as well. -/
theorem after_isKept_of_ne {world : World} {engine other : EngineId} (kept : world.IsKept engine)
    (keptOther : world.IsKept other) (different : other ≠ engine) (call : CacheCall) :
    (call.after other world).IsKept engine := by
  by_cases last : call = dispose
  · subst last
    rw [after_dispose]
    exact (kept.changeCache_of_ne different _).steps (World.reap_spec _).1.steps
  · exact kept.steps_of_ne different (after_steps keptOther last)

end CacheCall

namespace World

/-- The worlds that calls on the records of any engines lead to. -/
inductive Becomes (start : World) : World → Prop
  | start : Becomes start start
  | call {world : World} (reached : Becomes start world) {engine : EngineId}
      (known : engine < start.engines.size) (call : CacheCall) :
      Becomes start (call.after engine world)

theorem becomes_afterAll {start : World} {engine : EngineId} (known : engine < start.engines.size)
    (calls : List CacheCall) : start.Becomes (CacheCall.afterAll engine start calls) := by
  have goesOn : ∀ {world : World}, start.Becomes world →
      start.Becomes (CacheCall.afterAll engine world calls) := by
    induction calls with
    | nil => exact id
    | cons call rest inductionHypothesis =>
      exact fun reached => inductionHypothesis (.call reached known call)
  exact goesOn .start

/-- The records of all engines stay in order, whichever of them is called. -/
theorem Becomes.isKept {start world : World}
    (fresh : ∀ engine < start.engines.size, start.HasFreshRecord engine)
    (reached : start.Becomes world) :
    ∀ engine < start.engines.size, world.IsKept engine ∧ world.IsSettled := by
  induction reached with
  | start => exact fun engine known => ⟨(fresh engine known).isKept, (fresh engine known).settled⟩
  | @call world reached other called call inductionHypothesis =>
    intro engine known
    obtain ⟨kept, settled⟩ := inductionHypothesis engine known
    refine ⟨?_, CacheCall.after_isSettled settled call⟩
    by_cases same : other = engine
    · subst same
      exact (CacheCall.after_spec kept call).1
    · exact CacheCall.after_isKept_of_ne kept (inductionHypothesis other called).1 same call

/-! ### Roots of living proxies -/

/-- Every root of the engine is one of a living proxy that stands for what is rooted. -/
def RootsLive (world : World) (engine : EngineId) : Prop :=
  ∀ cell value, (cell, value) ∈ (world.engine engine).cache.roots →
    ∃ proxy, world.HasProxy engine cell proxy ∧ proxy.target = .reference value

/-- What a sweep tells: how many roots of dead proxies it released, and how many entries of proxies
that are dead after it it removed. -/
def sweepTells (world : World) (engine : EngineId) : Swept where
  released := (world.engine engine).cache.roots.countP fun root => !world.store.isLive root.1
  pruned := (world.engine engine).cache.entries.countP fun cell =>
    !(world.swept engine).store.isLive cell

/-- The world after a number of sweeps. -/
def sweptTimes (world : World) (engine : EngineId) (times : Nat) : World :=
  (·.swept engine)^[times] world

/-- The world after as many sweeps as there are roots. -/
def cleared (world : World) (engine : EngineId) : World :=
  world.sweptTimes engine (world.engine engine).cache.roots.length

section

variable {world : World} {engine : EngineId}

theorem IsKept.serves_of_root (kept : world.IsKept engine) {root : CellId × Host.Value}
    (rooted : root ∈ (world.engine engine).cache.roots) :
    world.store.Serves engine (world.engine engine).cache := by
  cases enabled : (world.engine engine).isDisposed with
  | false => exact kept.serves enabled
  | true =>
    rw [(kept.emptied enabled).2.2] at rooted
    cases rooted

/-- The ticket of a rooted proxy waits exactly when the proxy is dead. -/
theorem IsKept.contains_tickets (kept : world.IsKept engine) {root : CellId × Host.Value}
    (rooted : root ∈ (world.engine engine).cache.roots) :
    (world.engine engine).cache.tickets.contains root.1 = !world.store.isLive root.1 := by
  have serves := kept.serves_of_root rooted
  cases living : world.store.isLive root.1 with
  | true =>
    rw [Bool.not_true, List.contains_eq_mem, decide_eq_false_iff_not]
    intro waiting
    rw [(serves.tickets root.1 waiting).2] at living
    cases living
  | false =>
    rw [Bool.not_false, List.contains_eq_mem, decide_eq_true_iff]
    refine (serves.roots root.1 root.2 rooted).resolve_right ?_
    rintro ⟨proxy, found, -⟩
    rw [Store.isLive_iff.mpr ⟨_, found⟩] at living
    cases living

theorem IsKept.rootsLive_iff (kept : world.IsKept engine) :
    world.RootsLive engine ↔
      ∀ root ∈ (world.engine engine).cache.roots, world.store.isLive root.1 = true := by
  constructor
  · intro live root rooted
    obtain ⟨proxy, has, -⟩ := live root.1 root.2 rooted
    exact Store.isLive_iff.mpr ⟨_, has.1⟩
  · intro living cell value rooted
    have waits := kept.contains_tickets rooted
    rw [living _ rooted, Bool.not_true, List.contains_eq_mem, decide_eq_false_iff_not] at waits
    have serves := kept.serves_of_root rooted
    obtain ⟨proxy, found, owned, stands⟩ := (serves.roots cell value rooted).resolve_left waits
    exact ⟨proxy, ⟨found, owned⟩, stands⟩

/-- Draining keeps the roots of the living. -/
theorem IsKept.roots_drain (kept : world.IsKept engine) :
    (world.engine engine).cache.drain.1.roots =
      (world.engine engine).cache.roots.filter fun root => world.store.isLive root.1 := by
  refine List.filter_congr fun root rooted => ?_
  rw [kept.contains_tickets rooted, Bool.not_not]

theorem IsKept.drain_snd (kept : world.IsKept engine) :
    (world.engine engine).cache.drain.2 =
      (world.engine engine).cache.roots.countP fun root => !world.store.isLive root.1 := by
  rw [World.drain_snd]
  refine List.countP_congr fun root rooted => ?_
  rw [kept.contains_tickets rooted]

/-! ### One sweep -/

theorem IsKept.swept (kept : world.IsKept engine) : (world.swept engine).IsKept engine := by
  have steps : ProxySteps engine world ((sweep engine : ScriptRun Swept).outcome world).2 :=
    sweep_steps
  rw [outcome_sweep_world] at steps
  exact kept.steps steps

theorem isSettled_swept (world : World) (engine : EngineId) : (world.swept engine).IsSettled := by
  rw [← reap_swept]
  exact (reap_spec _).2

theorem IsSettled.released_eq (settled : world.IsSettled) :
    world.released engine = world.drained engine := by
  unfold released
  rw [settled.reap_eq]

theorem IsKept.drained (kept : world.IsKept engine) : (world.drained engine).IsKept engine :=
  kept.step (.drain world)

theorem IsKept.roots_swept (kept : world.IsKept engine) (settled : world.IsSettled) :
    ((world.swept engine).engine engine).cache.roots =
      (world.engine engine).cache.roots.filter fun root => world.store.isLive root.1 := by
  have kept_by_reaping := (KeepsRoots.swept world engine).roots
  rw [settled.released_eq] at kept_by_reaping
  rw [kept_by_reaping kept.drained.inside, ← kept.roots_drain]
  exact congrArg (·.cache.roots) (engine_changeCache kept.inside)

theorem IsKept.outcome_sweep {Failure : Type} (kept : world.IsKept engine)
    (settled : world.IsSettled) :
    (sweep engine : Run Failure Swept).outcome world =
      (.ok (world.sweepTells engine), world.swept engine) := by
  let before := world.drained engine
  have entries : (before.reap.engine engine).cache.entries =
      (world.engine engine).cache.entries := by
    obtain ⟨-, -, references, handles⟩ := (reap_spec before).1.keep kept.drained
    have drained : (before.engine engine).cache.entries = (world.engine engine).cache.entries :=
      congrArg (·.cache.entries) (engine_changeCache kept.inside)
    unfold ProxyCache.entries at drained ⊢
    rw [references, handles, drained]
  have left : world.swept engine = before.reap.pruned engine := by
    unfold World.swept
    rw [settled.released_eq]
  have pruned := ProxyCache.prune_snd (before.reap.engine engine).cache before.reap.store.isLive
  rw [entries] at pruned
  have releases : (releaseDropped engine : Run Failure Nat).outcome world = _ :=
    outcome_releaseDropped engine world
  rw [settled.reap_eq, kept.drain_snd] at releases
  refine Prod.ext ?_ (outcome_sweep_world engine world)
  unfold sweep sweepTells
  rw [outcome_bind_of_ok releases, left]
  exact congrArg (fun pruned => Except.ok (Swept.mk _ pruned)) pruned

theorem IsKept.outcome_collect {Failure : Type} (kept : world.IsKept engine)
    (settled : world.IsSettled) (idle : ¬(world.session engine).isBusy = true) :
    (collect engine : Run Failure (Option Swept)).outcome world =
      (.ok (some (world.sweepTells engine)), (world.swept engine).asking) := by
  have keptAsking : world.asking.IsKept engine :=
    ⟨kept.inside, kept.counted, kept.serves, kept.emptied⟩
  have tells : world.asking.sweepTells engine = world.sweepTells engine := by
    unfold sweepTells
    rw [swept_asking]
    rfl
  have sweeps : (sweep engine : Run Failure Swept).outcome world.asking = _ :=
    keptAsking.outcome_sweep settled
  rw [tells, swept_asking] at sweeps
  unfold World.session at idle
  unfold collect
  rw [outcome_bind_of_ok (outcome_engine engine world), if_neg idle,
    outcome_bind_of_ok (outcome_update _ world)]
  exact outcome_bind_of_ok sweeps

/-- A rooted proxy that something outside the heap still names outlives the sweep. -/
theorem IsKept.isLive_swept_of_anchor (kept : world.IsKept engine) (settled : world.IsSettled)
    {cell : CellId} (living : world.store.isLive cell = true)
    (named : cell ∈ (world.drained engine).anchors) :
    (world.swept engine).store.isLive cell = true := by
  have stays := ((reap_spec (world.drained engine)).1.keep kept.drained).1 cell named
  have left : (world.swept engine).store = (world.drained engine).reap.store := by
    show (world.released engine).reap.store = _
    rw [settled.released_eq]
  unfold Store.isLive at living ⊢
  rw [left, stays]
  exact living

/-- What a sweep left is complete exactly when no rooted proxy died in it. -/
theorem IsKept.rootsLive_swept_iff (kept : world.IsKept engine) (settled : world.IsSettled) :
    (world.swept engine).RootsLive engine ↔
      ∀ root ∈ (world.engine engine).cache.roots, world.store.isLive root.1 = true →
        (world.swept engine).store.isLive root.1 = true := by
  rw [kept.swept.rootsLive_iff, kept.roots_swept settled]
  simp only [List.mem_filter, and_imp]

/-! ### Sweeping again -/

/-- Where no root waits, a sweep drops the tickets and removes the entries of dead proxies. -/
theorem IsKept.swept_of_rootsLive (kept : world.IsKept engine) (settled : world.IsSettled)
    (live : world.RootsLive engine) :
    world.swept engine =
      (world.changeCache engine fun cache => { cache with tickets := [] }).pruned engine := by
  let fresh (cache : ProxyCache) : ProxyCache := { cache with tickets := [] }
  have drains : (world.engine engine).cache.drain.1 = fresh (world.engine engine).cache := by
    have kept_roots : (world.engine engine).cache.drain.1.roots =
        (world.engine engine).cache.roots := by
      rw [kept.roots_drain]
      exact List.filter_eq_self.mpr (kept.rootsLive_iff.mp live)
    exact congrArg (fun roots => { fresh (world.engine engine).cache with roots }) kept_roots
  have same : world.drained engine = world.changeCache engine fresh := changeCache_congr drains
  have stays : (world.changeCache engine fresh).IsSettled := by
    have names : (world.changeCache engine fresh).names = world.names :=
      congrArg (· ++ world.store.namings) (anchors_modifyEngine fun _ => rfl)
    intro cell living
    rw [names]
    exact settled cell living
  unfold World.swept
  rw [settled.released_eq, same, stays.reap_eq]

theorem IsKept.rootsLive_swept (kept : world.IsKept engine) (settled : world.IsSettled)
    (live : world.RootsLive engine) : (world.swept engine).RootsLive engine := by
  refine (kept.rootsLive_swept_iff settled).mpr fun root _ living => ?_
  rw [kept.swept_of_rootsLive settled live]
  exact living

/-- Once no root waits, further sweeps leave it at that and free nothing. -/
theorem IsKept.sweptTimes_of_rootsLive (kept : world.IsKept engine) (settled : world.IsSettled)
    (live : world.RootsLive engine) (times : Nat) :
    (world.sweptTimes engine times).RootsLive engine ∧
      (world.sweptTimes engine times).isOverLimit = world.isOverLimit := by
  induction times generalizing world with
  | zero => exact ⟨live, rfl⟩
  | succ times inductionHypothesis =>
    have heap : (world.swept engine).isOverLimit = world.isOverLimit := by
      rw [kept.swept_of_rootsLive settled live]
      rfl
    obtain ⟨lives, free⟩ := inductionHypothesis kept.swept (isSettled_swept world engine)
      (kept.rootsLive_swept settled live)
    exact ⟨lives, free.trans heap⟩

/-- A second sweep tells of nothing where the first left no root of a dead proxy. -/
theorem IsKept.outcome_sweep_again {Failure : Type} (kept : world.IsKept engine)
    (live : (world.swept engine).RootsLive engine) :
    (sweep engine : Run Failure Swept).outcome (world.swept engine) =
      (.ok { released := 0, pruned := 0 },
        (world.swept engine).changeCache engine fun cache => { cache with tickets := [] }) := by
  have settled := isSettled_swept world engine
  have entries : ∀ entry ∈ ((world.swept engine).engine engine).cache.entries,
      (world.swept engine).store.isLive entry = true :=
    fun _ => isLive_of_mem_swept world kept.inside
  let next := (world.swept engine).changeCache engine fun cache => { cache with tickets := [] }
  have left : (world.swept engine).swept engine = next := by
    rw [kept.swept.swept_of_rootsLive settled live]
    have pruned : next.pruned engine = next.changeCache engine id := by
      refine changeCache_congr (ProxyCache.prune_of_isLive fun entry listed => entries entry ?_)
      rwa [show (next.engine engine).cache.entries = _ from
        congrArg (·.cache.entries) (engine_changeCache kept.swept.inside)] at listed
    exact pruned.trans (modifyEngine_id next engine)
  rw [kept.swept.outcome_sweep settled]
  unfold sweepTells
  rw [left]
  have released : ((world.swept engine).engine engine).cache.roots.countP
      (fun root => !(world.swept engine).store.isLive root.1) = 0 :=
    List.countP_eq_zero.mpr fun root rooted => by
      rw [kept.swept.rootsLive_iff.mp live root rooted]
      exact Bool.false_ne_true
  have pruned : ((world.swept engine).engine engine).cache.entries.countP
      (fun cell => !next.store.isLive cell) = 0 :=
    List.countP_eq_zero.mpr fun cell listed => by
      rw [show next.store.isLive cell = true from entries cell listed]
      exact Bool.false_ne_true
  rw [released, pruned]

/-- A second sweep releases what the first left. -/
theorem IsKept.outcome_sweep_further {Failure : Type} (kept : world.IsKept engine)
    (waits : ¬(world.swept engine).RootsLive engine) :
    ∃ told, (sweep engine : Run Failure Swept).outcome (world.swept engine) =
      (.ok told, (world.swept engine).swept engine) ∧ 0 < told.released := by
  refine ⟨_, kept.swept.outcome_sweep (isSettled_swept world engine), ?_⟩
  rw [kept.swept.rootsLive_iff] at waits
  push Not at waits
  obtain ⟨root, rooted, dead⟩ := waits
  exact List.countP_pos_iff.mpr ⟨root, rooted, by rw [Bool.eq_false_iff.mpr dead]; rfl⟩

/-- A sweep releases a root as long as one of a dead proxy waits. -/
theorem IsKept.length_roots_swept (kept : world.IsKept engine) (settled : world.IsSettled)
    (waits : ¬world.RootsLive engine) :
    ((world.swept engine).engine engine).cache.roots.length <
      (world.engine engine).cache.roots.length := by
  rw [kept.rootsLive_iff] at waits
  push Not at waits
  rw [kept.roots_swept settled]
  exact List.length_filter_lt_length_iff_exists.mpr waits

/-- As many sweeps as there are roots leave those of living proxies only. -/
theorem IsKept.rootsLive_sweptTimes (kept : world.IsKept engine) (settled : world.IsSettled)
    {times : Nat} (enough : (world.engine engine).cache.roots.length ≤ times) :
    (world.sweptTimes engine times).RootsLive engine := by
  induction times generalizing world with
  | zero =>
    intro cell value rooted
    have none : (world.engine engine).cache.roots = [] :=
      List.eq_nil_of_length_eq_zero (Nat.le_zero.mp enough)
    have rooted : (cell, value) ∈ (world.engine engine).cache.roots := rooted
    rw [none] at rooted
    cases rooted
  | succ times inductionHypothesis =>
    by_cases live : world.RootsLive engine
    · exact (kept.sweptTimes_of_rootsLive settled live (times + 1)).1
    · have fewer := kept.length_roots_swept settled live
      exact inductionHypothesis kept.swept (isSettled_swept world engine)
        (Nat.le_of_lt_succ (Nat.lt_of_lt_of_le fewer enough))

/-! ### Room in the heap -/

theorem Burials.isOverLimit {before after : World} (burials : Burials before after)
    (exceeds : after.isOverLimit = true) : before.isOverLimit = true := by
  induction burials with
  | refl => exact exceeds
  | @tail between _ _ last inductionHypothesis =>
    obtain @⟨cell, contents, living, _⟩ := last
    refine inductionHypothesis ?_
    have limit : (between.bury cell).heapLimit = between.heapLimit := by
      rw [bury_of_get? living]
      cases contents <;> rfl
    have heap : (between.bury cell).heap = between.heap.died contents := by
      rw [bury_of_get? living]
      cases contents <;> rfl
    unfold World.isOverLimit at exceeds ⊢
    rw [limit, heap] at exceeds
    cases found : between.heapLimit with
    | none =>
      rw [found] at exceeds
      exact exceeds
    | some most =>
      rw [found] at exceeds
      have fewer := HeapCounters.used_died between.heap contents
      simp only [decide_eq_true_eq] at exceeds ⊢
      exact Nat.lt_of_lt_of_le exceeds fewer

theorem isOverLimit_of_swept (exceeds : (world.swept engine).isOverLimit = true) :
    world.isOverLimit = true := by
  have released : (world.released engine).isOverLimit = true :=
    (reap_spec (world.released engine)).1.isOverLimit exceeds
  exact (reap_spec world).1.isOverLimit released

theorem isOverLimit_of_sweptTimes {times : Nat}
    (exceeds : (world.sweptTimes engine times).isOverLimit = true) : world.isOverLimit = true := by
  induction times generalizing world with
  | zero => exact exceeds
  | succ times inductionHypothesis => exact isOverLimit_of_swept (inductionHypothesis exceeds)

/-- Making room sweeps once, where there is none. -/
theorem IsSettled.outcome_reserve (settled : world.IsSettled) :
    (reserve engine).outcome world =
      if world.isOverLimit then
        (if (world.swept engine).isOverLimit then .error (.raised heapIsFull) else .ok (),
          world.swept engine)
      else (.ok (), world) := by
  have weighed : world.weighed = world := by
    unfold weighed
    split
    · exact settled.reap_eq
    · rfl
  cases exceeds : world.isOverLimit with
  | false =>
    rw [outcome_reserve_of_room (weighed.symm ▸ exceeds), weighed]
    rfl
  | true =>
    refine outcome_reserve_of_full engine (weighed.symm ▸ exceeds) ?_
    rw [weighed]
    exact outcome_sweep_world engine world

theorem IsKept.rootsLive_or_cleared (kept : world.IsKept engine) (settled : world.IsSettled) :
    world.RootsLive engine ∨
      ∃ times, world.cleared engine = (world.swept engine).sweptTimes engine times := by
  by_cases live : world.RootsLive engine
  · exact .inl live
  · obtain ⟨times, length⟩ :=
      Nat.exists_eq_succ_of_ne_zero (Nat.ne_zero_of_lt (kept.length_roots_swept settled live))
    refine .inr ⟨times, ?_⟩
    unfold cleared
    rw [length]
    rfl

/-- What exceeds the limit once no root of a dead proxy waits exceeds it after one sweep. -/
theorem IsKept.isOverLimit_swept_of_cleared (kept : world.IsKept engine)
    (settled : world.IsSettled) (exceeds : (world.cleared engine).isOverLimit = true) :
    (world.swept engine).isOverLimit = true := by
  rcases kept.rootsLive_or_cleared settled with live | ⟨times, cleared⟩
  · exact (kept.sweptTimes_of_rootsLive settled live 1).2.trans (isOverLimit_of_sweptTimes exceeds)
  · rw [cleared] at exceeds
    exact isOverLimit_of_sweptTimes exceeds

/-- The heap has no more room later where one sweep left no root of a dead proxy. -/
theorem IsKept.isOverLimit_cleared (kept : world.IsKept engine) (settled : world.IsSettled)
    (live : (world.swept engine).RootsLive engine) :
    (world.cleared engine).isOverLimit = (world.swept engine).isOverLimit := by
  rcases kept.rootsLive_or_cleared settled with before | ⟨times, cleared⟩
  · have once := kept.sweptTimes_of_rootsLive settled before 1
    exact (kept.sweptTimes_of_rootsLive settled before _).2.trans once.2.symm
  · rw [cleared]
    exact (kept.swept.sweptTimes_of_rootsLive (isSettled_swept world engine) live times).2

theorem IsSettled.reserve_raises_iff (settled : world.IsSettled) :
    ((reserve engine).outcome world).1 = .error (.raised heapIsFull) ↔
      (world.swept engine).isOverLimit = true := by
  rw [settled.outcome_reserve]
  constructor
  · intro raised
    split at raised
    · split at raised
      · assumption
      · cases raised
    · cases raised
  · intro exceeds
    rw [if_pos (isOverLimit_of_swept exceeds), if_pos exceeds]

/-! ### What sweeping promises -/

/-- What the sweeps of an engine do to its roots. -/
structure SweepsByLinks (world : World) (engine : EngineId) : Prop where
  told : (sweep engine : ScriptRun Swept).outcome world =
    (.ok (world.sweepTells engine), world.swept engine)
  /-- A collection on an idle engine sweeps. -/
  collected : ¬(world.session engine).isBusy = true →
    (collect engine : ScriptRun (Option Swept)).outcome world =
      (.ok (some (world.sweepTells engine)), (world.swept engine).asking)
  /-- It releases the roots of the proxies that were dead before it. -/
  roots : ((world.swept engine).engine engine).cache.roots =
    (world.engine engine).cache.roots.filter fun root => world.store.isLive root.1
  /-- It leaves entries of living proxies only. -/
  entries : ∀ entry ∈ ((world.swept engine).engine engine).cache.entries,
    (world.swept engine).store.isLive entry = true
  /-- A root that is left is one of a dead proxy exactly when the proxy died in the sweep. -/
  complete : (world.swept engine).RootsLive engine ↔
    ∀ root ∈ (world.engine engine).cache.roots, world.store.isLive root.1 = true →
      (world.swept engine).store.isLive root.1 = true
  /-- No rooted proxy dies in it that is named by something else than the heap and the roots that
  are released. -/
  named : ∀ root ∈ (world.engine engine).cache.roots, world.store.isLive root.1 = true →
    root.1 ∈ (world.drained engine).anchors → (world.swept engine).store.isLive root.1 = true
  /-- Where it left no root of a dead proxy, a second sweep tells of nothing and only drops
  tickets. -/
  again : (world.swept engine).RootsLive engine →
    (sweep engine : ScriptRun Swept).outcome (world.swept engine) =
      (.ok { released := 0, pruned := 0 },
        (world.swept engine).changeCache engine fun cache => { cache with tickets := [] })
  /-- Where it left one, the second sweep releases a root. -/
  further : ¬(world.swept engine).RootsLive engine →
    ∃ told, (sweep engine : ScriptRun Swept).outcome (world.swept engine) =
      (.ok told, (world.swept engine).swept engine) ∧ 0 < told.released
  /-- As many sweeps as there are roots leave those of living proxies only. -/
  cleared : (world.cleared engine).RootsLive engine
  /-- Making room for a proxy sweeps once, and fails where the limit is still exceeded then. -/
  limit : (reserve engine).outcome world =
    if world.isOverLimit then
      (if (world.swept engine).isOverLimit then .error (.raised heapIsFull) else .ok (),
        world.swept engine)
    else (.ok (), world)
  /-- It fails where what lives once no root of a dead proxy waits exceeds the limit. -/
  full : (world.cleared engine).isOverLimit = true →
    ((reserve engine).outcome world).1 = .error (.raised heapIsFull)
  /-- Where the sweep left no root of a dead proxy it fails only then. -/
  fair : (world.swept engine).RootsLive engine →
    ((reserve engine).outcome world).1 = .error (.raised heapIsFull) →
      (world.cleared engine).isOverLimit = true

theorem IsKept.sweepsByLinks (kept : world.IsKept engine) (settled : world.IsSettled) :
    world.SweepsByLinks engine where
  told := kept.outcome_sweep settled
  collected := kept.outcome_collect settled
  roots := kept.roots_swept settled
  entries _ := isLive_of_mem_swept world kept.inside
  complete := kept.rootsLive_swept_iff settled
  named _ _ := kept.isLive_swept_of_anchor settled
  again := kept.outcome_sweep_again
  further := kept.outcome_sweep_further
  cleared := kept.rootsLive_sweptTimes settled (Nat.le_refl _)
  limit := settled.outcome_reserve
  full exceeds :=
    settled.reserve_raises_iff.mpr (kept.isOverLimit_swept_of_cleared settled exceeds)
  fair live raised :=
    (kept.isOverLimit_cleared settled live).trans (settled.reserve_raises_iff.mp raised)

end

end World

/-- Whatever has been called on the records of the engines: a sweep releases the roots of the
proxies that were dead before it. It leaves those of proxies that die in it, if there are such; the
next sweep releases them, and so on to the end of the chain. -/
theorem sweeps_release_link_by_link {start world : World}
    (fresh : ∀ engine < start.engines.size, start.HasFreshRecord engine)
    (reached : start.Becomes world) {engine : EngineId} (known : engine < start.engines.size) :
    world.SweepsByLinks engine := by
  obtain ⟨kept, settled⟩ := reached.isKept fresh engine known
  exact kept.sweepsByLinks settled

/-- Makes an object, of which script has the proxy, and which holds what is in a cell. -/
def linkCalls (object : CellId) (state : Named Host.Value) : List CacheCall :=
  [.make (.object { type := 0, state }), .reference (.object object) none .none,
    .make (.handle (.proxy (object + 1)))]

/-- Three objects, each but the first with the proxy of the one before. Script has let go of all. -/
def chainCalls : List CacheCall :=
  linkCalls 0 [] ++ linkCalls 3 [("next", .script 2)] ++ linkCalls 6 [("next", .script 5)] ++
    (List.range 9).map .drop

theorem sweeps_release_link_by_link_of_chain :
    let start : World := { engines := #[Engine.new "main" {} none], heapLimit := some 0 }
    (∀ engine < start.engines.size, start.HasFreshRecord engine) ∧
      start.Becomes (CacheCall.afterAll 0 start chainCalls) ∧
        (CacheCall.afterAll 0 start chainCalls).SweepsByLinks 0 := by
  intro start
  have fresh : ∀ engine < start.engines.size, start.HasFreshRecord engine := by
    intro engine known
    have first : engine = 0 := Nat.lt_one_iff.mp known
    subst first
    exact .of_no_cells known rfl rfl rfl
  have known : 0 < start.engines.size := Nat.zero_lt_one
  have reached := World.becomes_afterAll known chainCalls
  exact ⟨fresh, reached, sweeps_release_link_by_link fresh reached known⟩

/-- A sweep leaves the root of a dead proxy, which a second sweep releases, and no room is found in
the heap where nothing but such roots keeps proxies. -/
theorem sweep_leaves_root_of_dead_proxy :
    let start : World := { engines := #[Engine.new "main" {} none], heapLimit := some 0 }
    let world := CacheCall.afterAll 0 start chainCalls
    let swept := world.swept 0
    ¬swept.RootsLive 0 ∧
      ((sweep 0 : ScriptRun Swept).outcome swept).1.toOption =
        some { released := 1, pruned := 1 } ∧
      ((reserve 0).outcome world).1.toOption = none ∧ (world.cleared 0).isOverLimit = false := by
  intro start world swept
  have rooted : ((swept.engine 0).cache.roots.map (·.1)).contains 4 = true := by decide +kernel
  have dead : swept.store.isLive 4 = false := by decide +kernel
  refine ⟨fun live => ?_, by decide +kernel, by decide +kernel, by decide +kernel⟩
  rw [List.contains_eq_mem, decide_eq_true_iff, List.mem_map] at rooted
  obtain ⟨root, rooted, cell⟩ := rooted
  obtain ⟨proxy, has, -⟩ := live root.1 root.2 rooted
  rw [cell] at has
  rw [Store.isLive_iff.mpr ⟨_, has.1⟩] at dead
  cases dead

end ScriptBridge
