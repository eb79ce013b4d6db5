/-
This file says when a name finds in one scene what a name finds in another. Script sees
under the names the same members up to annotations, in the same order, and may write the
same ones of them; and whether or not script sees them, as many members go by the one
name as by the other, and take as many arguments. In scenes that are alike every name
finds the same. What a call of a value looks for has no name in the call: it is the
default member that the type declares, else the first indexer that script sees. What
keys look for is always the name that indexers are declared under.
-/

import Mathlib.Data.List.Forall2
import ScriptBridge.Binding.Invoke
import ScriptBridge.Proofs.Likeness
import ScriptBridge.Proofs.MemberSteps

namespace ScriptBridge.Binding

open Host

/-! ### Lists of pairs -/

/-- In lists of pairs, what is found is a pair. -/
theorem find?_pairs {Left Right : Type} {paired : Left → Right → Prop} {left : List Left}
    {right : List Right} (pairs : List.Forall₂ paired left right) {selects : Left → Bool}
    {selectsTwin : Right → Bool}
    (same : ∀ {one other}, paired one other → selects one = selectsTwin other) :
    (left.find? selects = none ∧ right.find? selectsTwin = none) ∨
      ∃ one other, left.find? selects = some one ∧ right.find? selectsTwin = some other ∧
        paired one other := by
  induction pairs with
  | nil => exact .inl ⟨rfl, rfl⟩
  | @cons one other _ _ pair _ inductionHypothesis =>
    cases selected : selectsTwin other with
    | true =>
      exact .inr ⟨one, other, List.find?_cons_of_pos ((same pair).trans selected),
        List.find?_cons_of_pos selected, pair⟩
    | false =>
      have unselected : ¬selectsTwin other = true := Bool.eq_false_iff.mp selected
      rw [List.find?_cons_of_neg ((same pair).symm ▸ unselected),
        List.find?_cons_of_neg unselected]
      exact inductionHypothesis

/-! ### What names find -/

/-- The slots are of the same member, and script may write the one in its scene where it may write
the other in the other. -/
structure Scene.Pairs (left right : Scene) (slot other : Slot) : Prop where
  bare : slot.bare = other.bare
  mayWrite : left.sight.mayWrite slot = right.sight.mayWrite other

/-- The name finds in the scene what its twin finds in the other. -/
structure Scene.Finds (left right : Scene) (name twin : String) : Prop where
  bare : left.bare = right.bare
  visible : List.Forall₂ (left.Pairs right) (left.lookup name).visible (right.lookup twin).visible
  declared : (left.lookup name).declared = (right.lookup twin).declared
  misses : ∀ count, missesCount left.slots name count = missesCount right.slots twin count

/-- Host code, not the engine itself, carries out the methods that script sees under the name. -/
def Scene.Hosts (scene : Scene) (name : String) : Prop :=
  ∀ slot ∈ (scene.lookup name).visible, slot.isKind .method = true →
    ∀ number, slot.implementation.implementation ≠ .intrinsic number

/-- The name finds the same in both scenes, with methods that host code carries out. -/
structure Scene.FindsHosted (left right : Scene) (name : String) : Prop
    extends left.Finds right name name where
  hosted : left.Hosts name

theorem scriptName_of_mem_lookup {scene : Scene} {name : String} {slot : Slot}
    (member : slot ∈ (scene.lookup name).visible) : slot.declaration.scriptName = name := by
  obtain ⟨-, shown⟩ := List.mem_filter.mp member
  exact beq_iff_eq.mp (Bool.and_eq_true_iff.mp shown).2

/-- Slots that are found first under one name are known to script by it. -/
theorem scriptName_eq_of_first {left right : Scene} {name : String} {slot other : Slot}
    {rest others : List Slot} (found : (left.lookup name).visible = slot :: rest)
    (foundTwin : (right.lookup name).visible = other :: others) :
    slot.declaration.scriptName = other.declaration.scriptName :=
  (scriptName_of_mem_lookup (found ▸ List.mem_cons_self)).trans
    (scriptName_of_mem_lookup (foundTwin ▸ List.mem_cons_self)).symm

theorem Scene.Hosts.of_mem_ofKind {scene : Scene} {name : String} (hosts : scene.Hosts name)
    {slot : Slot} (member : slot ∈ (scene.lookup name).ofKind .method) (number : Nat) :
    slot.implementation.implementation ≠ .intrinsic number := by
  obtain ⟨found, isMethod⟩ := List.mem_filter.mp member
  exact hosts slot found isMethod number

namespace Scene.Finds

theorem refl (scene : Scene) (name : String) : scene.Finds scene name name where
  bare := rfl
  visible := List.forall₂_same.mpr fun _ _ => ⟨rfl, rfl⟩
  declared := rfl
  misses _ := rfl

variable {left right : Scene} {name twin : String} (finds : left.Finds right name twin)

include finds

theorem ofKind (kind : MemberKind) :
    List.Forall₂ (left.Pairs right) ((left.lookup name).ofKind kind)
      ((right.lookup twin).ofKind kind) := by
  refine List.rel_filter (fun slot other pair => ?_) finds.visible
  exact iff_of_eq (congrArg (· = true) (Slot.isKind_of_bare pair.bare kind))

theorem isEmpty_ofKind (kind : MemberKind) :
    ((left.lookup name).ofKind kind).isEmpty = ((right.lookup twin).ofKind kind).isEmpty := by
  have found := finds.ofKind kind
  generalize (left.lookup name).ofKind kind = slots at found ⊢
  generalize (right.lookup twin).ofKind kind = others at found ⊢
  cases found <;> rfl

/-- The first slots that are found are a pair, or nothing is found. -/
theorem first :
    ((left.lookup name).visible = [] ∧ (right.lookup twin).visible = []) ∨
      ∃ slot rest other others, (left.lookup name).visible = slot :: rest ∧
        (right.lookup twin).visible = other :: others ∧ left.Pairs right slot other := by
  have visible := finds.visible
  generalize (left.lookup name).visible = slots at visible ⊢
  generalize (right.lookup twin).visible = slotsTwin at visible ⊢
  cases visible with
  | nil => exact .inl ⟨rfl, rfl⟩
  | cons pair _ => exact .inr ⟨_, _, _, _, rfl, rfl, pair⟩

/-- What finds something finds a pair with it. -/
theorem first_of_cons {slot : Slot} {rest : List Slot}
    (found : (left.lookup name).visible = slot :: rest) :
    ∃ other others, (right.lookup twin).visible = other :: others ∧ left.Pairs right slot other := by
  rcases finds.first with ⟨nothing, -⟩ | ⟨_, _, other, others, same, foundTwin, pair⟩
  · cases found.symm.trans nothing
  · cases found.symm.trans same
    exact ⟨other, others, foundTwin, pair⟩

/-- Methods that can be read by calling them are found alike. -/
theorem getter :
    (((left.lookup name).ofKind .method).find? Slot.isGetter = none ∧
        ((right.lookup twin).ofKind .method).find? Slot.isGetter = none) ∨
      ∃ getter other, ((left.lookup name).ofKind .method).find? Slot.isGetter = some getter ∧
        ((right.lookup twin).ofKind .method).find? Slot.isGetter = some other ∧
        left.Pairs right getter other :=
  find?_pairs (finds.ofKind .method) fun pair => Slot.isGetter_of_bare pair.bare

end Scene.Finds

theorem slots_of_plain {scene : Scene} {value : Value} (plain : scene.subject = .plain value) :
    scene.slots = [] := by
  unfold Scene.slots
  rw [plain]
  rfl

theorem lookup_of_nothing {scene : Scene} (nothing : scene.slots = []) (name : String) :
    scene.lookup name = ⟨[], 0⟩ := by
  unfold Scene.lookup
  rw [nothing]
  rfl

theorem missesCount_nil (name : String) (count : Nat) :
    missesCount [] name count = decide (0 < count) := Bool.and_true _

/-- Where there are no members, names find the same: nothing. -/
theorem Scene.finds_of_nothing {left right : Scene} (bare : left.bare = right.bare) {value : Value}
    (plain : left.subject = .plain value) (name twin : String) : left.Finds right name twin := by
  have nothing : left.slots = [] := slots_of_plain plain
  have nothingTwin : right.slots = [] :=
    slots_of_plain ((Scene.subject_of_bare bare).symm.trans plain)
  refine ⟨bare, ?_, ?_, fun count => ?_⟩
  · rw [lookup_of_nothing nothing, lookup_of_nothing nothingTwin]
    exact .nil
  · rw [lookup_of_nothing nothing, lookup_of_nothing nothingTwin]
  · rw [nothing, nothingTwin, missesCount_nil, missesCount_nil]

theorem Scene.hosts_of_nothing {scene : Scene} {value : Value} (plain : scene.subject = .plain value)
    (name : String) : scene.Hosts name := by
  intro slot member
  rw [lookup_of_nothing (slots_of_plain plain)] at member
  cases member

/-- In scenes that are alike every name finds the same. -/
theorem Scene.Alike.finds {left right : Scene} (alike : left.Alike right) (name : String) :
    left.Finds right name name where
  bare := alike.bare
  visible := by
    have visible := alike.visible name
    rw [← List.forall₂_eq_eq_eq, List.forall₂_map_left_iff, List.forall₂_map_right_iff] at visible
    refine visible.imp fun slot other same => ⟨Slot.bare_of_blur same, ?_⟩
    rw [← mayWrite_of_bare alike.bare]
    unfold Sight.mayWrite Sight.access
    rw [Slot.declaration_of_blur same]
  declared := alike.declared name
  misses count := by
    have missed (slots : List Slot) :
        missesCount slots name count = missesCount (slots.map Slot.blur) name count := by
      unfold missesCount
      rw [List.all_map]
      rfl
    rw [missed, alike.slots, ← missed]

theorem Scene.Alike.findsHosted {left right : Scene} (alike : left.Alike right) (name : String) :
    left.FindsHosted right name where
  toFinds := alike.finds name
  hosted slot member _ := alike.hosted slot (mem_lookup member).1

/-! ### Calls of a value -/

/-- The name of the default member that the type of the value declares. -/
def Scene.declaredName? (scene : Scene) : Option String :=
  match scene.subject with
  | .member _ key => scene.sight.table.defaultMember? key
  | _ => none

/-- The first indexer that script sees. -/
def Scene.indexer? (scene : Scene) : Option Slot :=
  scene.slots.find? fun slot => slot.isKind .indexer && scene.sight.sees slot

/-- The name that a call of the value looks for. -/
def Scene.callName? (scene : Scene) : Option String :=
  match scene.subject with
  | .member _ _ => scene.declaredName?.or (scene.indexer?.map (·.declaration.scriptName))
  | _ => none

theorem callName?_of_plain {scene : Scene} {value : Value} (plain : scene.subject = .plain value) :
    scene.callName? = none := by
  unfold Scene.callName?
  rw [plain]

theorem callName?_of_declared {scene : Scene} {name : String}
    (declared : scene.declaredName? = some name) : scene.callName? = some name := by
  unfold Scene.callName?
  rw [declared, Option.some_or]
  unfold Scene.declaredName? at declared
  cases subject : scene.subject with
  | member value key => rfl
  | _ =>
    rw [subject] at declared
    cases declared

/-- The name is looked for by a call. -/
theorem outcome_defaultMember?_eq (engine : EngineId) (proxy : CellId) (subject : Subject)
    (world : World) :
    (defaultMember? engine proxy subject).outcome world =
      (.ok (sceneIn world engine proxy subject).callName?, world) := by
  cases subject with
  | member value key =>
    have declared : (sceneIn world engine proxy (.member value key)).declaredName? =
        world.store.types.defaultMember? key := rfl
    unfold defaultMember? Scene.callName?
    rw [Run.outcome_bind_of_ok (Run.outcome_types _), declared]
    dsimp only [sceneIn]
    cases world.store.types.defaultMember? key with
    | some name => rfl
    | none => rfl
  | _ => rfl

/-- The default member is declared whatever the annotations. -/
theorem Scene.declaredName?_of_bare {left right : Scene} (bare : left.bare = right.bare) :
    left.declaredName? = right.declaredName? := by
  unfold Scene.declaredName?
  rw [← Scene.subject_of_bare bare]
  cases left.subject with
  | member value key =>
    dsimp only
    rw [← TypeTable.defaultMember?_bare, Scene.table_of_bare bare, TypeTable.defaultMember?_bare]
  | _ => rfl

/-- What a call of the value looks for is found alike: nothing in both scenes, or the same under the
names. The names may differ where an indexer is found first; otherwise host code carries out the
methods that are found. -/
structure Scene.CallsAlike (left right : Scene) : Prop where
  bare : left.bare = right.bare
  ofValue : ∀ type, left.subject ≠ .statics type
  found : (left.callName? = none ∧ right.callName? = none) ∨
    ∃ name twin, left.callName? = some name ∧ right.callName? = some twin ∧
      left.Finds right name twin ∧
        ((name = twin ∧ left.Hosts name) ∨
          ∃ first rest, (left.lookup name).visible = first :: rest ∧
            first.declaration.kind = .indexer)

/-- What keys look for is found alike. A single text is a name where there is no indexer. -/
structure Scene.KeysAlike (keys : List Script.Value) (left right : Scene) : Prop where
  indexers : left.Finds right Member.indexerName Member.indexerName
  named : ∀ {name}, keys = [.string name] →
    ((left.lookup Member.indexerName).ofKind .indexer).isEmpty = true → left.Finds right name name

namespace Scene.Alike

variable {left right : Scene} (alike : left.Alike right)

include alike

theorem callName?_eq : left.callName? = right.callName? := by
  have selected {one other : Slot} (same : one.blur = other.blur) :
      (one.isKind .indexer && left.sight.sees one) =
        (other.isKind .indexer && left.sight.sees other) := by
    unfold Slot.isKind Sight.sees Sight.access
    rw [Slot.declaration_of_blur same]
  have named : left.indexer?.map (·.declaration.scriptName) =
      right.indexer?.map (·.declaration.scriptName) := by
    have pairs := alike.slots
    rw [← List.forall₂_eq_eq_eq, List.forall₂_map_left_iff, List.forall₂_map_right_iff] at pairs
    unfold Scene.indexer?
    rw [← Scene.sees_of_bare alike.bare]
    rcases find?_pairs pairs selected with
      ⟨found, foundTwin⟩ | ⟨one, other, found, foundTwin, same⟩
    · rw [found, foundTwin]
    · rw [found, foundTwin, Option.map_some, Option.map_some, Slot.declaration_of_blur same]
  unfold Scene.callName?
  rw [← Scene.subject_of_bare alike.bare, Scene.declaredName?_of_bare alike.bare, named]

theorem callsAlike : left.CallsAlike right where
  bare := alike.bare
  ofValue := alike.ofValue
  found := by
    rw [← alike.callName?_eq]
    cases left.callName? with
    | none => exact .inl ⟨rfl, rfl⟩
    | some name => exact .inr ⟨name, name, rfl, rfl, alike.finds name,
        .inl ⟨rfl, (alike.findsHosted name).hosted⟩⟩

theorem keysAlike (keys : List Script.Value) : left.KeysAlike keys right :=
  ⟨alike.finds _, fun _ _ => alike.finds _⟩

end Scene.Alike

end ScriptBridge.Binding
