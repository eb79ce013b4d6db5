/-
This file proves that the names a proxy tells are the names that it answers to. Where
no capability is asked they are, each once, what the visible slots are exposed as and
what the subject has besides; and reading one of them comes to what has the name, not
to what is answered to any name. Names that are not told are those of texts, a second
spelling, or unknown.
-/

import ScriptBridge.Proofs.CallForms
import ScriptBridge.Proofs.Receivers

namespace ScriptBridge

open Host Run Bridge Binding

variable {calls : Calls} {engine : EngineId} {world looked : World} {proxy : CellId}
  {name : String} {target : Value} {scene : Scene}

/-- Names told once each. -/
theorem nodup_eraseDups {Item : Type} [BEq Item] [LawfulBEq Item] (items : List Item) :
    items.eraseDups.Nodup := by
  match items with
  | [] => exact List.nodup_nil
  | first :: rest =>
    rw [List.eraseDups_cons, List.nodup_cons]
    refine ⟨fun again => ?_, nodup_eraseDups _⟩
    have kept := (List.mem_filter.mp (List.mem_eraseDups.mp again)).2
    rw [beq_self_eq_true] at kept
    cases kept
termination_by items.length
decreasing_by exact Nat.lt_succ_of_le (List.length_filter_le _ _)

/-! ### Entries -/

namespace Binding

/-- Something that has a name on a proxy: a slot, a type nested in the type that the proxy stands
for, a constant of it, the length of an array or the value of a box. -/
inductive Entry
  | member (slot : Slot)
  | nested (type : TypeKey)
  | constant (type : TypeKey) (name : String) (raw : Int)
  | length (array : CellId)
  | value (box : CellId)

/-- What a scene shows under which name. -/
inductive Scene.Exposes (scene : Scene) : Entry → String → Prop
  | member {slot : Slot} (among : slot ∈ scene.slots) (seen : scene.sight.sees slot = true) :
    Exposes scene (.member slot) slot.declaration.scriptName
  | nested {key type : TypeKey} (stands : scene.subject = .statics (.named key))
    (among : type ∈ (scene.sight.table.type key).nested) :
    Exposes scene (.nested type) (scene.sight.table.type type).name
  | constant {key : TypeKey} {name : String} {raw : Int}
    (stands : scene.subject = .statics (.named key))
    (among : (name, raw) ∈ (scene.sight.table.type key).constants) :
    Exposes scene (.constant key name raw) name
  | length {array : CellId} (stands : scene.subject = .plain (.array array)) :
    Exposes scene (.length array) "length"
  | value {box : CellId} (stands : scene.subject = .plain (.box box)) :
    Exposes scene (.value box) "value"

/-- Reading an entry. -/
def Entry.read (calls : Calls) (engine : EngineId) (scene : Scene) : Entry → ScriptRun Script.Value
  | member slot => readSlot calls engine scene slot
  | nested type => toScript calls engine (.type (.named type)) .handle
  | constant type _ raw => toScript calls engine (.enumeration type raw) (.named type)
  | length array => do return .int (Int64.ofNat ((← readStore id).hostItems array).size)
  | value box => do
    let store ← readStore id
    toScript calls engine (store.boxValue box) (store.boxType box)

/-! ### Names that are told -/

/-- What a subject has besides its members is exposed under the names that it answers to besides
them. -/
theorem mem_otherNames : name ∈ otherNames scene.sight.table scene.subject ↔
    ∃ entry, scene.Exposes entry name ∧ ∀ slot, entry ≠ .member slot := by
  constructor
  · intro told
    unfold otherNames at told
    split at told
    · next key stands =>
      rcases List.mem_append.mp told with nested | constant
      · obtain ⟨type, among, rfl⟩ := List.mem_map.mp nested
        exact ⟨.nested type, .nested stands among, by simp⟩
      · obtain ⟨⟨name, raw⟩, among, rfl⟩ := List.mem_map.mp constant
        exact ⟨.constant key name raw, .constant stands among, by simp⟩
    · next array stands =>
      rw [List.mem_singleton.mp told]
      exact ⟨.length array, .length stands, by simp⟩
    · next box stands =>
      rw [List.mem_singleton.mp told]
      exact ⟨.value box, .value stands, by simp⟩
    · cases told
  · rintro ⟨entry, exposes, other⟩
    cases exposes with
    | member => exact absurd rfl (other _)
    | nested stands among =>
      rw [stands]
      exact List.mem_append_left _ (List.mem_map_of_mem among)
    | constant stands among =>
      rw [stands]
      exact List.mem_append_right _ (List.mem_map_of_mem among)
    | length stands | value stands =>
      rw [stands]
      exact List.mem_singleton_self _

/-- The names of a scene: those of its visible slots, then those that its subject has besides. -/
def Scene.names (scene : Scene) : List String :=
  (scene.slots.filter scene.sight.sees).map (·.declaration.scriptName) ++
    otherNames scene.sight.table scene.subject

/-- The names of a scene are those it exposes something under. -/
theorem Scene.mem_names : name ∈ scene.names ↔ ∃ entry, scene.Exposes entry name := by
  rw [names, List.mem_append, mem_otherNames]
  constructor
  · rintro (told | ⟨entry, exposes, -⟩)
    · obtain ⟨slot, visible, rfl⟩ := List.mem_map.mp told
      obtain ⟨among, seen⟩ := List.mem_filter.mp visible
      exact ⟨_, .member among seen⟩
    · exact ⟨entry, exposes⟩
  · rintro ⟨entry, exposes⟩
    by_cases isMember : ∃ slot, entry = .member slot
    · obtain ⟨slot, rfl⟩ := isMember
      cases exposes with
      | member among seen =>
        exact .inl (List.mem_map_of_mem (List.mem_filter.mpr ⟨among, seen⟩))
    · exact .inr ⟨entry, exposes, fun slot same => isMember ⟨slot, same⟩⟩

/-- Where no capability is asked, a proxy tells the names of what it offers, each once. -/
theorem outcome_memberNames_of_plain (leads : world.targetOf proxy = .ok target)
    (plain : world.dynamicBehind? proxy = none) (engine : EngineId) :
    (memberNames engine proxy).outcome world =
      (.ok (sceneIn world engine proxy (subjectIn world.store target)).names.eraseDups, world) := by
  have held : world.Glances (world.holding target.cells) := RunRelation.held world _
  have unasked : (offeredNames proxy target).outcome (world.holding target.cells) =
      (.ok [], world.holding target.cells) :=
    outcome_offer_of_none (held.dynamicBehind?.trans plain) (held.targetOf.trans leads)
  unfold memberNames
  rw [outcome_scope, outcome_bind_of_ok (outcome_target_of_ok leads), outcome_bind_of_ok unasked,
    outcome_bind, outcome_subjectOf, held.targetOf.trans leads]
  rfl

/-! ### Reading by name -/

/-- What a name is answered with in a scene. -/
def readFound (calls : Calls) (engine : EngineId) (scene : Scene) (name : String) :
    ScriptRun Script.Value :=
  match (scene.lookup name).visible with
  | slot :: _ => readSlot calls engine scene slot
  | [] => readOther calls engine scene.proxy scene.subject name

/-- Where no capability is asked, a name is answered with what the proxy offers under it. -/
theorem outcome_getMember_of_plain (leads : world.targetOf proxy = .ok target)
    (plain : world.dynamicBehind? proxy = none) (calls : Calls) (engine : EngineId)
    (name : String) :
    ∃ looked, world.Glances looked ∧
      (getMember calls engine proxy name).outcome world = world.endScope
        ((readFound calls engine (sceneIn world engine proxy (subjectIn world.store target))
          name).outcome looked) := by
  let ready := (world.holding [proxy]).holding target.cells
  have held : world.Glances ready :=
    RunRelation.trans (RunRelation.held world _) (RunRelation.held _ _)
  have looks : (look engine proxy).outcome ready =
      (.ok (sceneIn world engine proxy (subjectIn world.store target)),
        ((look engine proxy).outcome ready).2) := by
    rw [outcome_look, held.targetOf.trans leads]
    rfl
  have glances := look_glances engine proxy ready
  rw [looks] at glances
  have led : (Binding.target proxy).outcome (world.holding [proxy]) = (.ok target, ready) :=
    outcome_target_of_ok leads
  have unasked : (offerGet calls engine proxy target name).outcome ready = (.ok none, ready) :=
    outcome_offer_of_none plain leads
  refine ⟨_, RunRelation.trans held glances, ?_⟩
  unfold getMember getStatic
  rw [outcome_scope, outcome_bind_of_ok (outcome_holdCells _ _), outcome_bind_of_ok led,
    outcome_bind_of_ok unasked]
  dsimp only
  rw [outcome_bind_of_ok looks]
  rfl

theorem outcome_memberNames_of_error {error : ScriptError} (engine : EngineId)
    (lost : world.targetOf proxy = .error error) :
    (memberNames engine proxy).outcome world = (.error (.raised error), world) := by
  unfold memberNames
  rw [outcome_scope, outcome_bind_of_error (outcome_target_of_error lost)]

theorem outcome_getMember_of_error {error : ScriptError} (calls : Calls) (engine : EngineId)
    (lost : world.targetOf proxy = .error error) (name : String) :
    (getMember calls engine proxy name).outcome world = (.error (.raised error), world) := by
  have held : world.Glances (world.holding [proxy]) := RunRelation.held world _
  unfold getMember
  rw [outcome_scope, outcome_bind_of_ok (outcome_holdCells _ _),
    outcome_bind_of_error (outcome_target_of_error (held.targetOf.trans lost))]
  rfl

/-! ### Names that are answered -/

section Answers

variable {entry : Entry}

theorem mem_visible {slot : Slot} : slot ∈ (scene.lookup name).visible ↔
    slot ∈ scene.slots ∧ scene.sight.sees slot = true ∧ slot.declaration.scriptName = name := by
  show slot ∈ List.filter _ _ ↔ _
  rw [List.mem_filter, Bool.and_eq_true, beq_iff_eq]

/-- The first slot that script sees under a name is read. -/
theorem readFound_of_visible {slot : Slot} {rest : List Slot}
    (visible : (scene.lookup name).visible = slot :: rest) :
    readFound calls engine scene name = (Entry.member slot).read calls engine scene := by
  unfold readFound
  rw [visible]
  rfl

theorem exposes_of_findNested? {key type : TypeKey} (stands : scene.subject = .statics (.named key))
    (found : scene.sight.table.findNested? key name = some type) :
    scene.Exposes (.nested type) name := by
  unfold TypeTable.findNested? at found
  have same := List.find?_some found
  simp only [beq_iff_eq] at same
  rw [← same]
  exact .nested stands (List.mem_of_find?_eq_some found)

theorem exposes_of_constant? {key : TypeKey} {raw : Int}
    (stands : scene.subject = .statics (.named key))
    (found : (scene.sight.table.type key).constant? name = some raw) :
    scene.Exposes (.constant key name raw) name := by
  obtain ⟨⟨told, value⟩, first, rfl⟩ := Option.map_eq_some_iff.mp found
  have same := List.find?_some first
  simp only [beq_iff_eq] at same
  rw [← same]
  exact .constant stands (List.mem_of_find?_eq_some first)

theorem readFound_of_unseen (unseen : (scene.lookup name).visible = []) :
    readFound calls engine scene name =
      readOther calls engine scene.proxy scene.subject name := by
  unfold readFound
  rw [unseen]

/-- Where script sees no slot under a name, what the subject has besides under that name is read. -/
theorem exists_read_of_unseen (calls : Calls) (engine : EngineId)
    (types : looked.store.types = scene.sight.table)
    (unseen : (scene.lookup name).visible = []) (exposes : scene.Exposes entry name) :
    ∃ other, scene.Exposes other name ∧ (readFound calls engine scene name).outcome looked =
      (other.read calls engine scene).outcome looked := by
  rw [readFound_of_unseen unseen]
  unfold readOther
  rw [outcome_bind_of_ok (outcome_readStore _ _)]
  cases exposes with
  | member among seen =>
    have visible := mem_visible.mpr ⟨among, seen, rfl⟩
    rw [unseen] at visible
    cases visible
  | nested stands among =>
    rw [stands]
    dsimp only [id]
    rw [types]
    rcases found : scene.sight.table.findNested? _ _ with _ | type
    · have named := List.find?_eq_none.mp found _ among
      exact absurd (beq_self_eq_true _) named
    · exact ⟨.nested type, exposes_of_findNested? stands found, rfl⟩
  | constant stands among =>
    rw [stands]
    dsimp only [id]
    rw [types]
    rcases found : scene.sight.table.findNested? _ _ with _ | type
    · rcases constant : (scene.sight.table.type _).constant? _ with _ | raw
      · have named := List.find?_eq_none.mp (Option.map_eq_none_iff.mp constant) _ among
        exact absurd (beq_self_eq_true _) named
      · exact ⟨_, exposes_of_constant? stands constant, rfl⟩
    · exact ⟨.nested type, exposes_of_findNested? stands found, rfl⟩
  | length stands =>
    rw [stands]
    exact ⟨_, .length stands, rfl⟩
  | value stands =>
    rw [stands]
    exact ⟨_, .value stands, rfl⟩

/-- A name that something is exposed under is answered with something exposed under it. -/
theorem exists_read_of_exposes (calls : Calls) (engine : EngineId)
    (types : looked.store.types = scene.sight.table)
    (exposes : scene.Exposes entry name) :
    ∃ other, scene.Exposes other name ∧ (readFound calls engine scene name).outcome looked =
      (other.read calls engine scene).outcome looked := by
  cases visible : (scene.lookup name).visible with
  | nil => exact exists_read_of_unseen calls engine types visible exposes
  | cons slot rest =>
    obtain ⟨among, seen, rfl⟩ := mem_visible.mp (visible ▸ List.mem_cons_self)
    exact ⟨.member slot, .member among seen, by rw [readFound_of_visible visible]⟩

/-- What is answered to any name: a method for texts to theirs, undefined to others. -/
def answerAny (proxy : CellId) (name : String) : ScriptRun Script.Value :=
  if name == toStringName then bound proxy name .method else return .undefined

/-- A second spelling of a name. -/
def respelled? (name : String) : Option String :=
  if name = "Length" then some "length" else if name = "Value" then some "value" else none

/-- A name that nothing is exposed under is answered as the second spelling of one that something is
exposed under, or else as any name is. -/
theorem read_of_unexposed (calls : Calls) (engine : EngineId)
    (types : looked.store.types = scene.sight.table)
    (unexposed : ∀ entry, ¬scene.Exposes entry name) :
    (∃ told entry, respelled? name = some told ∧ scene.Exposes entry told ∧
        (readFound calls engine scene name).outcome looked =
          (entry.read calls engine scene).outcome looked) ∨
      (readFound calls engine scene name).outcome looked =
        (answerAny scene.proxy name).outcome looked := by
  have unseen : (scene.lookup name).visible = [] := by
    refine List.eq_nil_iff_forall_not_mem.mpr fun slot visible => ?_
    obtain ⟨among, seen, rfl⟩ := mem_visible.mp visible
    exact unexposed _ (.member among seen)
  rw [readFound_of_unseen unseen]
  unfold readOther
  rw [outcome_bind_of_ok (outcome_readStore _ _)]
  dsimp only [id]
  split
  · next key stands =>
    right
    rw [types]
    rcases found : scene.sight.table.findNested? key name with _ | type
    · rcases constant : (scene.sight.table.type key).constant? name with _ | raw
      · rfl
      · exact absurd (exposes_of_constant? stands constant) (unexposed _)
    · exact absurd (exposes_of_findNested? stands found) (unexposed _)
  · next array stands =>
    by_cases spelled : isLengthName name = true
    · left
      rw [if_pos spelled]
      obtain same | other := (Bool.or_eq_true _ _).mp spelled
      · obtain rfl := beq_iff_eq.mp same
        exact absurd (.length stands) (unexposed _)
      · obtain rfl := beq_iff_eq.mp other
        exact ⟨"length", .length array, rfl, .length stands, rfl⟩
    · right
      rw [if_neg spelled]
      rfl
  · next box stands =>
    by_cases spelled : isValueName name = true
    · left
      rw [if_pos spelled]
      obtain same | other := (Bool.or_eq_true _ _).mp spelled
      · obtain rfl := beq_iff_eq.mp same
        exact absurd (.value stands) (unexposed _)
      · obtain rfl := beq_iff_eq.mp other
        exact ⟨"value", .value box, rfl, .value stands, rfl⟩
    · right
      rw [if_neg spelled]
      rfl
  · exact .inr rfl

end Answers

end Binding

/-! ### Globals -/

/-- A global that no item has a name of its own for is looked for among the names that the items
tell, and read from the first one that exposes something under it. -/
theorem Script.outcome_findGlobalMember (calls : Calls) (engine : EngineId) (name : String)
    {targets : CellId → Host.Value} {proxies : List CellId}
    (leads : ∀ proxy ∈ proxies, world.targetOf proxy = .ok (targets proxy))
    (plain : ∀ proxy ∈ proxies, world.dynamicBehind? proxy = none) :
    (findGlobalMember calls engine name proxies).outcome world =
      match proxies.find? fun proxy =>
        (sceneIn world engine proxy (subjectIn world.store (targets proxy))).names.contains name with
      | some proxy =>
        (do return some (← getMember calls engine proxy name) : ScriptRun _).outcome world
      | none => (.ok none, world) := by
  induction proxies with
  | nil => rfl
  | cons proxy rest inductionHypothesis =>
    have told := outcome_memberNames_of_plain (leads proxy List.mem_cons_self)
      (plain proxy List.mem_cons_self) engine
    unfold findGlobalMember
    rw [outcome_bind_of_ok told, List.find?_cons]
    by_cases exposed : (sceneIn world engine proxy
        (subjectIn world.store (targets proxy))).names.contains name = true
    · have among : List.contains _ name = true :=
        List.contains_iff_mem.mpr (List.mem_eraseDups.mpr (List.contains_iff_mem.mp exposed))
      rw [if_pos among, exposed]
    · have missing : ¬List.contains _ name = true := fun among =>
        exposed (List.contains_iff_mem.mpr (List.mem_eraseDups.mp (List.contains_iff_mem.mp among)))
      rw [if_neg missing, Bool.eq_false_iff.mpr exposed]
      exact inductionHypothesis (fun other member => leads other (List.mem_cons_of_mem _ member))
        fun other member => plain other (List.mem_cons_of_mem _ member)

/-! ### Names and answers -/

/-- A proxy that no capability stands behind tells, each once, the names that it exposes something
under, whatever the policy is. Each of them is answered with what is exposed under it, and what is
hidden or renamed is told by its name only if that is the name of something else. A name that is not
told is answered only as a second spelling of one that is, or as any name is. -/
theorem names_agree_with_answers (calls : Calls) (engine : EngineId) {world : World}
    {proxy : CellId} (plain : world.dynamicBehind? proxy = none) :
    (∀ error, world.targetOf proxy = .error error →
      (memberNames engine proxy).outcome world = (.error (.raised error), world) ∧
        ∀ name, (getMember calls engine proxy name).outcome world =
          (.error (.raised error), world)) ∧
    ∀ target, world.targetOf proxy = .ok target → ∃ names,
      (memberNames engine proxy).outcome world = (.ok names, world) ∧ names.Nodup ∧
      let scene := sceneIn world engine proxy (subjectIn world.store target)
      (∀ name, name ∈ names ↔ ∃ entry, scene.Exposes entry name) ∧
      (∀ name ∈ names, ∃ entry looked, scene.Exposes entry name ∧ world.Glances looked ∧
        (getMember calls engine proxy name).outcome world =
          world.endScope ((entry.read calls engine scene).outcome looked)) ∧
      (∀ slot ∈ scene.slots, ∀ name ∈ names,
        ¬(scene.sight.sees slot = true ∧ slot.declaration.scriptName = name) →
          ∃ entry, scene.Exposes entry name ∧ entry ≠ .member slot) ∧
      ∀ name, name ∉ names → ∃ looked, world.Glances looked ∧
        ((∃ told ∈ names, ∃ entry, respelled? name = some told ∧ scene.Exposes entry told ∧
          (getMember calls engine proxy name).outcome world =
            world.endScope ((entry.read calls engine scene).outcome looked)) ∨
        (getMember calls engine proxy name).outcome world =
          world.endScope ((answerAny proxy name).outcome looked)) := by
  refine ⟨fun error lost => ⟨outcome_memberNames_of_error engine lost,
    outcome_getMember_of_error calls engine lost⟩, fun target leads => ?_⟩
  refine ⟨_, outcome_memberNames_of_plain leads plain engine, nodup_eraseDups _, ?_⟩
  intro scene
  have told (name : String) : name ∈ scene.names.eraseDups ↔ ∃ entry, scene.Exposes entry name := by
    rw [List.mem_eraseDups, Scene.mem_names]
  have types {looked : World} (glances : world.Glances looked) :
      looked.store.types = scene.sight.table := by
    rw [glances.store]
    rfl
  refine ⟨told, fun name among => ?_, fun slot _ name among other => ?_, fun name missing => ?_⟩
  · obtain ⟨looked, glances, answered⟩ := outcome_getMember_of_plain leads plain calls engine name
    obtain ⟨entry, exposes⟩ := (told name).mp among
    obtain ⟨entry, exposes, read⟩ := exists_read_of_exposes calls engine (types glances) exposes
    exact ⟨entry, looked, exposes, glances, read ▸ answered⟩
  · obtain ⟨entry, exposes⟩ := (told name).mp among
    refine ⟨entry, exposes, ?_⟩
    rintro rfl
    cases exposes with
    | member _ seen => exact other ⟨seen, rfl⟩
  · obtain ⟨looked, glances, answered⟩ := outcome_getMember_of_plain leads plain calls engine name
    have unexposed (entry : Entry) : ¬scene.Exposes entry name :=
      fun exposes => missing ((told name).mpr ⟨entry, exposes⟩)
    refine ⟨looked, glances, ?_⟩
    rcases read_of_unexposed calls engine (types glances) unexposed with
      ⟨spelled, entry, respells, exposes, read⟩ | read
    · exact .inl ⟨spelled, (told spelled).mpr ⟨entry, exposes⟩, entry, respells, exposes,
        read ▸ answered⟩
    · exact .inr (read ▸ answered)

/-! ### A constant with the name of a hidden method -/

/-- A static method that script does not see, with the name of a constant. -/
def Host.Member.hiddenRed : Member where
  declaring := 0
  declaringAccess := none
  name := "Red"
  kind := .method
  isStatic := true
  isPrivate := false
  parameters := []
  type := .string
  access := some .hidden
  rename := none
  implementation := .invoke (.code none [.answer (.literal (.constant (.string "red")))])

/-- A proxy of an enumeration with one constant and one nested type. -/
def World.withColors : World where
  store := {
    types := ⟨#[{ name := "Color", kind := .enumeration .int32 false,
                  members := [.hiddenRed], nested := [1], constants := [("Red", 0)] },
      { name := "Shade", kind := .reference }]⟩
    cells := #[some (.proxy ⟨0, .type (.named 0), none, .none⟩)] }
  engines := #[Engine.new "main" {} none]

/-- The nested type and the constant are told, and the method does not make a second name of the
constant's: it is something else that has the name. -/
theorem names_agree_with_answers_of_color :
    let scene := sceneIn .withColors 0 0 (.statics (.named 0))
    World.withColors.dynamicBehind? 0 = none ∧
      World.withColors.targetOf 0 = .ok (.type (.named 0)) ∧
      (memberNames 0 0).outcome World.withColors = (.ok ["Shade", "Red"], .withColors) ∧
      .plain .hiddenRed ∈ scene.slots ∧
      ∃ entry, scene.Exposes entry "Red" ∧ entry ≠ .member (.plain .hiddenRed) := by
  intro scene
  have plain : World.withColors.dynamicBehind? 0 = none := rfl
  have leads : World.withColors.targetOf 0 = .ok (.type (.named 0)) := rfl
  have root : scene.sight.table.chain 0 = [0] := by
    rw [TypeTable.chain_eq]
    rfl
  have slots : scene.slots = [.plain .hiddenRed] := by
    show collectSlots scene.sight.table (scene.sight.table.chain 0) _ = _
    rw [root]
    rfl
  have among : Slot.plain .hiddenRed ∈ scene.slots := slots ▸ List.mem_cons_self
  obtain ⟨names, told, -, exposed, -, others, -⟩ :=
    (names_agree_with_answers (Script.startWithin 1) 0 plain).2 _ leads
  have named : (memberNames 0 0).outcome World.withColors = (.ok ["Shade", "Red"], .withColors) := by
    have names : scene.names = ["Shade", "Red"] := by
      rw [Scene.names, slots]
      rfl
    have distinct : (["Shade", "Red"] : List String).eraseDups = ["Shade", "Red"] := by decide
    rw [outcome_memberNames_of_plain leads plain, ← distinct, ← names]
    rfl
  obtain rfl : ["Shade", "Red"] = names :=
    Except.ok.inj (Prod.mk.inj (named.symm.trans told)).1
  refine ⟨plain, leads, named, among, ?_⟩
  exact others _ among "Red" (by simp) fun shown => by cases shown.1

end ScriptBridge
