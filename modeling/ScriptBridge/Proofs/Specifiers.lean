/-
This file proves that module specifiers have one form. A specifier is followed
segment by segment: a name leads down, a double dot up where there is something
above, and nothing else leads anywhere. What the documents of modules go by came
about in this way, from nothing at first; so a directory that a relative specifier
starts from holds names only, and two spellings that lead to the same place are one
module to the engine.
-/

import ScriptBridge.Proofs.ModuleRuns
import ScriptBridge.Proofs.Texts

namespace ScriptBridge

namespace Specifier

/-! ### Following segments -/

/-- A segment that names something: it is not empty and no dot segment, and no slash is in it. -/
structure IsName (segment : List Char) : Prop where
  ne_nil : segment ≠ []
  ne_dot : segment ≠ ['.']
  ne_dots : segment ≠ ['.', '.']
  free : '/' ∉ segment

/-- Following a segment leads from one place to another; a place is given by the names on the way
to it from the root. -/
inductive Follows : List (List Char) → List Char → List (List Char) → Prop
  | empty (path) : Follows path [] path
  | dot (path) : Follows path ['.'] path
  | up (path last) : Follows (path ++ [last]) ['.', '.'] path
  | root : Follows [] ['.', '.'] []
  | down (path) {segment} : IsName segment → Follows path segment (path ++ [segment])

/-- Following segments one after the other leads from one place to another. -/
inductive Walks : List (List Char) → List (List Char) → List (List Char) → Prop
  | stop (path) : Walks path [] path
  | next {path segment between rest reached} :
    Follows path segment between → Walks between rest reached → Walks path (segment :: rest) reached

variable {path other : List (List Char)}

/-- Folding in a segment follows it. -/
theorem follows_fold {segment : List Char} (path : List (List Char)) (free : '/' ∉ segment) :
    Follows path segment (fold path segment) := by
  unfold fold
  by_cases stays : (segment == [] || segment == ['.']) = true
  · rw [if_pos stays]
    rcases (Bool.or_eq_true _ _).mp stays with empty | dot
    · rw [beq_iff_eq.mp empty]
      exact .empty path
    · rw [beq_iff_eq.mp dot]
      exact .dot path
  · rw [if_neg stays]
    rw [Bool.or_eq_true, not_or, beq_iff_eq, beq_iff_eq] at stays
    by_cases dots : segment = ['.', '.']
    · rw [dots, if_pos (beq_self_eq_true _)]
      rcases List.eq_nil_or_concat path with rfl | ⟨before, last, rfl⟩
      · exact .root
      · rw [List.concat_eq_append, List.dropLast_concat]
        exact .up before last
    · rw [if_neg fun same => dots (beq_iff_eq.mp same)]
      exact .down path ⟨stays.1, stays.2, dots, free⟩

/-- Folding in segments walks along them. -/
theorem walks_foldl {parts : List (List Char)} (path : List (List Char))
    (free : ∀ part ∈ parts, '/' ∉ part) : Walks path parts (parts.foldl fold path) := by
  induction parts generalizing path with
  | nil => exact .stop path
  | cons part rest inductionHypothesis =>
    exact .next (follows_fold path (free part List.mem_cons_self))
      (inductionHypothesis _ fun part member => free part (List.mem_cons_of_mem _ member))

/-- A segment leads only to where folding it in does. -/
theorem Follows.fold_eq {segment : List Char} (follows : Follows path segment other) :
    fold path segment = other := by
  cases follows with
  | empty => rfl
  | dot => rfl
  | up _ last => exact List.dropLast_concat
  | root => rfl
  | down _ name => simp [fold, name.ne_nil, name.ne_dot, name.ne_dots]

/-- Segments lead only to where folding them in does. -/
theorem Walks.foldl_eq {parts : List (List Char)} (walks : Walks path parts other) :
    parts.foldl fold path = other := by
  induction walks with
  | stop => rfl
  | next follows _ inductionHypothesis =>
    rw [List.foldl_cons, follows.fold_eq, inductionHypothesis]

/-- Only names are on the way to where a segment leads. -/
theorem Follows.names {segment : List Char} (follows : Follows path segment other)
    (names : ∀ name ∈ path, IsName name) : ∀ name ∈ other, IsName name := by
  cases follows with
  | empty => exact names
  | dot => exact names
  | up _ last => exact fun name member => names name (List.mem_append_left _ member)
  | root => exact names
  | down _ named =>
    intro name member
    rcases List.mem_append.mp member with earlier | last
    · exact names name earlier
    · rw [List.mem_singleton.mp last]
      exact named

/-- Only names are on the way to where segments lead. -/
theorem Walks.names {parts : List (List Char)} (walks : Walks path parts other)
    (names : ∀ name ∈ path, IsName name) : ∀ name ∈ other, IsName name := by
  induction walks with
  | stop => exact names
  | next follows _ inductionHypothesis => exact inductionHypothesis (follows.names names)

/-! ### Places and their texts -/

/-- The text of a place. -/
def joined (path : List (List Char)) : String := String.ofList (['/'].intercalate path)

/-- The segments of a text; an empty one has none. -/
def segmentsOf (specifier : String) : List (List Char) :=
  if specifier = "" then [] else Text.pieces '/' specifier.toList

/-- A specifier in canonical form: its segments are names. -/
def IsCanonical (specifier : String) : Prop := ∀ segment ∈ segmentsOf specifier, IsName segment

theorem toList_joined (path : List (List Char)) : (joined path).toList = ['/'].intercalate path :=
  String.toList_ofList

/-- The names on the way to a place are the segments of its text. -/
theorem segmentsOf_joined (names : ∀ name ∈ path, IsName name) : segmentsOf (joined path) = path := by
  rcases path with _ | ⟨first, rest⟩
  · rfl
  · have pieces : Text.pieces '/' (joined (first :: rest)).toList = first :: rest := by
      rw [toList_joined]
      exact Text.pieces_intercalate (List.cons_ne_nil _ _) fun part member => (names part member).free
    have some : joined (first :: rest) ≠ "" := by
      intro empty
      rw [empty] at pieces
      have none : first = [] := (List.cons.inj pieces).1.symm
      exact (names first List.mem_cons_self).ne_nil none
    rw [segmentsOf, if_neg some, pieces]

theorem isCanonical_joined (names : ∀ name ∈ path, IsName name) : IsCanonical (joined path) := by
  rw [IsCanonical, segmentsOf_joined names]
  exact names

/-- Different places have different texts. -/
theorem joined_inj (names : ∀ name ∈ path, IsName name) (others : ∀ name ∈ other, IsName name) :
    joined path = joined other ↔ path = other := by
  refine ⟨fun same => ?_, congrArg joined⟩
  rw [← segmentsOf_joined names, same, segmentsOf_joined others]

/-! ### Where specifiers lead -/

/-- A relative specifier has a dot segment first. -/
theorem exists_pieces_of_isRelative {text : List Char} (relative : isRelative text = true) :
    ∃ segment rest, Text.pieces '/' text = segment :: rest ∧ ¬IsName segment := by
  simp only [isRelative, Bool.or_eq_true, List.isPrefixOf_iff_prefix] at relative
  rcases relative with ⟨rest, rfl⟩ | ⟨rest, rfl⟩
  · exact ⟨['.'], Text.pieces '/' rest, rfl, fun name => name.ne_dot rfl⟩
  · exact ⟨['.', '.'], Text.pieces '/' rest, rfl, fun name => name.ne_dots rfl⟩

/-- The place that a specifier leads from: the directory of the document where it is met if it is
relative, the root otherwise. -/
def startOf (specifier : String) (referrer : Option String) : List (List Char) :=
  if isRelative specifier.toList then directory (referrer.map String.toList) else []

/-- A specifier, met in a document, leads to a place. -/
def Leads (specifier : String) (referrer : Option String) (path : List (List Char)) : Prop :=
  Walks (startOf specifier referrer) (Text.pieces '/' specifier.toList) path

/-- The names of directories are names. -/
def HasDirectory (referrer : Option String) : Prop :=
  ∀ segment ∈ directory (referrer.map String.toList), IsName segment

variable {specifier : String} {referrer : Option String}

theorem startOf_of_not_relative (absolute : isRelative specifier.toList = false)
    (referrer : Option String) : startOf specifier referrer = [] := by
  simp [startOf, absolute]

theorem HasDirectory.names (has : HasDirectory referrer) (leads : Leads specifier referrer path) :
    ∀ name ∈ path, IsName name := by
  refine leads.names ?_
  unfold startOf
  split
  · exact has
  · exact fun _ member => absurd member List.not_mem_nil

/-- The one form of a specifier is the text of the place that it leads to. -/
theorem HasDirectory.exists_leads (has : HasDirectory referrer) (specifier : String) :
    ∃ path, Leads specifier referrer path ∧ normalize specifier referrer = joined path := by
  have leads : Leads specifier referrer _ :=
    walks_foldl (startOf specifier referrer) fun _ => Text.not_mem_of_mem_pieces
  refine ⟨_, leads, congrArg joined (List.filter_eq_self.mpr fun name member => ?_)⟩
  exact bne_iff_ne.mpr (has.names leads name member).ne_nil

theorem HasDirectory.normalize_eq (has : HasDirectory referrer)
    (leads : Leads specifier referrer path) : normalize specifier referrer = joined path := by
  obtain ⟨reached, walks, same⟩ := has.exists_leads specifier
  rw [same, ← walks.foldl_eq, leads.foldl_eq]

theorem HasDirectory.isCanonical (has : HasDirectory referrer) (specifier : String) :
    IsCanonical (normalize specifier referrer) := by
  obtain ⟨path, leads, same⟩ := has.exists_leads specifier
  rw [same]
  exact isCanonical_joined (has.names leads)

/-- A specifier that is not relative leads to the same place wherever it is met. -/
theorem normalize_of_not_relative (absolute : isRelative specifier.toList = false)
    (referrer elsewhere : Option String) :
    normalize specifier referrer = normalize specifier elsewhere := by
  simp [normalize, segments, absolute]

/-- A specifier in canonical form is not relative. -/
theorem IsCanonical.not_isRelative (canonical : IsCanonical specifier) :
    isRelative specifier.toList = false := by
  by_contra relative
  obtain ⟨segment, rest, parted, unnamed⟩ :=
    exists_pieces_of_isRelative (Bool.not_eq_false _ ▸ relative)
  by_cases empty : specifier = ""
  · rw [empty] at relative
    exact relative rfl
  · rw [IsCanonical, segmentsOf, if_neg empty, parted] at canonical
    exact unnamed (canonical segment List.mem_cons_self)

theorem walks_names {parts : List (List Char)} (path : List (List Char))
    (names : ∀ name ∈ parts, IsName name) : Walks path parts (path ++ parts) := by
  induction parts generalizing path with
  | nil =>
    rw [List.append_nil]
    exact .stop path
  | cons part rest inductionHypothesis =>
    have further := inductionHypothesis (path ++ [part])
      fun name member => names name (List.mem_cons_of_mem _ member)
    rw [List.append_assoc, List.singleton_append] at further
    exact .next (.down path (names part List.mem_cons_self)) further

/-- A specifier in canonical form is its own one form, wherever it is met. -/
theorem IsCanonical.normalize_eq (canonical : IsCanonical specifier) (referrer : Option String) :
    normalize specifier referrer = specifier := by
  have absolute := canonical.not_isRelative
  rw [normalize_of_not_relative absolute referrer none]
  have has : HasDirectory none := fun _ member => absurd member List.not_mem_nil
  by_cases empty : specifier = ""
  · rw [empty]
    rfl
  · rw [IsCanonical, segmentsOf, if_neg empty] at canonical
    have leads : Leads specifier none (Text.pieces '/' specifier.toList) := by
      rw [Leads, startOf_of_not_relative absolute]
      exact walks_names [] canonical
    rw [has.normalize_eq leads, joined, Text.intercalate_pieces, String.ofList_toList]

/-- The directory of a document in canonical form has names only. -/
theorem IsCanonical.hasDirectory (canonical : IsCanonical specifier) :
    HasDirectory (some specifier) := by
  intro segment member
  by_cases empty : specifier = ""
  · rw [empty] at member
    exact absurd member List.not_mem_nil
  · rw [IsCanonical, segmentsOf, if_neg empty] at canonical
    exact canonical segment (List.mem_of_mem_dropLast member)

/-! ### Where documents are met -/

/-- What a specifier is met in: nothing, as where the host gives it, or a document that goes by the
one form of a specifier that was met itself. -/
inductive IsMet : Option String → Prop
  | nowhere : IsMet none
  | within (spelled : String) {origin : Option String} :
    IsMet origin → IsMet (some (normalize spelled origin))

/-- The directories of what specifiers are met in have names only. -/
theorem IsMet.hasDirectory (met : IsMet referrer) : HasDirectory referrer := by
  induction met with
  | nowhere => exact fun _ member => absurd member List.not_mem_nil
  | within specifier _ inductionHypothesis =>
    exact (inductionHypothesis.isCanonical specifier).hasDirectory

end Specifier

/-! ### Modules by specifiers -/

/-- The engine loads nothing, or leaves the form of specifiers as it is. -/
def Engine.KeepsForms (state : Engine) : Prop :=
  ∀ loader, state.loader = some loader → ∀ specifier referrer,
    loader.normalize specifier referrer = .ok (Specifier.normalize specifier referrer)

namespace ModuleRequest

/-- The specifier of a request, as it is spelled. -/
def spelling : ModuleRequest → String
  | importing specifier _ => specifier
  | evaluating specifier _ => specifier

/-- Where the specifier of a request is met. -/
def origin : ModuleRequest → Option String
  | importing _ referrer => referrer
  | evaluating _ _ => none

/-- What a request finds is recorded under the one form of its specifier. -/
theorem find_eq_ok {state : Engine} (keeps : state.KeepsForms) {request : ModuleRequest}
    {specifier : String} {source : Except ScriptError String}
    (found : request.find state = .ok (specifier, source)) :
    specifier = Specifier.normalize request.spelling request.origin := by
  cases request with
  | importing spelled referrer =>
    rcases configured : state.loader with _ | loader
    · simp [find, configured] at found
    · simp only [find, configured, keeps loader configured, Except.map] at found
      exact (Prod.mk.inj (Except.ok.inj found)).1.symm
  | evaluating spelled text =>
    have form : state.normalize spelled = .ok (Specifier.normalize spelled none) := by
      unfold Engine.normalize
      rcases configured : state.loader with _ | loader
      · rfl
      · exact keeps loader configured spelled none
    simp only [find, form, Except.map] at found
    exact (Prod.mk.inj (Except.ok.inj found)).1.symm

/-- The place that the specifier of a request leads to. -/
def LeadsTo (request : ModuleRequest) (path : List (List Char)) : Prop :=
  Specifier.Leads request.spelling request.origin path

/-- Two requests find one record if their specifiers lead to one place, and only then. -/
theorem find_eq_iff_leadsTo {state : Engine} (keeps : state.KeepsForms)
    {first second : ModuleRequest} (firstMet : Specifier.IsMet first.origin)
    (secondMet : Specifier.IsMet second.origin) {one two : String}
    {source text : Except ScriptError String} (finds : first.find state = .ok (one, source))
    (other : second.find state = .ok (two, text)) :
    one = two ↔ ∃ path, first.LeadsTo path ∧ second.LeadsTo path := by
  obtain ⟨path, leads, form⟩ := firstMet.hasDirectory.exists_leads first.spelling
  obtain ⟨place, goes, shape⟩ := secondMet.hasDirectory.exists_leads second.spelling
  rw [find_eq_ok keeps finds, find_eq_ok keeps other, form, shape, Specifier.joined_inj
    (firstMet.hasDirectory.names leads) (secondMet.hasDirectory.names goes)]
  constructor
  · rintro rfl
    exact ⟨path, leads, goes⟩
  · rintro ⟨reached, alike, too⟩
    rw [← leads.foldl_eq, alike.foldl_eq, ← too.foldl_eq, goes.foldl_eq]

end ModuleRequest

/-- Importing a module only depends on the one form of its specifier. -/
theorem Script.outcome_importModule_of_normalize_eq {world : World} {engine : EngineId}
    (keeps : (world.engine engine).KeepsForms) (calls : Calls) {specifier other : String}
    {referrer elsewhere : Option String}
    (same : Specifier.normalize specifier referrer = Specifier.normalize other elsewhere) :
    (importModule calls engine specifier referrer).outcome world =
      (importModule calls engine other elsewhere).outcome world := by
  have alike : (ModuleRequest.importing specifier referrer).find (world.engine engine) =
      (ModuleRequest.importing other elsewhere).find (world.engine engine) := by
    unfold ModuleRequest.find
    rcases configured : (world.engine engine).loader with _ | loader
    · rfl
    · dsimp only
      rw [keeps loader configured, keeps loader configured, same]
  show ((ModuleRequest.importing specifier referrer).run calls engine).outcome world =
    ((ModuleRequest.importing other elsewhere).run calls engine).outcome world
  rw [ModuleRequest.outcome_run, ModuleRequest.outcome_run, alike]

/-! ### One form -/

namespace Specifier

/-- Wherever documents are met, a specifier has one form, whose segments are names: bringing that to
its form again changes nothing, wherever it is met. A relative specifier leads along its segments
from the directory of the document, any other leads to the same place everywhere; and what is
spelled in two ways that lead to one place, and only that, is one module to an engine that keeps
forms, whose document is again one that specifiers are met in. -/
theorem one_form {referrer : Option String} (met : IsMet referrer) :
    (∀ specifier, IsCanonical (normalize specifier referrer) ∧
      (∀ elsewhere, normalize (normalize specifier referrer) elsewhere =
        normalize specifier referrer) ∧
      (isRelative specifier.toList = true →
        ∃ path, Walks (directory (referrer.map String.toList)) (Text.pieces '/' specifier.toList)
          path ∧ normalize specifier referrer = joined path) ∧
      (isRelative specifier.toList = false → ∀ elsewhere,
        normalize specifier elsewhere = normalize specifier referrer)) ∧
    ∀ specifier path, Leads specifier referrer path →
      (∀ state : Engine, state.KeepsForms → ∀ asked wanted : ModuleRequest,
        asked.spelling = specifier → asked.origin = referrer → IsMet wanted.origin →
        ∀ found source other text, asked.find state = .ok (found, source) →
          wanted.find state = .ok (other, text) →
          IsMet (some found) ∧ (found = other ↔ wanted.LeadsTo path)) ∧
      ∀ (world : World) (engine : EngineId), (world.engine engine).KeepsForms →
        ∀ calls other elsewhere, IsMet elsewhere → Leads other elsewhere path →
          (Script.importModule calls engine specifier referrer).outcome world =
            (Script.importModule calls engine other elsewhere).outcome world := by
  refine ⟨fun specifier => ⟨?_, fun elsewhere => ?_, fun relative => ?_, fun absolute elsewhere =>
    ?_⟩, fun specifier path leads => ⟨?_, ?_⟩⟩
  · exact met.hasDirectory.isCanonical specifier
  · exact (met.hasDirectory.isCanonical specifier).normalize_eq elsewhere
  · obtain ⟨path, leads, form⟩ := met.hasDirectory.exists_leads specifier
    rw [Leads, startOf, if_pos relative] at leads
    exact ⟨path, leads, form⟩
  · exact normalize_of_not_relative absolute elsewhere referrer
  · rintro state keeps asked wanted rfl rfl wantedMet found source other text finds sought
    refine ⟨ModuleRequest.find_eq_ok keeps finds ▸ .within _ met, ?_⟩
    rw [ModuleRequest.find_eq_iff_leadsTo keeps met wantedMet finds sought]
    constructor
    · rintro ⟨place, goes, too⟩
      rwa [← leads.foldl_eq, goes.foldl_eq]
    · exact fun too => ⟨path, leads, too⟩
  · intro world engine keeps calls other elsewhere otherMet goes
    refine Script.outcome_importModule_of_normalize_eq keeps calls ?_
    rw [met.hasDirectory.normalize_eq leads, otherMet.hasDirectory.normalize_eq goes]

/-- A module two directories deep imports from one up what the host imports from one down. -/
theorem one_form_util :
    IsMet (some (normalize "lib//sub/./main.js" none)) ∧
      normalize "lib//sub/./main.js" none = "lib/sub/main.js" ∧
      normalize "../util.js" (some "lib/sub/main.js") = "lib/util.js" ∧
      normalize "lib/util.js" (some "other/main.js") = "lib/util.js" ∧
      (Script.importModule .exhausted 0 "../util.js" (some "lib/sub/main.js")).outcome
          { engines := #[.new "main" {} (some (.inMemory [("lib/util.js", "1")]))] } =
        (Script.importModule .exhausted 0 "./lib/util.js" none).outcome
          { engines := #[.new "main" {} (some (.inMemory [("lib/util.js", "1")]))] } := by
  have origin : normalize "lib//sub/./main.js" none = "lib/sub/main.js" := by rfl
  have met : IsMet (some (normalize "lib//sub/./main.js" none)) := .within _ .nowhere
  have form : normalize "../util.js" (some "lib/sub/main.js") = "lib/util.js" := by rfl
  have leads : Leads "../util.js" (some "lib/sub/main.js") ["lib".toList, "util.js".toList] :=
    walks_foldl _ fun _ => Text.not_mem_of_mem_pieces
  have goes : Leads "./lib/util.js" none ["lib".toList, "util.js".toList] :=
    walks_foldl _ fun _ => Text.not_mem_of_mem_pieces
  refine ⟨met, origin, form, ?_, ?_⟩
  · have again := ((one_form met).1 "../util.js").2.1 (some "other/main.js")
    rwa [origin, form] at again
  · refine ((one_form (origin ▸ met)).2 "../util.js" _ leads).2 _ 0 ?_ .exhausted _ _ .nowhere goes
    rintro loader ⟨⟩ specifier referrer
    rfl

/-- A document that goes by a double dot hands it on, also where that is what a specifier was brought
to in another such document; brought to its form again, the specifier is another one. -/
theorem dots_stay : normalize "./x" (some "../b") = "../x" ∧
    normalize "./y" (some "../x") = "../y" ∧ ¬IsCanonical "../y" ∧
    normalize "../y" none = "y" := by
  refine ⟨by rfl, by rfl, fun canonical => ?_, by rfl⟩
  exact (canonical ['.', '.'] (by decide)).ne_dots rfl

end Specifier

end ScriptBridge
