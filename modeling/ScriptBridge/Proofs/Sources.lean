/-
This file says which texts are sources. Apart from texts that code is registered for,
a text means something if it is a word, a numeral, a text in quotes or a path, and
then what that stands for; every other text is a syntax error. No text is two of
these, since what numerals, quotes and identifiers begin with are different things,
except that words are identifiers. What is in quotes is anything at all: the quote
that begins a text may occur again before it ends.
-/

import ScriptBridge.Engine.Source
import ScriptBridge.Proofs.Numerals

namespace ScriptBridge.Source

open Number

/-! ### The grammar -/

/-- A text with the form of an identifier. -/
inductive IsIdentifier : List Char → Prop
  | intro {first : Char} {rest : List Char} (start : Text.isIdentifierStart first = true)
      (others : ∀ c ∈ rest, Text.isIdentifierRest c = true) : IsIdentifier (first :: rest)

/-- Characters that numerals are spelled with. -/
def IsNumeralCharacter (c : Char) : Prop := c.isDigit = true ∨ c ∈ ['.', '-', '+', 'e', 'E']

instance (c : Char) : Decidable (IsNumeralCharacter c) := inferInstanceAs (Decidable (_ ∨ _))

/-- The words, and what they stand for. -/
inductive IsWord : List Char → Script.Value → Prop
  | true : IsWord "true".toList (.bool true)
  | false : IsWord "false".toList (.bool false)
  | null : IsWord "null".toList .null
  | undefined : IsWord "undefined".toList .undefined

/-- Is the character a quote? -/
def IsQuote (quote : Char) : Prop := quote = '"' ∨ quote = '\''

/-- What texts mean, if these are the texts that can be put in quotes. -/
inductive Means (quotable : Char → List Char → Prop) : List Char → Compiled → Prop
  | word {text : List Char} {value : Script.Value} (isWord : IsWord text value) :
      Means quotable text (.literal value)
  | integer {text : List Char} {value : Int64} (reads : readInt64? text = some value) :
      Means quotable text (.literal (.int value))
  | double {text : List Char} {number : Double} (spelled : ∀ c ∈ text, IsNumeralCharacter c)
      (notInteger : readInt64? text = none) (reads : readDouble? text = some number) :
      Means quotable text (.literal (.double number))
  | quoted {quote : Char} {inner : List Char} (isQuote : IsQuote quote)
      (inside : quotable quote inner) :
      Means quotable (quote :: (inner ++ [quote])) (.literal (.string (String.ofList inner)))
  | path {first : List Char} {rest : List (List Char)}
      (identifiers : ∀ part ∈ first :: rest, IsIdentifier part)
      (notWord : ∀ value, ¬IsWord (['.'].intercalate (first :: rest)) value) :
      Means quotable (['.'].intercalate (first :: rest))
        (.path (String.ofList first) (rest.map String.ofList))

/-- Any text can be put in quotes. -/
def Anything (_ : Char) (_ : List Char) : Prop := True

/-- A text can be put in quotes that does not hold them. -/
def WithoutQuote (quote : Char) (inner : List Char) : Prop := quote ∉ inner

variable {text rest inner : List Char} {first quote : Char} {value : Script.Value}

/-! ### What texts begin with -/

/-- Words begin with one of these letters. -/
theorem IsWord.letter (isWord : IsWord text value) (begins : text.head? = some first) :
    first ∈ ['t', 'f', 'n', 'u'] := by
  cases isWord <;> cases begins <;> decide

theorem isIdentifier_iff : Text.isIdentifier text = true ↔ IsIdentifier text := by
  cases text with
  | nil => exact ⟨nofun, nofun⟩
  | cons first rest =>
    rw [Text.isIdentifier, Bool.and_eq_true, List.all_eq_true]
    constructor
    · rintro ⟨start, others⟩
      exact .intro start others
    · rintro ⟨start, others⟩
      exact ⟨start, others⟩

theorem isNumeralText_iff : isNumeralText text = true ↔ ∀ c ∈ text, IsNumeralCharacter c := by
  unfold isNumeralText IsNumeralCharacter
  simp only [List.all_eq_true, Bool.or_eq_true, beq_iff_eq, List.mem_cons, List.not_mem_nil,
    or_false, or_assoc]

/-- No identifier begins with a digit. -/
theorem isIdentifierStart_of_isDigit {c : Char} (digit : c.isDigit = true) :
    Text.isIdentifierStart c = false := by
  obtain ⟨least, greatest⟩ := bounds_of_isDigit digit
  have starts : ∀ code : Fin 10, Text.isIdentifierStart (.ofNat (48 + code)) = false := by
    decide +kernel
  have spelled := starts ⟨c.toNat - 48, by omega⟩
  rwa [Nat.add_sub_of_le least, Char.ofNat_toNat] at spelled

/-- What is spelled like a numeral and begins like an identifier begins with the mark of a power. -/
theorem mark_of_start (start : Text.isIdentifierStart first = true)
    (spelled : IsNumeralCharacter first) : first = 'e' ∨ first = 'E' := by
  rcases spelled with digit | mark
  · rw [isIdentifierStart_of_isDigit digit] at start
    cases start
  · simp only [List.mem_cons, List.not_mem_nil, or_false] at mark
    obtain rfl | rfl | rfl | mark := mark
    · exact absurd start (by decide +kernel)
    · exact absurd start (by decide +kernel)
    · exact absurd start (by decide +kernel)
    · exact mark

/-! ### Numerals -/

/-- Integers are spelled in digits and signs. -/
theorem spelled_of_readInt64? {number : Int64} (reads : readInt64? text = some number) :
    text ≠ [] ∧ ∀ c ∈ text, c = '-' ∨ c = '+' ∨ c.isDigit = true := by
  obtain ⟨value, whole, -⟩ := Option.bind_eq_some_iff.mp reads
  obtain ⟨some_, decimal, -⟩ := readInteger?_eq_some_iff.mp whole
  refine ⟨?_, fun c member => (mem_splitSign member).imp_right (Or.imp_right (decimal c))⟩
  rintro rfl
  exact some_ rfl

theorem isNumeralCharacter_of_readInt64? {number : Int64} (reads : readInt64? text = some number) :
    ∀ c ∈ text, IsNumeralCharacter c := by
  intro c member
  obtain rfl | rfl | digit := (spelled_of_readInt64? reads).2 c member
  · exact .inr (by decide)
  · exact .inr (by decide)
  · exact .inl digit

/-- No integer begins like an identifier. -/
theorem readInt64?_of_start (start : Text.isIdentifierStart first = true) :
    readInt64? (first :: rest) = none := by
  refine Option.eq_none_iff_forall_ne_some.mpr fun number reads => ?_
  obtain rfl | rfl | digit := (spelled_of_readInt64? reads).2 first List.mem_cons_self
  · exact absurd start (by decide +kernel)
  · exact absurd start (by decide +kernel)
  · rw [isIdentifierStart_of_isDigit digit] at start
    cases start

/-- No number that is spelled in numeral characters begins like an identifier. -/
theorem readDouble?_of_start (start : Text.isIdentifierStart first = true)
    (spelled : IsNumeralCharacter first) : readDouble? (first :: rest) = none := by
  obtain rfl | rfl := mark_of_start start spelled
  · rfl
  · rfl

/-- No word is spelled like a numeral. -/
theorem not_isWord_of_spelled (spelled : ∀ c ∈ text, IsNumeralCharacter c)
    (value : Script.Value) : ¬IsWord text value := by
  rintro (_ | _)
  · exact absurd (spelled 't' (by decide)) (by decide)
  · exact absurd (spelled 'f' (by decide)) (by decide)
  · exact absurd (spelled 'n' (by decide)) (by decide)
  · exact absurd (spelled 'u' (by decide)) (by decide)

/-! ### Quotes -/

theorem readQuoted?_eq_some_iff {body : String} : readQuoted? quote text = some body ↔
    ∃ inner, text = quote :: (inner ++ [quote]) ∧ body = String.ofList inner := by
  have lone (inner : List Char) : inner ++ [quote] ≠ [] :=
    List.append_ne_nil_of_right_ne_nil _ (List.cons_ne_nil _ _)
  rcases text with _ | ⟨first, _ | ⟨second, rest⟩⟩
  · exact ⟨nofun, nofun⟩
  · refine ⟨nofun, fun ⟨inner, same, _⟩ => absurd (List.cons.inj same).2.symm (lone inner)⟩
  · unfold readQuoted?
    dsimp only
    rw [Option.ite_none_right_eq_some, Bool.and_eq_true, beq_iff_eq, beq_iff_eq,
      List.getLast?_eq_some_iff, Option.some.injEq]
    constructor
    · rintro ⟨⟨rfl, inner, ends⟩, rfl⟩
      rw [ends, List.dropLast_concat]
      exact ⟨inner, rfl, rfl⟩
    · rintro ⟨inner, same, rfl⟩
      obtain ⟨rfl, ends⟩ := List.cons.inj same
      rw [ends, List.dropLast_concat]
      exact ⟨⟨rfl, inner, rfl⟩, rfl⟩

/-- What is read as a text in quotes begins with them. -/
theorem readQuoted?_of_ne (other : first ≠ quote) : readQuoted? quote (first :: rest) = none := by
  refine Option.eq_none_iff_forall_ne_some.mpr fun body reads => ?_
  obtain ⟨inner, same, -⟩ := readQuoted?_eq_some_iff.mp reads
  exact other (List.cons.inj same).1

namespace IsQuote

theorem not_isNumeralCharacter (isQuote : IsQuote quote) : ¬IsNumeralCharacter quote := by
  obtain rfl | rfl := isQuote
  · decide
  · decide

theorem isIdentifierStart (isQuote : IsQuote quote) : Text.isIdentifierStart quote = false := by
  obtain rfl | rfl := isQuote
  · decide +kernel
  · decide +kernel

/-- No word begins with a quote. -/
theorem not_isWord (isQuote : IsQuote quote) (value : Script.Value) :
    ¬IsWord (quote :: rest) value := by
  intro isWord
  have first := isWord.letter rfl
  obtain rfl | rfl := isQuote
  · exact absurd first (by decide)
  · exact absurd first (by decide)

end IsQuote

/-- What is spelled like a numeral is not in quotes. -/
theorem readQuoted?_of_spelled (isQuote : IsQuote quote)
    (spelled : ∀ c ∈ text, IsNumeralCharacter c) : readQuoted? quote text = none := by
  refine Option.eq_none_iff_forall_ne_some.mpr fun body reads => ?_
  obtain ⟨inner, rfl, -⟩ := readQuoted?_eq_some_iff.mp reads
  exact isQuote.not_isNumeralCharacter (spelled quote List.mem_cons_self)

/-! ### Literals -/

theorem readLiteral?_of_isWord (isWord : IsWord text value) : readLiteral? text = some value := by
  cases isWord <;> rfl

/-- Apart from words, quotes are looked for first, and then integers. -/
theorem readLiteral?_of_not_isWord (notWord : ∀ value, ¬IsWord text value) :
    readLiteral? text =
      ((readQuoted? '"' text).map .string <|> (readQuoted? '\'' text).map .string <|>
        (readInt64? text).map .int <|>
          if isNumeralText text then (readDouble? text).map .double else none) := by
  have other {word : String} {value : Script.Value} (isWord : IsWord word.toList value) :
      ¬(text == word.toList) = true := fun same =>
    notWord value (eq_of_beq same ▸ isWord)
  unfold readLiteral?
  rw [if_neg (other .true), if_neg (other .false), if_neg (other .null), if_neg (other .undefined)]
  cases readQuoted? '"' text with
  | some body => rfl
  | none =>
    cases readQuoted? '\'' text with
    | some body => rfl
    | none => cases readInt64? text <;> rfl

/-- A literal stands for what it means. -/
theorem readLiteral?_eq_some_iff :
    readLiteral? text = some value ↔ Means Anything text (.literal value) := by
  constructor
  · intro reads
    by_cases word : ∃ meant, IsWord text meant
    · obtain ⟨meant, isWord⟩ := word
      cases (readLiteral?_of_isWord isWord).symm.trans reads
      exact .word isWord
    · rw [readLiteral?_of_not_isWord fun meant isWord => word ⟨meant, isWord⟩] at reads
      simp only [Option.orElse_eq_some, Option.map_eq_some_iff, Option.map_eq_none_iff] at reads
      rcases reads with ⟨body, found, rfl⟩ | ⟨-, ⟨body, found, rfl⟩ | ⟨-, reads⟩⟩
      · obtain ⟨inner, rfl, rfl⟩ := readQuoted?_eq_some_iff.mp found
        exact .quoted (.inl rfl) trivial
      · obtain ⟨inner, rfl, rfl⟩ := readQuoted?_eq_some_iff.mp found
        exact .quoted (.inr rfl) trivial
      · rcases reads with ⟨number, found, rfl⟩ | ⟨notInteger, reads⟩
        · exact .integer found
        · obtain ⟨numeral, mapped⟩ := Option.ite_none_right_eq_some.mp reads
          obtain ⟨number, found, rfl⟩ := Option.map_eq_some_iff.mp mapped
          exact .double (isNumeralText_iff.mp numeral) notInteger found
  · intro means
    cases means with
    | word isWord => exact readLiteral?_of_isWord isWord
    | integer reads =>
      have spelled := isNumeralCharacter_of_readInt64? reads
      rw [readLiteral?_of_not_isWord (not_isWord_of_spelled spelled),
        readQuoted?_of_spelled (.inl rfl) spelled, readQuoted?_of_spelled (.inr rfl) spelled, reads]
      rfl
    | double spelled notInteger reads =>
      rw [readLiteral?_of_not_isWord (not_isWord_of_spelled spelled),
        readQuoted?_of_spelled (.inl rfl) spelled, readQuoted?_of_spelled (.inr rfl) spelled,
        notInteger, if_pos (isNumeralText_iff.mpr spelled), reads]
      rfl
    | @quoted quote inner isQuote =>
      have found := readQuoted?_eq_some_iff.mpr ⟨inner, @rfl _ (quote :: (inner ++ [quote])), rfl⟩
      rw [readLiteral?_of_not_isWord isQuote.not_isWord]
      obtain rfl | rfl := isQuote
      · rw [found]
        rfl
      · rw [readQuoted?_of_ne (by decide), found]
        rfl

/-! ### Paths -/

/-- No identifier holds a dot. -/
theorem IsIdentifier.free (isIdentifier : IsIdentifier text) : '.' ∉ text := by
  obtain ⟨start, others⟩ := isIdentifier
  intro member
  obtain rfl | later := List.mem_cons.mp member
  · exact absurd start (by decide +kernel)
  · exact absurd (others '.' later) (by decide +kernel)

theorem readPath?_eq_some_iff {segments : List String} : readPath? text = some segments ↔
    ∃ parts, parts ≠ [] ∧ (∀ part ∈ parts, IsIdentifier part) ∧
      text = ['.'].intercalate parts ∧ segments = parts.map String.ofList := by
  unfold readPath?
  dsimp only
  rw [Option.ite_none_right_eq_some, List.all_eq_true, Option.some.injEq]
  constructor
  · rintro ⟨identifiers, rfl⟩
    refine ⟨_, ?_, fun part member => isIdentifier_iff.mp (identifiers part member),
      (Text.intercalate_pieces '.' text).symm, rfl⟩
    rw [Text.pieces_eq_splitOn]
    exact List.splitOn_ne_nil '.' text
  · rintro ⟨parts, some_, identifiers, rfl, rfl⟩
    rw [Text.pieces_intercalate some_ fun part member => (identifiers part member).free]
    exact ⟨fun part member => isIdentifier_iff.mpr (identifiers part member), rfl⟩

/-- A path begins like an identifier. -/
theorem exists_start {parts : List (List Char)} (some_ : parts ≠ [])
    (identifiers : ∀ part ∈ parts, IsIdentifier part) :
    ∃ first rest, ['.'].intercalate parts = first :: rest ∧
      Text.isIdentifierStart first = true := by
  obtain ⟨part, others, rfl⟩ := List.exists_cons_of_ne_nil some_
  obtain ⟨start, -⟩ := identifiers part List.mem_cons_self
  cases others <;> exact ⟨_, _, rfl, start⟩

/-- Apart from words, no path is a literal. -/
theorem readLiteral?_of_path {parts : List (List Char)} (some_ : parts ≠ [])
    (identifiers : ∀ part ∈ parts, IsIdentifier part)
    (notWord : ∀ value, ¬IsWord (['.'].intercalate parts) value) :
    readLiteral? (['.'].intercalate parts) = none := by
  obtain ⟨first, rest, begins, start⟩ := exists_start some_ identifiers
  generalize ['.'].intercalate parts = text at begins notWord
  refine Option.eq_none_iff_forall_ne_some.mpr fun value reads => ?_
  cases readLiteral?_eq_some_iff.mp reads with
  | word isWord => exact notWord _ isWord
  | integer integer =>
    subst begins
    cases (readInt64?_of_start start).symm.trans integer
  | double spelled _ double =>
    subst begins
    cases (readDouble?_of_start start (spelled first List.mem_cons_self)).symm.trans double
  | quoted isQuote =>
    obtain rfl := (List.cons.inj begins).1
    cases isQuote.isIdentifierStart.symm.trans start

/-! ### Compilation -/

variable {registered : Named Script.Code} {document : Script.Document} {source : String}
  {compiled : Compiled}

/-- A text that no code is registered for compiles to what it means. -/
theorem compile_eq_ok_iff
    (unregistered : registered.get? (String.ofList (Text.trim source.toList)) = none) :
    compile registered document source = .ok compiled ↔
      Means Anything (Text.trim source.toList) compiled := by
  unfold compile
  dsimp only
  rw [unregistered]
  generalize Text.trim source.toList = text
  constructor
  · intro ran
    split at ran
    next found => cases found
    next value found =>
      cases ran
      exact readLiteral?_eq_some_iff.mp found
    next first rest noLiteral found =>
      cases ran
      obtain ⟨parts, some_, identifiers, rfl, segments⟩ := readPath?_eq_some_iff.mp found
      obtain ⟨first, rest, rfl⟩ := List.exists_cons_of_ne_nil some_
      obtain ⟨rfl, rfl⟩ := List.cons.inj segments
      -- A word is an identifier as well, but it was read as a literal before.
      refine .path identifiers fun value isWord => ?_
      cases noLiteral.symm.trans (readLiteral?_of_isWord isWord)
    next => cases ran
  · intro means
    cases compiled with
    | code => cases means
    | literal value => rw [readLiteral?_eq_some_iff.mpr means]
    | path =>
      cases means with
      | path identifiers notWord =>
        rw [readLiteral?_of_path (List.cons_ne_nil _ _) identifiers notWord,
          readPath?_eq_some_iff.mpr ⟨_, List.cons_ne_nil _ _, identifiers, rfl, rfl⟩]
        rfl

/-- A text that does not compile is a syntax error. -/
theorem compile_eq_error_iff :
    compile registered document source =
        .error (syntaxError document (Text.trim source.toList)) ↔
      ∀ compiled, compile registered document source ≠ .ok compiled := by
  unfold compile
  dsimp only
  split
  next => exact ⟨nofun, fun fails => absurd rfl (fails _)⟩
  next => exact ⟨nofun, fun fails => absurd rfl (fails _)⟩
  next => exact ⟨nofun, fun fails => absurd rfl (fails _)⟩
  next => exact ⟨fun _ _ => nofun, fun _ => rfl⟩

/-- A text means the same if what it has in quotes can be put in quotes. -/
theorem Means.imp {quotable other : Char → List Char → Prop} (means : Means quotable text compiled)
    (allow : ∀ quote inner, IsQuote quote → text = quote :: (inner ++ [quote]) →
      quotable quote inner → other quote inner) : Means other text compiled := by
  cases means with
  | word isWord => exact .word isWord
  | integer reads => exact .integer reads
  | double spelled notInteger reads => exact .double spelled notInteger reads
  | quoted isQuote inside => exact .quoted isQuote (allow _ _ isQuote rfl inside)
  | path identifiers notWord => exact .path identifiers notWord

/-- A text in quotes that has the quote inside means nothing, if none may be there. -/
theorem not_means_of_mem (isQuote : IsQuote quote) (inside : quote ∈ inner) :
    ¬Means WithoutQuote (quote :: (inner ++ [quote])) compiled := by
  intro means
  generalize spelled : quote :: (inner ++ [quote]) = text at means
  have member : quote ∈ text := spelled ▸ List.mem_cons_self
  cases means with
  | word isWord =>
    subst spelled
    exact isQuote.not_isWord _ isWord
  | integer reads =>
    exact isQuote.not_isNumeralCharacter (isNumeralCharacter_of_readInt64? reads quote member)
  | double numeral => exact isQuote.not_isNumeralCharacter (numeral quote member)
  | quoted _ without =>
    obtain ⟨rfl, ends⟩ := List.cons.inj spelled
    obtain rfl := (List.append_inj' ends rfl).1
    exact without inside
  | path identifiers =>
    obtain ⟨first, rest, begins, start⟩ := exists_start (List.cons_ne_nil _ _) identifiers
    obtain rfl := (List.cons.inj (spelled.trans begins)).1
    cases isQuote.isIdentifierStart.symm.trans start

/-- A text that no code is registered for compiles to what it means, and is a syntax error where it
means nothing. It means the same where no text in quotes may hold the quote, unless it is itself a
text that has its quote inside. -/
theorem compile_follows_grammar
    (unregistered : registered.get? (String.ofList (Text.trim source.toList)) = none) :
    (∀ compiled, compile registered document source = .ok compiled ↔
        Means Anything (Text.trim source.toList) compiled) ∧
      (compile registered document source =
          .error (syntaxError document (Text.trim source.toList)) ↔
        ∀ compiled, ¬Means Anything (Text.trim source.toList) compiled) ∧
      ((∀ compiled, compile registered document source = .ok compiled ↔
          Means WithoutQuote (Text.trim source.toList) compiled) ↔
        ∀ quote inner, IsQuote quote →
          Text.trim source.toList = quote :: (inner ++ [quote]) → quote ∉ inner) := by
  have compiles (compiled : Compiled) : compile registered document source = .ok compiled ↔
      Means Anything (Text.trim source.toList) compiled := compile_eq_ok_iff unregistered
  refine ⟨compiles, compile_eq_error_iff.trans (forall_congr' fun compiled =>
    not_congr (compiles compiled)), fun same quote inner isQuote spelled inside => ?_,
    fun without compiled => (compiles compiled).trans ⟨fun means => ?_, fun means => ?_⟩⟩
  · have quoted : Means Anything (quote :: (inner ++ [quote])) _ := .quoted isQuote trivial
    have means := (same _).mp ((compiles _).mpr (spelled ▸ quoted))
    rw [spelled] at means
    exact not_means_of_mem isQuote inside means
  · exact means.imp fun quote inner isQuote spelled _ => without quote inner isQuote spelled
  · exact means.imp fun _ _ _ _ _ => trivial

/-- A path means its identifiers, whatever blanks are around it, and a dot alone is a syntax
error. -/
theorem compile_follows_grammar_of_path :
    let document : Script.Document := .script "Script"
    Means Anything "a.b".toList (.path "a" ["b"]) ∧
      compile [] document " a.b" = .ok (.path "a" ["b"]) ∧
      compile [] document "." = .error (syntaxError document ".".toList) ∧
      ∀ compiled, ¬Means Anything ".".toList compiled := by
  intro document
  have identifiers : [['a'], ['b']].all Text.isIdentifier = true := by decide +kernel
  have path : Means Anything "a.b".toList (.path "a" ["b"]) :=
    .path (fun part member => isIdentifier_iff.mp (List.all_eq_true.mp identifiers part member))
      fun _ isWord => absurd (isWord.letter rfl) (by decide)
  have dot : compile [] document "." = .error (syntaxError document ".".toList) := rfl
  exact ⟨path, ((compile_follows_grammar rfl).1 _).mpr path, dot,
    (compile_follows_grammar rfl).2.1.mp dot⟩

/-- A sum of two texts in quotes has the quote inside, and compiles all the same. -/
theorem sum_in_quotes_compiles :
    let source := "\"a\" + \"b\""
    compile [] (.script "Script") source = .ok (.literal (.string "a\" + \"b")) ∧
      ∀ compiled, ¬Means WithoutQuote (Text.trim source.toList) compiled := by
  refine ⟨rfl, fun compiled => ?_⟩
  exact @not_means_of_mem "a\" + \"b".toList '"' compiled (.inl rfl) (by decide)

end ScriptBridge.Source
