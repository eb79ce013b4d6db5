/-
This file reads TOML documents. A document is a sequence of lines with a header, a
key with its value, or nothing on them; strings in three quotes and lists may
span lines. Each step of the reader takes at least one character, so the length
of the text bounds their number. The reader gives up at the first fault, and at
keys and values that are nested too deeply.
-/

import ScriptBridge.Toml.Scalar

namespace ScriptBridge.Toml

/-- What a reader makes of a text: a result and what is left, or nothing. -/
abbrev Read (Result : Type) := List Char → Option (Result × List Char)

/-! ### Blanks -/

/-- Is the character a blank within a line? -/
def isBlank (character : Char) : Bool := character == ' ' || character == '\t'

/-- The text without the blanks in front. -/
def skipBlanks (text : List Char) : List Char := text.dropWhile isBlank

/-- The text after the end of a line. -/
def endOfLine? : List Char → Option (List Char)
  | '\n' :: rest | '\r' :: '\n' :: rest => some rest
  | _ => none

/-- May the character stand in a comment or a string on one line? -/
def isPlain (character : Char) : Bool :=
  character == '\t' || (' ' ≤ character && character.toNat != 0x7F)

/-- The text without a comment in front. -/
def skipComment : List Char → List Char
  | '#' :: rest => rest.dropWhile isPlain
  | text => text

/-- The text after the rest of a line that holds nothing more. -/
def finishLine? (text : List Char) : Option (List Char) :=
  let rest := skipComment (skipBlanks text)
  if rest.isEmpty then some [] else endOfLine? rest

/-- The text without blanks, comments and ends of lines in front. -/
def skipLines : Nat → List Char → List Char
  | 0, text => text
  | steps + 1, text =>
    let rest := skipComment (skipBlanks text)
    match endOfLine? rest with
    | some next => skipLines steps next
    | none => rest

/-! ### Strings -/

/-- The character of a code in hexadecimal of a given length. -/
def readCode (length : Nat) : Read Char := fun text =>
  let digits := text.take length
  let code := valueOf 16 digits
  if digits.length == length && digits.all (isDigitOf 16) && code.isValidChar then
    some (Char.ofNat code, text.drop length)
  else none

/-- The character that an escape stands for. -/
def readEscape : Read Char
  | 'b' :: rest => some ('\x08', rest)
  | 't' :: rest => some ('\t', rest)
  | 'n' :: rest => some ('\n', rest)
  | 'f' :: rest => some ('\x0c', rest)
  | 'r' :: rest => some ('\r', rest)
  | '"' :: rest => some ('"', rest)
  | '\\' :: rest => some ('\\', rest)
  | 'u' :: rest => readCode 4 rest
  | 'U' :: rest => readCode 8 rest
  | _ => none

/-- The rest of a string on one line, with escapes if the quote is a double one. -/
def readLineString (quote : Char) : Nat → List Char → Read String
  | 0, _, _ => none
  | _, _, [] => none
  | steps + 1, done, character :: rest =>
    if character == quote then some (String.ofList done.reverse, rest)
    else if character == '\\' && quote == '"' then do
      let (escaped, rest) ← readEscape rest
      readLineString quote steps (escaped :: done) rest
    else if isPlain character then readLineString quote steps (character :: done) rest
    else none

/-- The text after blanks and ends of lines that an escaped end of line takes with it. -/
def skipFolded : Nat → List Char → List Char
  | 0, text => text
  | steps + 1, text =>
    let rest := skipBlanks text
    match endOfLine? rest with
    | some next => skipFolded steps next
    | none => rest

/-- The rest of a string in three quotes. Up to two quotes may stand right before the end. -/
def readBlockString (quote : Char) : Nat → List Char → Read String
  | 0, _, _ => none
  | _, _, [] => none
  | steps + 1, done, character :: rest =>
    if character == quote then
      let run := (character :: rest).takeWhile (· == quote)
      let after := rest.drop (run.length - 1)
      if run.length < 3 then readBlockString quote steps (run ++ done) after
      else if run.length ≤ 5 then
        some (String.ofList (run.drop 3 ++ done).reverse, after)
      else none
    else if character == '\\' && quote == '"' then
      match endOfLine? (skipBlanks rest) with
      | some next => readBlockString quote steps done (skipFolded steps next)
      | none => do
        let (escaped, rest) ← readEscape rest
        readBlockString quote steps (escaped :: done) rest
    else match endOfLine? (character :: rest) with
      | some next => readBlockString quote steps ('\n' :: done) next
      | none =>
        if isPlain character then readBlockString quote steps (character :: done) rest else none

/-- The string that begins with a quote. -/
def readString (quote : Char) : Read String := fun text =>
  match text with
  | first :: second :: third :: rest =>
    if first == quote && second == quote && third == quote then
      readBlockString quote text.length [] ((endOfLine? rest).getD rest)
    else if first == quote then readLineString quote text.length [] (second :: third :: rest)
    else none
  | first :: rest => if first == quote then readLineString quote text.length [] rest else none
  | [] => none

/-! ### Keys -/

/-- May the character stand in a name without quotes? -/
def isBare (character : Char) : Bool :=
  character.isAlphanum || character == '_' || character == '-'

/-- A name, in quotes or without. -/
def readName : Read String := fun text =>
  match text with
  | '"' :: rest => readLineString '"' text.length [] rest
  | '\'' :: rest => readLineString '\'' text.length [] rest
  | _ =>
    let name := text.takeWhile isBare
    if name.isEmpty then none else some (String.ofList name, text.drop name.length)

/-- The most names in a key, and the most lists and inline tables within each other. -/
def maxNesting : Nat := 79

/-- Up to a number of names, joined by dots. -/
def readNames : Nat → Read (List String)
  | 0, _ => none
  | count + 1, text => do
    let (name, rest) ← readName (skipBlanks text)
    match skipBlanks rest with
    | '.' :: rest => do
      let (names, rest) ← readNames count rest
      some (name :: names, rest)
    | rest => some ([name], rest)

/-- A key: names joined by dots. -/
def readKey : Read (List String) := readNames maxNesting

/-! ### Values -/

/-- Can the character be part of a scalar without quotes? -/
def isScalarPart (character : Char) : Bool :=
  character.isAlphanum || ['+', '-', '_', '.', ':'].contains character

/-- A scalar without quotes. A blank may stand between a date and its time. -/
def readBareScalar : Read Value := fun text =>
  let first := text.takeWhile isScalarPart
  let rest := text.drop first.length
  let time := (rest.drop 1).takeWhile isScalarPart
  match isDate first && rest.head? == some ' ', readMoment? (first ++ ' ' :: time) with
  | true, some value => some (value, rest.drop (1 + time.length))
  | _, _ => (readScalar? first).map fun value => (value, rest)

/-- A value without parts. -/
def readAtom : Read Value := fun text =>
  match text with
  | '"' :: _ => (readString '"' text).map fun (string, rest) => (.text string, rest)
  | '\'' :: _ => (readString '\'' text).map fun (string, rest) => (.text string, rest)
  | _ => readBareScalar text

/-- The items of a list after the first ones. -/
def readItems (readItem : Read Value) : Nat → List Value → Read Value
  | 0, _, _ => none
  | steps + 1, done, text =>
    match skipLines text.length text with
    | ']' :: rest => some (.list done.reverse, rest)
    | text => do
      let (item, rest) ← readItem text
      match skipLines rest.length rest with
      | ',' :: rest => readItems readItem steps (item :: done) rest
      | ']' :: rest => some (.list (item :: done).reverse, rest)
      | _ => none

/-- The entries of an inline table after the first ones. -/
def readEntries (readItem : Read Value) : Nat → Value → Read Value
  | 0, _, _ => none
  | steps + 1, done, text => do
    let (key, rest) ← readKey text
    match skipBlanks rest with
    | '=' :: rest => do
      let (value, rest) ← readItem (skipBlanks rest)
      let done ← done.add key value
      match skipBlanks rest with
      | ',' :: rest => readEntries readItem steps done rest
      | '}' :: rest => some (.table .inline done.entries, rest)
      | _ => none
    | _ => none

/-- A value, with up to a number of lists and inline tables within each other. -/
def readValue : Nat → Read Value
  | 0, text => readAtom text
  | levels + 1, text =>
    match text with
    | '[' :: rest => readItems (readValue levels) rest.length [] rest
    | '{' :: rest =>
      match skipBlanks rest with
      | '}' :: rest => some (.table .inline [], rest)
      | rest => readEntries (readValue levels) rest.length (.table .header []) rest
    | _ => readAtom text

/-! ### Lines -/

/-- The document after the line that a text begins with, and the text after it. -/
def readLine (document : Document) : Read Document := fun text =>
  match skipBlanks text with
  | '[' :: '[' :: rest => do
    let (key, rest) ← readKey rest
    match rest with
    | ']' :: ']' :: rest => do some (← document.openListed key, ← finishLine? rest)
    | _ => none
  | '[' :: rest => do
    let (key, rest) ← readKey rest
    match rest with
    | ']' :: rest => do some (← document.openTable key, ← finishLine? rest)
    | _ => none
  | rest =>
    match finishLine? rest with
    | some next => some (document, next)
    | none => do
      let (key, rest) ← readKey rest
      match skipBlanks rest with
      | '=' :: rest => do
        let (value, rest) ← readValue maxNesting (skipBlanks rest)
        some (← document.add key value, ← finishLine? rest)
      | _ => none

/-- The document after all lines of a text. -/
def readLines : Nat → Document → List Char → Option Document
  | _, document, [] => some document
  | 0, _, _ => none
  | steps + 1, document, text => do
    let (document, rest) ← readLine document text
    readLines steps document rest

/-- The table that a text writes. -/
def read? (text : String) : Option Value :=
  let characters := match text.toList with
    | '\ufeff' :: rest => rest
    | characters => characters
  (readLines characters.length {} characters).bind Document.finish

end ScriptBridge.Toml
