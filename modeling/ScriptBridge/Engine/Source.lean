/-
This file gives source texts their meaning. A text that code is registered for
means that code; any other must be a literal, which is a word, a quoted string
or a numeral, or a path of identifiers joined by dots. Blanks around a text do
not matter.
-/

import ScriptBridge.Error
import ScriptBridge.Number.Reading
import ScriptBridge.Store.Cell
import ScriptBridge.Text.Letter

namespace ScriptBridge.Source

/-! ### Literals -/

/-- The text between quotes: a text of at least two characters that begins and ends with one. -/
def readQuoted? (quote : Char) (text : List Char) : Option String :=
  match text with
  | first :: rest@(_ :: _) =>
    if first == quote && rest.getLast? == some quote then some (String.ofList rest.dropLast)
    else none
  | _ => none

/-- Does the text hold nothing but what numerals are written with? -/
def isNumeralText (text : List Char) : Bool :=
  text.all fun character =>
    character.isDigit || character == '.' || character == '-' || character == '+' ||
      character == 'e' || character == 'E'

/-- The value that a literal stands for. -/
def readLiteral? (text : List Char) : Option Script.Value :=
  if text == "true".toList then some (.bool true)
  else if text == "false".toList then some (.bool false)
  else if text == "null".toList then some .null
  else if text == "undefined".toList then some .undefined
  else match readQuoted? '"' text, readQuoted? '\'' text, Number.readInt64? text with
    | some body, _, _ => some (.string body)
    | none, some body, _ => some (.string body)
    | none, none, some value => some (.int value)
    | none, none, none =>
      if isNumeralText text then (Number.readDouble? text).map .double else none

/-! ### Paths -/

/-- The identifiers of a path. -/
def readPath? (text : List Char) : Option (List String) :=
  let segments := Text.pieces '.' text
  if segments.all Text.isIdentifier then some (segments.map String.ofList) else none

/-! ### Compilation -/

/-- The error of a text without meaning. -/
def syntaxError (document : Script.Document) (text : List Char) : ScriptError :=
  .fault "SyntaxError" s!"unrecognized script '{String.ofList text}'" (some document.name) none

/-- What a text means. Registered code is found by the text without blanks around it. -/
def compile (registered : Named Script.Code) (document : Script.Document) (source : String) :
    Except ScriptError Compiled :=
  let text := Text.trim source.toList
  match registered.get? (String.ofList text), readLiteral? text, readPath? text with
  | some body, _, _ => .ok (.code body)
  | none, some value, _ => .ok (.literal value)
  | none, none, some (first :: rest) => .ok (.path first rest)
  | none, none, _ => .error (syntaxError document text)

/-- The code registered for a text, in place of any older one. -/
def register (registered : Named Script.Code) (source : String) (body : Script.Code) :
    Named Script.Code :=
  registered.put (String.ofList (Text.trim source.toList)) body

/-- The size of all registered texts in bytes. -/
def size (registered : Named Script.Code) : Nat :=
  registered.foldl (fun size entry => size + entry.1.utf8ByteSize) 0

end ScriptBridge.Source
