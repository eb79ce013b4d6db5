/-
This file brings module specifiers to one form: segments without empty ones, dots
or double dots, joined by slashes. A specifier that begins with a dot segment is
relative to the directory of the document that imports it.
-/

import ScriptBridge.Text.Blank

namespace ScriptBridge.Specifier

/-- The segments after one more: a double dot takes one back, an empty one or a dot adds none. -/
def fold (segments : List (List Char)) (part : List Char) : List (List Char) :=
  if part == [] || part == ['.'] then segments
  else if part == ['.', '.'] then segments.dropLast
  else segments ++ [part]

/-- Does the specifier begin with a dot segment? -/
def isRelative (specifier : List Char) : Bool :=
  ['.', '/'].isPrefixOf specifier || ['.', '.', '/'].isPrefixOf specifier

/-- The segments of the directory that a relative specifier starts from. -/
def directory (referrer : Option (List Char)) : List (List Char) :=
  match referrer with
  | some base => (Text.pieces '/' base).dropLast
  | none => []

/-- The segments a specifier leads to. -/
def segments (specifier : List Char) (referrer : Option (List Char)) : List (List Char) :=
  let start := if isRelative specifier then directory referrer else []
  ((Text.pieces '/' specifier).foldl fold start).filter (· != [])

/-- The one form of a specifier, as met in a document with the given specifier. -/
def normalize (specifier : String) (referrer : Option String) : String :=
  String.ofList (['/'].intercalate (segments specifier.toList (referrer.map String.toList)))

end ScriptBridge.Specifier
