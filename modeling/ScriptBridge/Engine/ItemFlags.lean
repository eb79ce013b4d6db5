/-
This file holds the flags a host item is exposed with. Flags are bits; a list of
names separated by bars stands for their union, whatever the case of the names.
Private and direct access are part of which proxy an item gets, membership among
the globals is not.
-/

import ScriptBridge.Text.Blank

namespace ScriptBridge

/-- The flags of an exposed item. -/
structure ItemFlags where
  bits : UInt8
  deriving DecidableEq, Repr, Inhabited

namespace ItemFlags

/-- No flag. -/
def none : ItemFlags := ⟨0⟩

/-- Script may reach private members. -/
def privateAccess : ItemFlags := ⟨1⟩

/-- Members are bound without asking the object's dynamic capability. -/
def directAccess : ItemFlags := ⟨2⟩

/-- The item's members are found as globals. -/
def globalMembers : ItemFlags := ⟨4⟩

/-- Are all flags of the second set in the first? -/
def contains (flags other : ItemFlags) : Bool := flags.bits &&& other.bits == other.bits

/-- The flags of both. -/
def union (flags other : ItemFlags) : ItemFlags := ⟨flags.bits ||| other.bits⟩

/-- The flags of the first that the second lacks. -/
def difference (flags other : ItemFlags) : ItemFlags := ⟨flags.bits &&& ~~~other.bits⟩

/-- The flags that tell proxies of one target apart. -/
def identity (flags : ItemFlags) : ItemFlags := flags.difference globalMembers

/-- Upper case as far as flag names need it: the letters whose upper case is made of basic ones. -/
def upper (character : Char) : List Char :=
  match character.toNat with
  | 0xDF => ['S', 'S']
  | 0x131 => ['I']
  | 0x17F => ['S']
  | 0xFB00 => ['F', 'F']
  | 0xFB01 => ['F', 'I']
  | 0xFB02 => ['F', 'L']
  | 0xFB03 => ['F', 'F', 'I']
  | 0xFB04 => ['F', 'F', 'L']
  | 0xFB05 | 0xFB06 => ['S', 'T']
  | _ => [character.toUpper]

/-- The flag with a name in upper case; no name is no flag. -/
def ofName? (name : String) : Option ItemFlags :=
  if name == "" || name == "NONE" then some none
  else if name == "PRIVATE_ACCESS" then some privateAccess
  else if name == "DIRECT_ACCESS" then some directAccess
  else if name == "GLOBAL_MEMBERS" then some globalMembers
  else Option.none

/-- The flags that a list of names stands for. -/
def read? (text : String) : Option ItemFlags :=
  (Text.pieces '|' text.toList).foldlM (fun flags piece =>
    (ofName? (String.ofList ((Text.trim piece).flatMap upper))).map flags.union) none

end ItemFlags

end ScriptBridge
