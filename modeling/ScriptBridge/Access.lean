/-
This file holds the levels of access that script can have to a member. They are
declared on members and types and set for engines; which of them counts is for
the policy of an engine to decide.
-/

namespace ScriptBridge

/-- How much of a member script may use. -/
inductive Access
  | full
  | readOnly
  | hidden
  deriving DecidableEq, Repr, Inhabited

namespace Access

/-- Every level of access. -/
def all : List Access := [.full, .readOnly, .hidden]

/-- The name of the level in settings. -/
def name : Access → String
  | .full => "full"
  | .readOnly => "read_only"
  | .hidden => "none"

/-- The level with the given name. -/
def ofName? (text : String) : Option Access := all.find? fun access => access.name == text

/-- Can script reach the member at all? -/
def isVisible (access : Access) : Bool := access != .hidden

/-- May script write the member? -/
def isWritable (access : Access) : Bool := access == .full

end Access

end ScriptBridge
