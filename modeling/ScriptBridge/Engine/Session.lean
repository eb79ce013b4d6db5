/-
This file holds the state machine of one engine's calls. The outermost frame
makes the session run and clears an old interrupt; every frame polls for an
interrupt before its body starts; when the outermost frame ends, its result
becomes the outcome and the session is idle again. A collection asked for during
a call is owed until then.
-/

import ScriptBridge.Error

namespace ScriptBridge

/-- The state of a session, and the outcome of its last outermost call. -/
inductive SessionState
  | idle | running | interrupted | faulted
  deriving DecidableEq, Repr, Inhabited

/-- The name of the state. -/
def SessionState.name : SessionState → String
  | .idle => "Idle"
  | .running => "Running"
  | .interrupted => "Interrupted"
  | .faulted => "Faulted"

/-- What a frame runs: script of the engine, host code, or a call into another engine. -/
inductive FrameKind
  | script | hostCall | foreign
  deriving DecidableEq, Repr, Inhabited

/-- The active frames, innermost first, with their number at hand. -/
structure FrameStack where
  kinds : List FrameKind := []
  depth : Nat := 0
  depth_eq : depth = kinds.length := by rfl
  deriving DecidableEq, Repr

instance : Inhabited FrameStack := ⟨{}⟩

namespace FrameStack

/-- The stack with one more frame. -/
def push (stack : FrameStack) (kind : FrameKind) : FrameStack :=
  ⟨kind :: stack.kinds, stack.depth + 1, by rw [stack.depth_eq, List.length_cons]⟩

/-- The stack without its innermost frame. -/
def pop (stack : FrameStack) : FrameStack :=
  ⟨stack.kinds.tail, stack.depth - 1, by rw [stack.depth_eq, List.length_tail]⟩

end FrameStack

/-- The calls of one engine. -/
structure Session where
  state : SessionState := .idle
  outcome : SessionState := .idle
  interruptRequested : Bool := false
  collectionOwed : Bool := false
  frames : FrameStack := {}
  maxDepth : Nat := 256
  deriving DecidableEq, Repr, Inhabited

namespace Session

/-- A session that allows the given number of frames, at least one. -/
def new (maxDepth : Nat) : Session := { maxDepth := max maxDepth 1 }

/-- The number of active frames. -/
def depth (session : Session) : Nat := session.frames.depth

/-- Is a call in progress? -/
def isBusy (session : Session) : Bool := session.depth != 0

/-- The session after an interrupt is asked for, and whether it was accepted: only a running
session takes one. -/
def requestInterrupt (session : Session) : Bool × Session :=
  if session.state == .running then (true, { session with interruptRequested := true })
  else (false, session)

/-- The session owing a collection. -/
def owe (session : Session) : Session := { session with collectionOwed := true }

/-- The error of a frame too many. -/
def depthError : ScriptError := .plain "RangeError" "maximum call depth exceeded"

/-- The session with one more frame, if the depth allows it. The outermost frame starts the run. -/
def enter (session : Session) (kind : FrameKind) : Except ScriptError Session :=
  if !session.isBusy then
    .ok { session with
      state := .running
      interruptRequested := false
      frames := session.frames.push kind }
  else if session.maxDepth ≤ session.depth then .error depthError
  else .ok { session with frames := session.frames.push kind }

/-- The error of a pending interrupt. -/
def poll (session : Session) : Except ScriptError Unit :=
  if session.interruptRequested then .error .interrupted else .ok ()

/-- The outcome that a failure, or none, leaves. -/
def outcomeOf : Option ScriptError → SessionState
  | none => .idle
  | some .interrupted => .interrupted
  | some _ => .faulted

/-- The session after its innermost frame ended with a failure or without one. When it was the
outermost, the session is idle and the second part says whether a collection was owed. -/
def leave (session : Session) (failure : Option ScriptError) : Session × Option Bool :=
  let ended := { session with frames := session.frames.pop }
  match session.depth with
  | 0 => (session, none)
  | 1 =>
    ({ ended with
        state := .idle
        outcome := outcomeOf failure
        interruptRequested := false
        collectionOwed := false }, some session.collectionOwed)
  | _ => (ended, none)

end Session

end ScriptBridge
