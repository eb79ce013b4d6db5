import ScriptBridge.Proofs.AccessControl
import ScriptBridge.Proofs.Assignability
import ScriptBridge.Proofs.BoxedNumbers
import ScriptBridge.Proofs.CallForms
import ScriptBridge.Proofs.Callbacks
import ScriptBridge.Proofs.Conformance
import ScriptBridge.Proofs.Copies
import ScriptBridge.Proofs.Crossings
import ScriptBridge.Proofs.Deferral
import ScriptBridge.Proofs.Disposal
import ScriptBridge.Proofs.Dominance
import ScriptBridge.Proofs.Elements
import ScriptBridge.Proofs.Enumeration
import ScriptBridge.Proofs.EventHandlers
import ScriptBridge.Proofs.EventHooks
import ScriptBridge.Proofs.Exactness
import ScriptBridge.Proofs.FaultChains
import ScriptBridge.Proofs.FieldWrites
import ScriptBridge.Proofs.Foundedness
import ScriptBridge.Proofs.HiddenAnnotations
import ScriptBridge.Proofs.Hiding
import ScriptBridge.Proofs.InterfaceSearch
import ScriptBridge.Proofs.Interrupts
import ScriptBridge.Proofs.LastOutcome
import ScriptBridge.Proofs.Numerals
import ScriptBridge.Proofs.Offers
import ScriptBridge.Proofs.OverloadChoice
import ScriptBridge.Proofs.PassingThrough
import ScriptBridge.Proofs.PrivateAccess
import ScriptBridge.Proofs.ProxyLives
import ScriptBridge.Proofs.Receivers
import ScriptBridge.Proofs.Renaming
import ScriptBridge.Proofs.Rosters
import ScriptBridge.Proofs.RoundTrip
import ScriptBridge.Proofs.Rounding
import ScriptBridge.Proofs.SessionOrder
import ScriptBridge.Proofs.Sources
import ScriptBridge.Proofs.Specificity
import ScriptBridge.Proofs.Specifiers
import ScriptBridge.Proofs.StrictEquality
import ScriptBridge.Proofs.Sweeping
import ScriptBridge.Proofs.TextCalls
import ScriptBridge.Proofs.TextEndings
import ScriptBridge.Proofs.Tunnelling
import ScriptBridge.Proofs.TypeTests
import ScriptBridge.Proofs.TypedArrays
import ScriptBridge.Proofs.ValueSemantics
import ScriptBridge.Proofs.Widening
import ScriptBridge.Proofs.WorkspaceModules
import ScriptBridge.Proofs.Wrapping
import ScriptBridge.Proofs.WriteBack
