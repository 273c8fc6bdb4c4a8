import ScriptHost.Derive.Derivation
import ScriptHost.Session.Run
import ScriptHost.Proofs.Access.PutGet
import ScriptHost.Proofs.Access.Stepwise
import ScriptHost.Proofs.Document.Locality
import ScriptHost.Proofs.Image.Walk
import ScriptHost.Proofs.Access.View
import ScriptHost.Proofs.Derive.Layer
import ScriptHost.Proofs.Record.Names
import ScriptHost.Proofs.Record.Derived
import ScriptHost.Proofs.Access.DecimalKey
import ScriptHost.Proofs.Access.Enumeration
import ScriptHost.Proofs.Access.Lockstep
import ScriptHost.Proofs.Access.ImageReading
import ScriptHost.Proofs.Access.Secrecy
import ScriptHost.Proofs.Context.Guards
import ScriptHost.Proofs.Context.Scope
import ScriptHost.Proofs.Document.Address
import ScriptHost.Proofs.Heap.Location
import ScriptHost.Proofs.Image.Frame
import ScriptHost.Proofs.Access.Change
import ScriptHost.Proofs.Access.Shape
import ScriptHost.Proofs.Access.Elements
import ScriptHost.Proofs.Json.Overwrite
import ScriptHost.Proofs.Record.Commute
import ScriptHost.Proofs.Document.Child
import ScriptHost.Proofs.Access.Commute
import ScriptHost.Proofs.Json.WordSized
import ScriptHost.Proofs.Heap.WordSized
import ScriptHost.Proofs.Access.WriteBack
import ScriptHost.Proofs.Access.StepwiseRead
import ScriptHost.Proofs.Access.Busy
import ScriptHost.Proofs.Record.Conversion
import ScriptHost.Proofs.Coercion
import ScriptHost.Proofs.Context.Reports
import ScriptHost.Proofs.Derive.Acceptance
import ScriptHost.Proofs.Access.LengthKey
import ScriptHost.Proofs.Document.MemberOrder
import ScriptHost.Proofs.Record.Refusal
import ScriptHost.Proofs.Access.Kinds
import ScriptHost.Proofs.Access.Faults
import ScriptHost.Proofs.Display
import ScriptHost.Proofs.IntegerCoercion
