import ScriptSandbox.Cell
import ScriptSandbox.Datum
import ScriptSandbox.Descriptor
import ScriptSandbox.Failure
import ScriptSandbox.Gate
import ScriptSandbox.Heap.Assign
import ScriptSandbox.Heap.Basic
import ScriptSandbox.Heap.Closing
import ScriptSandbox.Heap.Conversion
import ScriptSandbox.Heap.Define
import ScriptSandbox.Heap.Inherit
import ScriptSandbox.Heap.Length
import ScriptSandbox.HostClass
import ScriptSandbox.Json.Basic
import ScriptSandbox.Json.Layout
import ScriptSandbox.Json.Token
import ScriptSandbox.Json.Tree
import ScriptSandbox.Key
import ScriptSandbox.KeyWalk
import ScriptSandbox.Number.Binary
import ScriptSandbox.Number.Layout
import ScriptSandbox.Number.Literal
import ScriptSandbox.Number.Nearest
import ScriptSandbox.Number.Numeral
import ScriptSandbox.Number.Shortest
import ScriptSandbox.OrderedMap
import ScriptSandbox.Permission
import ScriptSandbox.PropertyTable
import ScriptSandbox.Realm.Basic
import ScriptSandbox.Realm.Boxes
import ScriptSandbox.Realm.Creation
import ScriptSandbox.Realm.Errors
import ScriptSandbox.Realm.Genesis
import ScriptSandbox.Realm.Globals
import ScriptSandbox.Realm.HostType
import ScriptSandbox.Realm.Interop
import ScriptSandbox.Realm.Invocation
import ScriptSandbox.Realm.Member
import ScriptSandbox.Realm.Reflection
import ScriptSandbox.Realm.Sequences
import ScriptSandbox.Routine
import ScriptSandbox.Settings
import ScriptSandbox.Text.Alphanumeric
import ScriptSandbox.Text.Blank
import ScriptSandbox.Text.CodePoint
import ScriptSandbox.Text.Combining
import ScriptSandbox.Text.Hidden
import ScriptSandbox.Text.Quoted
import ScriptSandbox.Text.Units
import ScriptSandbox.TypeName
import ScriptSandbox.World
import ScriptSandbox.WriteMode
import ScriptSandbox.History
import ScriptSandbox.Proofs.Number.Whole
import ScriptSandbox.Proofs.Table
import ScriptSandbox.Proofs.Cell.Change
import ScriptSandbox.Proofs.Cell.Length
import ScriptSandbox.Proofs.Cell.Sound
import ScriptSandbox.Proofs.Heap.Sound
import ScriptSandbox.Proofs.Heap.Array
import ScriptSandbox.Proofs.Machine.Step
import ScriptSandbox.Proofs.Machine.Trace
import ScriptSandbox.Proofs.Machine.Furnish
import ScriptSandbox.Proofs.Machine.Genesis
import ScriptSandbox.Proofs.Gate
import ScriptSandbox.Proofs.Machine.Creation
import ScriptSandbox.Proofs.Machine.HostType
import ScriptSandbox.Proofs.Machine.Member
import ScriptSandbox.Proofs.Machine.Builtin
import ScriptSandbox.Proofs.Machine.Operation
import ScriptSandbox.Proofs.World.Run
import ScriptSandbox.Proofs.World.Integrity
import ScriptSandbox.Proofs.World.ArrayLength
import ScriptSandbox.Proofs.Machine.Host
import ScriptSandbox.Proofs.Permission
import ScriptSandbox.Proofs.World.HostTypes
import ScriptSandbox.Proofs.World.Resolution
import ScriptSandbox.Proofs.Heap.Chain
import ScriptSandbox.Proofs.Heap.Loop
import ScriptSandbox.Proofs.KeyWalk.Loop
import ScriptSandbox.Proofs.KeyWalk.Rest
import ScriptSandbox.Proofs.KeyWalk.Next
import ScriptSandbox.Proofs.Number.Exact
import ScriptSandbox.Proofs.Number.Numeral
import ScriptSandbox.Proofs.Key
import ScriptSandbox.Proofs.Cell.Below
import ScriptSandbox.Proofs.Heap.WellFormed
import ScriptSandbox.Proofs.Respect.Basic
import ScriptSandbox.Proofs.Respect.Creation
import ScriptSandbox.Proofs.Respect.Realm
import ScriptSandbox.Proofs.Respect.Builtin
import ScriptSandbox.Proofs.Respect.Operation
import ScriptSandbox.Proofs.Respect.Genesis
import ScriptSandbox.Proofs.World.WellFormed
import ScriptSandbox.Proofs.World.Keys
import ScriptSandbox.Proofs.World.Prototypes
import ScriptSandbox.Proofs.World.Enumeration
import ScriptSandbox.Proofs.World.Levels
import ScriptSandbox.Proofs.Uniform.Basic
import ScriptSandbox.Proofs.Uniform.Creation
import ScriptSandbox.Proofs.Uniform.Builtin
import ScriptSandbox.Proofs.Uniform.WriteMode
import ScriptSandbox.Proofs.Uniform.Catalog
import ScriptSandbox.Proofs.Uniform.Operation
import ScriptSandbox.Proofs.World.Secrecy
import ScriptSandbox.Proofs.TypeName
import ScriptSandbox.Proofs.Heap.Extends
import ScriptSandbox.Proofs.Machine.TypeObject
import ScriptSandbox.Proofs.Machine.Route
import ScriptSandbox.Proofs.World.Routes
import ScriptSandbox.Proofs.Json.Token
import ScriptSandbox.Proofs.Json.Tree
import ScriptSandbox.Proofs.Settings
import ScriptSandbox.Proofs.Machine.Admission
import ScriptSandbox.Proofs.Machine.Failure
import ScriptSandbox.Proofs.Habit.Basic
import ScriptSandbox.Proofs.Habit.Builtin
import ScriptSandbox.Proofs.Habit.Operation
import ScriptSandbox.Proofs.Machine.Curation
import ScriptSandbox.Proofs.World.TypeObjects
import ScriptSandbox.Proofs.Machine.Sparing
import ScriptSandbox.Proofs.Machine.Constructor
import ScriptSandbox.Proofs.World.Errors
import ScriptSandbox.Proofs.Heap.Assignment
import ScriptSandbox.Proofs.Heap.Definition
import ScriptSandbox.Proofs.Heap.Resizing
import ScriptSandbox.Proofs.Heap.Refusal
import ScriptSandbox.Proofs.Machine.Refusal
import ScriptSandbox.Proofs.Decision
import ScriptSandbox.Proofs.World.Tightening
import ScriptSandbox.Proofs.Machine.Appending
import ScriptSandbox.Proofs.Machine.FreeName
import ScriptSandbox.Proofs.World.FreeNames
import ScriptSandbox.Proofs.Machine.Boxing
import ScriptSandbox.Proofs.Machine.Description
import ScriptSandbox.Proofs.Machine.Package
import ScriptSandbox.Proofs.World.ErrorTexts
import ScriptSandbox.Proofs.World.Boxes
import ScriptSandbox.Proofs.World.Descriptions
import ScriptSandbox.Proofs.World.Packages
import ScriptSandbox.Proofs.Number.Rounding
import ScriptSandbox.Proofs.Number.Literal
import ScriptSandbox.Proofs.Number.Reading
import ScriptSandbox.Proofs.Number.Layout
import ScriptSandbox.Proofs.Number.RoundTrip
import ScriptSandbox.Proofs.World.ValueKeys
import ScriptSandbox.Proofs.Machine.Registration
import ScriptSandbox.Proofs.HostClass
import ScriptSandbox.Proofs.Machine.Closing
import ScriptSandbox.Proofs.TableHistory
import ScriptSandbox.Proofs.Heap.TextBox
import ScriptSandbox.Proofs.Machine.TextBox
import ScriptSandbox.Proofs.KeyWalk.TextBox
import ScriptSandbox.Proofs.World.TextBoxes
import ScriptSandbox.Proofs.Heap.Conversion
import ScriptSandbox.Proofs.World.Registrations
import ScriptSandbox.Proofs.World.Textless
import ScriptSandbox.Proofs.Machine.Native
import ScriptSandbox.Proofs.World.Natives
