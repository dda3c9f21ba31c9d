import InteropGlue.AccessBridge.Generate
import InteropGlue.AccessBridge.SchemaText
import InteropGlue.CSharp.Code
import InteropGlue.CSharp.Print
import InteropGlue.CSharp.Sink
import InteropGlue.CSharp.Syntax
import InteropGlue.CommandLine
import InteropGlue.Decimal.Binary64
import InteropGlue.Decimal.Shortest
import InteropGlue.Files.Disk
import InteropGlue.Files.Path
import InteropGlue.Files.System
import InteropGlue.Generate
import InteropGlue.Glue.Classes
import InteropGlue.Glue.Conversions
import InteropGlue.Glue.Declarations
import InteropGlue.Glue.Events
import InteropGlue.Glue.Functions
import InteropGlue.Glue.Source
import InteropGlue.Library.Basic
import InteropGlue.Library.Check
import InteropGlue.Library.Containment
import InteropGlue.Library.Defect
import InteropGlue.Library.Kind
import InteropGlue.Library.OfSchema
import InteropGlue.Library.Primitive
import InteropGlue.Library.TypeText
import InteropGlue.Main
import InteropGlue.Proofs.CSharp.Arrangement
import InteropGlue.Proofs.CSharp.Assignment
import InteropGlue.Proofs.CSharp.BlockTyping
import InteropGlue.Proofs.CSharp.Evaluation
import InteropGlue.Proofs.CSharp.Layout
import InteropGlue.Proofs.CSharp.Methods
import InteropGlue.Proofs.CSharp.Multicast
import InteropGlue.Proofs.CSharp.Nesting
import InteropGlue.Proofs.CSharp.Objects
import InteropGlue.Proofs.CSharp.Places
import InteropGlue.Proofs.CSharp.Sequences
import InteropGlue.Proofs.CSharp.SpelledTypes
import InteropGlue.Proofs.CSharp.Steps
import InteropGlue.Proofs.CSharp.Typing
import InteropGlue.Proofs.CSharp.Uses
import InteropGlue.Proofs.CSharp.Value
import InteropGlue.Proofs.CSharp.Words
import InteropGlue.Proofs.Files.Disk
import InteropGlue.Proofs.Files.Runs
import InteropGlue.Proofs.Glue.Additions
import InteropGlue.Proofs.Glue.Annotations
import InteropGlue.Proofs.Glue.ApplicationSurface
import InteropGlue.Proofs.Glue.BlockStructure
import InteropGlue.Proofs.Glue.Constructors
import InteropGlue.Proofs.Glue.ConversionRuns
import InteropGlue.Proofs.Glue.ConversionTyping
import InteropGlue.Proofs.Glue.Copying
import InteropGlue.Proofs.Glue.CopyingValues
import InteropGlue.Proofs.Glue.EventAccessors
import InteropGlue.Proofs.Glue.EventCombinations
import InteropGlue.Proofs.Glue.EventFields
import InteropGlue.Proofs.Glue.EventForwarding
import InteropGlue.Proofs.Glue.EventFrames
import InteropGlue.Proofs.Glue.EventLayers
import InteropGlue.Proofs.Glue.EventProgress
import InteropGlue.Proofs.Glue.EventRegistration
import InteropGlue.Proofs.Glue.FunctionAssignment
import InteropGlue.Proofs.Glue.FunctionCalls
import InteropGlue.Proofs.Glue.FunctionLiveness
import InteropGlue.Proofs.Glue.FunctionMeaning
import InteropGlue.Proofs.Glue.FunctionProgress
import InteropGlue.Proofs.Glue.FunctionReturns
import InteropGlue.Proofs.Glue.FunctionTyping
import InteropGlue.Proofs.Glue.FunctionVariables
import InteropGlue.Proofs.Glue.Initialization
import InteropGlue.Proofs.Glue.Instances
import InteropGlue.Proofs.Glue.Members
import InteropGlue.Proofs.Glue.NamespaceNames
import InteropGlue.Proofs.Glue.NativeImages
import InteropGlue.Proofs.Glue.Overloads
import InteropGlue.Proofs.Glue.Overrides
import InteropGlue.Proofs.Glue.RecordConversion
import InteropGlue.Proofs.Glue.RecordCopies
import InteropGlue.Proofs.Glue.RecordRuns
import InteropGlue.Proofs.Glue.RoundTrip
import InteropGlue.Proofs.Glue.Routines
import InteropGlue.Proofs.Glue.SpelledTypes
import InteropGlue.Proofs.Glue.Targets
import InteropGlue.Proofs.Glue.UnconvertedValues
import InteropGlue.Proofs.Glue.WordedSource
import InteropGlue.Proofs.Library.Additions
import InteropGlue.Proofs.Library.Agreement
import InteropGlue.Proofs.Library.Annotations
import InteropGlue.Proofs.Library.Containment
import InteropGlue.Proofs.Library.Meaning
import InteropGlue.Proofs.Library.Names
import InteropGlue.Proofs.Library.Rules
import InteropGlue.Proofs.Library.Soundness
import InteropGlue.Proofs.Library.Spelling
import InteropGlue.Proofs.Library.ContainmentReport
import InteropGlue.Proofs.Library.TypeTexts
import InteropGlue.Proofs.Library.VoidTypes
import InteropGlue.Proofs.Library.Warnings
import InteropGlue.Proofs.Schema.Encodings
import InteropGlue.Proofs.Schema.RecordForms
import InteropGlue.Proofs.Text.CamelCase
import InteropGlue.Schema.Basic
import InteropGlue.Schema.Datum
import InteropGlue.Schema.Decode
import InteropGlue.Schema.Encode
import InteropGlue.Schema.Fault
import InteropGlue.Schema.OfDocument
import InteropGlue.Surface
import InteropGlue.Text.Alphanumeric
import InteropGlue.Text.Blank
import InteropGlue.Text.CamelCase
import InteropGlue.Text.LetterCase
import InteropGlue.Text.Printable
import InteropGlue.Text.Quoted
import InteropGlue.Toml.Document
import InteropGlue.Toml.Moment
import InteropGlue.Toml.Number
import InteropGlue.Toml.Table
import InteropGlue.Toml.Text
