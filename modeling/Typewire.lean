import Typewire.Code.Declaration
import Typewire.Code.FieldText
import Typewire.Code.MessageText
import Typewire.Code.Render
import Typewire.Code.ServiceText
import Typewire.Code.Types
import Typewire.Console.Arguments
import Typewire.Console.Display
import Typewire.Console.FileTree
import Typewire.Console.Help
import Typewire.Console.Paragraph
import Typewire.Console.Report
import Typewire.Console.Run
import Typewire.Console.Table
import Typewire.Descriptor.Basic
import Typewire.Descriptor.Decode
import Typewire.Descriptor.Layout
import Typewire.Error
import Typewire.Generator
import Typewire.Main
import Typewire.Name.Basic
import Typewire.Name.Pool
import Typewire.Options
import Typewire.OrderedMap
import Typewire.Parameter
import Typewire.Path.Basic
import Typewire.Path.Relative
import Typewire.Response
import Typewire.Rounding
import Typewire.Rpc.Service
import Typewire.Rpc.Style
import Typewire.Schema.Basic
import Typewire.Schema.Kind
import Typewire.Schema.Load
import Typewire.Summary
import Typewire.Symbol.Basic
import Typewire.Symbol.Context
import Typewire.Symbol.Imports
import Typewire.Symbol.References
import Typewire.Symbol.Table
import Typewire.Text.ActionValue
import Typewire.Text.Alphanumeric
import Typewire.Text.Blank
import Typewire.Text.Cluster
import Typewire.Text.Color
import Typewire.Text.ColorNames
import Typewire.Text.Digit
import Typewire.Text.Dotted
import Typewire.Text.Emoji
import Typewire.Text.EmojiNames
import Typewire.Text.Escape
import Typewire.Text.Hex
import Typewire.Text.Identifier
import Typewire.Text.Integer
import Typewire.Text.Lines
import Typewire.Text.Literal
import Typewire.Text.Lowercase
import Typewire.Text.Markup
import Typewire.Text.Palette
import Typewire.Text.Printable
import Typewire.Text.Quoted
import Typewire.Text.Range
import Typewire.Text.Segment
import Typewire.Text.Similarity
import Typewire.Text.Style
import Typewire.Text.Styled
import Typewire.Text.Template
import Typewire.Text.Width
import Typewire.Text.Words
import Typewire.Text.Wrap
import Typewire.Version
import Typewire.Wire.Encode
import Typewire.Wire.Field
import Typewire.Wire.Record
import Typewire.Wire.Varint
import Typewire.Proofs.DottedNames
import Typewire.Proofs.FreshNames
import Typewire.Proofs.Scopes
import Typewire.Proofs.MentionedTypes
import Typewire.Proofs.SymbolSites
import Typewire.Proofs.SymbolTables
import Typewire.Proofs.ImportNames
import Typewire.Proofs.Spelling
import Typewire.Proofs.Building
import Typewire.Proofs.Lookup
import Typewire.Proofs.Emission
import Typewire.Proofs.Services
import Typewire.Proofs.Output
import Typewire.Proofs.LocalReferences
import Typewire.Proofs.ForeignReferences
import Typewire.Proofs.Independence
import Typewire.Proofs.Coverage
import Typewire.Proofs.ServiceNames
import Typewire.Proofs.DistinctNames
import Typewire.Proofs.Numbering
import Typewire.Proofs.PackageCapture
import Typewire.Proofs.Failures
import Typewire.Proofs.Legibility
import Typewire.Proofs.Places
import Typewire.Proofs.Writes
import Typewire.Proofs.Delivery
import Typewire.Proofs.Concatenation
import Typewire.Proofs.ResponseReading
import Typewire.Proofs.Brackets
import Typewire.Proofs.Characters
import Typewire.Proofs.ClassTemplates
import Typewire.Proofs.CodeTemplates
import Typewire.Proofs.Counting
import Typewire.Proofs.CarriedTexts
import Typewire.Proofs.WellBracketed
import Typewire.Proofs.LongestRuns
import Typewire.Proofs.ParameterGrammar
import Typewire.Proofs.LoadedPlaces
import Typewire.Proofs.MapEntries
import Typewire.Proofs.InheritedFeatures
import Typewire.Proofs.OneofGroups
import Typewire.Proofs.ModuleSpecifiers
import Typewire.Proofs.NameRequests
import Typewire.Proofs.GivenNames
import Typewire.Proofs.LocalPaths
import Typewire.Proofs.StringLiterals
import Typewire.Proofs.BytesDefaults
import Typewire.Proofs.ClassAccessors
import Typewire.Proofs.DependencyOrder
import Typewire.Proofs.NamespaceIndentation
import Typewire.Proofs.PackedEnumerations
import Typewire.Proofs.ShadowedGlobals
import Typewire.Proofs.DeclaredNames
import Typewire.Proofs.Numerals
import Typewire.Proofs.VersionForms
import Typewire.Proofs.ScopeWalk
