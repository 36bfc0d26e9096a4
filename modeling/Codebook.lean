import Codebook.Command.Basic
import Codebook.Command.Examine
import Codebook.Command.Serve
import Codebook.CommandLine
import Codebook.Decimal.Complex
import Codebook.Decimal.Double
import Codebook.Decimal.Rounded
import Codebook.Decimal.Shortest
import Codebook.Disk
import Codebook.Docstring
import Codebook.Document.Basic
import Codebook.Document.Json
import Codebook.Document.Markdown
import Codebook.Examination
import Codebook.Extractor
import Codebook.Glob
import Codebook.Ignore
import Codebook.Ini.Basic
import Codebook.Ini.File
import Codebook.Ini.Parser
import Codebook.Ini.Reference
import Codebook.Inspection
import Codebook.Live.Arithmetic
import Codebook.Live.Attribute
import Codebook.Live.Call
import Codebook.Live.Class
import Codebook.Live.Describe
import Codebook.Live.Doc
import Codebook.Live.Equality
import Codebook.Live.Evaluate
import Codebook.Live.Execute
import Codebook.Live.Hint
import Codebook.Live.Import
import Codebook.Live.Inherit
import Codebook.Live.Known
import Codebook.Live.Linearize
import Codebook.Live.Load
import Codebook.Live.Member
import Codebook.Live.Names
import Codebook.Live.Operation
import Codebook.Live.Raised
import Codebook.Live.SetOrder
import Codebook.Live.Show
import Codebook.Live.Signature
import Codebook.Live.Value
import Codebook.Live.Variable
import Codebook.Main
import Codebook.Notice
import Codebook.Outline.Basic
import Codebook.Outline.Module
import Codebook.Outline.Sample
import Codebook.Path
import Codebook.Proofs.AlikeDefinitions
import Codebook.Proofs.AlikeExpressions
import Codebook.Proofs.AlikeFiles
import Codebook.Proofs.AlikeRecords
import Codebook.Proofs.AlikeStores
import Codebook.Proofs.AlikeTexts
import Codebook.Proofs.BothDescriptions
import Codebook.Proofs.Collections
import Codebook.Proofs.ContentsLinks
import Codebook.Proofs.CurrentDirectory
import Codebook.Proofs.DefaultTests
import Codebook.Proofs.DefinedNames
import Codebook.Proofs.DirectoryLookups
import Codebook.Proofs.DiscoveryOrder
import Codebook.Proofs.Docstrings
import Codebook.Proofs.DocumentBlocks
import Codebook.Proofs.EncodedTexts
import Codebook.Proofs.EntryLines
import Codebook.Proofs.ExactOutline
import Codebook.Proofs.Examinations
import Codebook.Proofs.ExamineReports
import Codebook.Proofs.FileOrder
import Codebook.Proofs.FileTree
import Codebook.Proofs.FirstSeen
import Codebook.Proofs.GlobExpressions
import Codebook.Proofs.GlobParts
import Codebook.Proofs.GlobTexts
import Codebook.Proofs.IgnoreRules
import Codebook.Proofs.JsonDocuments
import Codebook.Proofs.JsonReading
import Codebook.Proofs.JsonValues
import Codebook.Proofs.LeadingDocstring
import Codebook.Proofs.Listing
import Codebook.Proofs.LiteralPatterns
import Codebook.Proofs.NewRegistry
import Codebook.Proofs.OutlineFailures
import Codebook.Proofs.OutlinedParameters
import Codebook.Proofs.Outlines
import Codebook.Proofs.PathText
import Codebook.Proofs.PatternDepth
import Codebook.Proofs.PatternLines
import Codebook.Proofs.PatternOrder
import Codebook.Proofs.Precedence
import Codebook.Proofs.Pruning
import Codebook.Proofs.RegistryRuns
import Codebook.Proofs.Relocation
import Codebook.Proofs.ReportedNames
import Codebook.Proofs.Result
import Codebook.Proofs.SampleOutline
import Codebook.Proofs.SectionsApart
import Codebook.Proofs.Sessions
import Codebook.Proofs.SettingsTexts
import Codebook.Proofs.SignatureTexts
import Codebook.Proofs.SilentSettings
import Codebook.Proofs.SkippedDirectories
import Codebook.Proofs.SourceDirectory
import Codebook.Proofs.StricterOptions
import Codebook.Proofs.TestGlobs
import Codebook.Proofs.TestPaths
import Codebook.Proofs.TestPatternOrder
import Codebook.Proofs.TextParts
import Codebook.Proofs.Walk
import Codebook.Proofs.WrittenFiles
import Codebook.Record.Basic
import Codebook.Record.Datum
import Codebook.Record.Decode
import Codebook.Record.Dump
import Codebook.Regex.Basic
import Codebook.Regex.Match
import Codebook.Regex.Parser
import Codebook.Registry
import Codebook.Registry.Program
import Codebook.Search
import Codebook.Source.Basic
import Codebook.Source.Capture
import Codebook.Source.Depth
import Codebook.Source.Encoding
import Codebook.Source.Escape
import Codebook.Source.Expression
import Codebook.Source.Lexer
import Codebook.Source.Module
import Codebook.Source.Parse
import Codebook.Source.Pattern
import Codebook.Source.Placement
import Codebook.Source.Printer
import Codebook.Source.Scope
import Codebook.Source.Statement
import Codebook.Source.Suspend
import Codebook.Source.Symbols
import Codebook.Source.Token
import Codebook.Source.Writable
import Codebook.TestNaming
import Codebook.Text.Blank
import Codebook.Text.CharTable
import Codebook.Text.CharacterName
import Codebook.Text.Charset
import Codebook.Text.Charset.Name
import Codebook.Text.Charset.UpperHalf
import Codebook.Text.Charset.Utf7
import Codebook.Text.DecompositionTable
import Codebook.Text.Folding
import Codebook.Text.Half
import Codebook.Text.Identifier
import Codebook.Text.Integer
import Codebook.Text.Lines
import Codebook.Text.Lower
import Codebook.Text.Margin
import Codebook.Text.NameTable
import Codebook.Text.Normal
import Codebook.Text.Part
import Codebook.Text.Printable
import Codebook.Text.Quoted
import Codebook.Text.Utf8
import Codebook.Text.Word
import Codebook.Tool
