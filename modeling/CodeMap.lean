import CodeMap.Arrangement
import CodeMap.CommandLine.Flag
import CodeMap.CommandLine.Help
import CodeMap.CommandLine.Invocation
import CodeMap.Decimal.Binary64
import CodeMap.Decimal.Shortest
import CodeMap.Definitions
import CodeMap.Disk
import CodeMap.Element
import CodeMap.Event
import CodeMap.Export
import CodeMap.Extraction
import CodeMap.Main
import CodeMap.Model
import CodeMap.Mse.Entry
import CodeMap.Mse.Fault
import CodeMap.Mse.Listing
import CodeMap.Mse.Record
import CodeMap.Mse.Sexpr
import CodeMap.Mse.Token
import CodeMap.Path
import CodeMap.Program
import CodeMap.Relation
import CodeMap.Settings
import CodeMap.Source.Escape
import CodeMap.Source.Grammar.Expression
import CodeMap.Source.Grammar.Operand
import CodeMap.Source.Grammar.Parser
import CodeMap.Source.Grammar.Pattern
import CodeMap.Source.Grammar.Quotation
import CodeMap.Source.Grammar.Rule
import CodeMap.Source.Grammar.Signature
import CodeMap.Source.Grammar.Statement
import CodeMap.Source.Grammar.Target
import CodeMap.Source.Identifier
import CodeMap.Source.Lexer
import CodeMap.Source.Literal
import CodeMap.Source.Numeral
import CodeMap.Source.Parse
import CodeMap.Source.Token
import CodeMap.Source.Tree
import CodeMap.Source.Walk
import CodeMap.Table
import CodeMap.Text.Blank
import CodeMap.Text.CharRange
import CodeMap.Text.CharacterName
import CodeMap.Text.CharacterName.Alias
import CodeMap.Text.CharacterName.Alphabets
import CodeMap.Text.CharacterName.AncientScripts
import CodeMap.Text.CharacterName.Ideograph
import CodeMap.Text.CharacterName.Pictographs
import CodeMap.Text.CharacterName.Series
import CodeMap.Text.CharacterName.Syllabaries
import CodeMap.Text.CharacterName.Symbols
import CodeMap.Text.Digit
import CodeMap.Text.Dotted
import CodeMap.Text.Letter
import CodeMap.Text.Lines
import CodeMap.Text.Pieces
import CodeMap.Text.Printable
import CodeMap.Text.Quoted
import CodeMap.Text.Utf8
import CodeMap.Text.Wrap
import CodeMap.Usage.Builtin
import CodeMap.Usage.Chain
import CodeMap.Usage.Follow
import CodeMap.Usage.Infer
import CodeMap.Usage.Resolve
import CodeMap.Usage.State
import CodeMap.Usage.TypeSet
import CodeMap.Proofs.Recording
import CodeMap.Proofs.Site
import CodeMap.Proofs.Scope
import CodeMap.Proofs.Following
import CodeMap.Proofs.Collecting
import CodeMap.Proofs.Passes
import CodeMap.Proofs.ScopeAttribution
import CodeMap.Proofs.Numbering
import CodeMap.Proofs.RelationRecords
import CodeMap.Proofs.Integrity
import CodeMap.Proofs.Runs
import CodeMap.Proofs.KindAgreement
import CodeMap.Proofs.Naming
import CodeMap.Proofs.Nesting
import CodeMap.Proofs.Hierarchy
import CodeMap.Proofs.Foreign
import CodeMap.Proofs.Alongside
import CodeMap.Proofs.Repetition
import CodeMap.Proofs.Utf8
import CodeMap.Proofs.Lines
import CodeMap.Proofs.Contents
import CodeMap.Proofs.Listing
import CodeMap.Proofs.BriefLines
import CodeMap.Proofs.Comparison
import CodeMap.Proofs.Contribution
import CodeMap.Proofs.Apart
import CodeMap.Proofs.FileOrder
import CodeMap.Proofs.ParameterTypes
import CodeMap.Proofs.AssignedCall
import CodeMap.Proofs.Additions
import CodeMap.Proofs.ShortNames
import CodeMap.Proofs.FullNames
import CodeMap.Proofs.Lookup
import CodeMap.Proofs.PlainNames
import CodeMap.Proofs.ReadBack
import CodeMap.Proofs.Survivors
import CodeMap.Proofs.Enclosing
import CodeMap.Proofs.Variables
import CodeMap.Proofs.MemberCalls
import CodeMap.Proofs.HintedParameters
import CodeMap.Proofs.AttributeTypes
import CodeMap.Proofs.Balance
import CodeMap.Proofs.AttributeLookups
import CodeMap.Proofs.SettingsFile
