import Nomenclator.Text.Basic
import Nomenclator.Unicode.Alphabetic
import Nomenclator.Unicode.CaseMapping
import Nomenclator.Unicode.Escaping
import Nomenclator.Unicode.Numeric
import Nomenclator.Unicode.Uppercase
import Nomenclator.Unicode.WhiteSpace
import Nomenclator.Word.Breaking
import Nomenclator.Word.Grouping
import Nomenclator.Word.Plural
import Nomenclator.Vocabulary.SymbolKind
import Nomenclator.Vocabulary.Accessibility
import Nomenclator.Vocabulary.Capitalization
import Nomenclator.Vocabulary.Severity
import Nomenclator.Vocabulary.Modifier
import Nomenclator.Vocabulary.Reserved
import Nomenclator.Vocabulary.PredefinedType
import Nomenclator.Vocabulary.Shape
import Nomenclator.Uuid
import Nomenclator.Symbol.Basic
import Nomenclator.Style.Compliance
import Nomenclator.Rules.Checking
import Nomenclator.Config.Reading
import Nomenclator.Text.Quoted
import Nomenclator.Decimal.Shortest
import Nomenclator.Json.Reader
import Nomenclator.Json.Collection
import Nomenclator.Json.Printer
import Nomenclator.Json.Identified
import Nomenclator.Vocabulary.Identifiers
import Nomenclator.Json.Field
import Nomenclator.Json.Record
import Nomenclator.Rules.Persistence
import Nomenclator.TypeRef.Basic
import Nomenclator.Json.Held
import Nomenclator.TypeRef.Persistence
import Nomenclator.Declaration.Persistence
import Nomenclator.Suggestion.Decomposition
import Nomenclator.Suggestion.Basic
import Nomenclator.Suggestion.Completion
import Nomenclator.CommandLine.Arguments
import Nomenclator.CommandLine.Execution
import Nomenclator.Main
import Nomenclator.Text.BreakOpportunity
import Nomenclator.Text.ControlSequence
import Nomenclator.Proofs.Style.Casing
import Nomenclator.Proofs.Text.Splitting
import Nomenclator.Proofs.Unicode.Classes
import Nomenclator.Proofs.Style.Rendering
import Nomenclator.Proofs.Style.Compliance
import Nomenclator.Proofs.Style.Fixing
import Nomenclator.Proofs.Suggestion.Provenance
import Nomenclator.Proofs.Distinct
import Nomenclator.Proofs.Suggestion.Candidates
import Nomenclator.Proofs.Word.Plural
import Nomenclator.Proofs.Suggestion.Compliance
import Nomenclator.Proofs.Config.Draft
import Nomenclator.Proofs.Config.Lines
import Nomenclator.Proofs.Config.Reading
import Nomenclator.Proofs.Word.Pieces
import Nomenclator.Proofs.Suggestion.Identifiers
import Nomenclator.Proofs.TypeRef.Inheritance
import Nomenclator.Proofs.Suggestion.Unguarded
import Nomenclator.Proofs.Uuid
import Nomenclator.Proofs.Json.Reading
import Nomenclator.Proofs.Json.Strings
import Nomenclator.Proofs.Json.Records
import Nomenclator.Proofs.Rules.Persistence
import Nomenclator.Proofs.Rules.Lookup
import Nomenclator.Proofs.Suggestion.Memo
import Nomenclator.Proofs.Unicode.CaseMapping
import Nomenclator.Proofs.Style.Unmarked
import Nomenclator.Proofs.Config.Renaming
import Nomenclator.Proofs.Config.KeyLines
import Nomenclator.Proofs.Unicode.WhiteSpace
import Nomenclator.Proofs.Config.Editing
import Nomenclator.Proofs.Config.Meaning
import Nomenclator.Proofs.Suggestion.Siblings
import Nomenclator.Proofs.Config.Symbols
import Nomenclator.Proofs.Rules.Stability
import Nomenclator.Proofs.Suggestion.Kinds
import Nomenclator.Proofs.Suggestion.Phrases
import Nomenclator.Proofs.Suggestion.Async
import Nomenclator.Proofs.Json.Values
import Nomenclator.Proofs.TypeRef.Persistence
import Nomenclator.Proofs.Declaration.Persistence
import Nomenclator.Proofs.Style.Agreement
import Nomenclator.Proofs.Suggestion.Plurals
import Nomenclator.Proofs.Suggestion.Layers
import Nomenclator.Proofs.Style.Separated
import Nomenclator.Proofs.Suggestion.DoubledAsync
import Nomenclator.Proofs.Style.Letters
import Nomenclator.Proofs.Style.Wordless
import Nomenclator.Proofs.Word.Rebreaking
import Nomenclator.Proofs.TypeRef.Identity
import Nomenclator.Proofs.Unicode.Lowercase
import Nomenclator.Proofs.TypeRef.Ancestry
import Nomenclator.Proofs.Word.Inflection
import Nomenclator.Proofs.Vocabulary.Tokens
import Nomenclator.Proofs.CommandLine.Checking
import Nomenclator.Proofs.Word.Grouping
import Nomenclator.Proofs.Symbol.Modifiers
