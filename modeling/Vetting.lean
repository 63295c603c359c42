import Vetting.Text.Scan
import Vetting.Text.Lowercase
import Vetting.Text.Quoted
import Vetting.Json.Reader
import Vetting.Json.Writer
import Vetting.Decimal.Numeral
import Vetting.Session
import Vetting.Header
import Vetting.Identifier
import Vetting.TypeRecord.Decode
import Vetting.FileTree
import Vetting.SymbolIndex.Cache
import Vetting.Analysis
import Vetting.Workspace
import Vetting.Validator.Program
import Vetting.Validator.Hint.Expression
import Vetting.Validator.Descriptor
import Vetting.Validator.Definition
import Vetting.Validator.Host
import Vetting.CommandLine
import Vetting.Main
import Vetting.Proofs.Text.Line
import Vetting.Proofs.Sweep.Region
import Vetting.Proofs.Sweep.Token
import Vetting.Proofs.Sweep.Cut
import Vetting.Proofs.Sweep.Append
import Vetting.Proofs.Sweep.Excluded
import Vetting.Proofs.Sweep.LineComment
import Vetting.Proofs.Directive.Path
import Vetting.Proofs.Directive.Target
import Vetting.Proofs.Directive.Reading
import Vetting.Proofs.Directive.Written
import Vetting.Proofs.Directive.Line
import Vetting.Proofs.Directive.Taken
import Vetting.Proofs.Header.Item
import Vetting.Proofs.Header.Scan
import Vetting.Proofs.Header.Comment
import Vetting.Proofs.Header.RoundTrip
import Vetting.Proofs.Header.LeadingComment
import Vetting.Proofs.Header.TrailingComment
import Vetting.Proofs.Header.PlainRule
import Vetting.Proofs.Header.IndexKey
import Vetting.Proofs.UnusedImport
import Vetting.Proofs.UnusedImport.Appended
import Vetting.Proofs.UnusedImport.CarriageReturn
import Vetting.Proofs.Metadata.Entries
import Vetting.Proofs.Metadata.Loading
import Vetting.Proofs.Metadata.Isolation
import Vetting.Proofs.Metadata.Renaming
import Vetting.Proofs.Workspace
import Vetting.Proofs.Analysis
import Vetting.Proofs.Analysis.LazyIndex
import Vetting.Proofs.Validator.Batch
import Vetting.Proofs.Validator.Agreement
import Vetting.Proofs.Validator.Redefinition
import Vetting.Proofs.Validator.Lookup
import Vetting.Proofs.Validator.WholeClass
import Vetting.Proofs.CommandLine.Arguments
import Vetting.Proofs.CommandLine.Importing
import Vetting.Proofs.CommandLine.ExitCode
import Vetting.Proofs.Sweep.Identifier
import Vetting.Proofs.Directive.KeywordOrder
import Vetting.Proofs.Directive.Rules
import Vetting.Proofs.Header.Canonical
import Vetting.Proofs.Header.KeywordOrder
import Vetting.Proofs.SymbolIndex.Holdings
import Vetting.Proofs.SymbolIndex.WellFormed
import Vetting.Proofs.SymbolIndex.Key
import Vetting.Proofs.SymbolIndex.Cache
import Vetting.Proofs.UnusedImport.Merged
import Vetting.Proofs.Sources
