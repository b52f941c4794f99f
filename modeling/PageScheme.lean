import PageScheme.Command.Folder
import PageScheme.Command.Form
import PageScheme.Command.Mistake
import PageScheme.Command.Outcome
import PageScheme.Command.Request
import PageScheme.Command.Running
import PageScheme.Command.Similarity
import PageScheme.Command.Words
import PageScheme.Extraction
import PageScheme.Fault
import PageScheme.Json.Basic
import PageScheme.Json.ByteReader
import PageScheme.Json.Display
import PageScheme.Json.Encoding
import PageScheme.Json.Numeral
import PageScheme.Json.Printing
import PageScheme.Json.TextReader
import PageScheme.Limits
import PageScheme.Main
import PageScheme.Markup.Charset
import PageScheme.Markup.CodePage
import PageScheme.Markup.NamedCharacter
import PageScheme.Markup.Reading
import PageScheme.Markup.Reference
import PageScheme.Markup.Token
import PageScheme.Markup.Tree
import PageScheme.Number.Binary64
import PageScheme.Number.Shortest
import PageScheme.Page.InnerHtml
import PageScheme.Page.Locate
import PageScheme.Page.Node
import PageScheme.Page.Place
import PageScheme.Path
import PageScheme.Proofs.Command.Agreement
import PageScheme.Proofs.Command.Escaping
import PageScheme.Proofs.Document.Coherence
import PageScheme.Proofs.Document.Editing
import PageScheme.Proofs.Document.Sessions
import PageScheme.Proofs.Document.Spelled
import PageScheme.Proofs.Extraction.Alignment
import PageScheme.Proofs.Extraction.Counterparts
import PageScheme.Proofs.Extraction.Faults
import PageScheme.Proofs.Extraction.Locality
import PageScheme.Proofs.Extraction.Locating
import PageScheme.Proofs.Extraction.Modes
import PageScheme.Proofs.Extraction.Picking
import PageScheme.Proofs.Extraction.Rules
import PageScheme.Proofs.Extraction.Transposing
import PageScheme.Proofs.Page.Decoding
import PageScheme.Proofs.Scheme.Canonical
import PageScheme.Proofs.Scheme.Commutation
import PageScheme.Proofs.Scheme.ForeignNodes
import PageScheme.Proofs.Scheme.Idempotence
import PageScheme.Proofs.Scheme.Leftovers
import PageScheme.Proofs.Scheme.Outline
import PageScheme.Proofs.Scheme.Pages
import PageScheme.Proofs.Scheme.Populated
import PageScheme.Proofs.Scheme.ReadingBack
import PageScheme.Proofs.Scheme.Rebased
import PageScheme.Proofs.Scheme.Repopulating
import PageScheme.Proofs.Scheme.Spreading
import PageScheme.Scheme.Basic
import PageScheme.Scheme.Checking
import PageScheme.Scheme.Loading
import PageScheme.Scheme.Populate
import PageScheme.Scheme.Rebase
import PageScheme.Scheme.Sources
import PageScheme.Scheme.Writing
import PageScheme.Selector.Condition
import PageScheme.Selector.Demand
import PageScheme.Selector.Matching
import PageScheme.Selector.Parser
import PageScheme.Selector.Selection
import PageScheme.Selector.Series
import PageScheme.Selector.Syntax
import PageScheme.Selector.Token
import PageScheme.Session
import PageScheme.Text.Ascii
import PageScheme.Text.Blank
import PageScheme.Text.Digit
import PageScheme.Text.Letter
import PageScheme.Text.Lowercase
import PageScheme.Text.Printable
import PageScheme.Text.Utf8
