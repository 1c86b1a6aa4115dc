import BooksGateway.Charset
import BooksGateway.Charset.Chinese
import BooksGateway.Charset.CodePage
import BooksGateway.Charset.Escapes
import BooksGateway.Charset.Grid
import BooksGateway.Charset.Grid.Hangul
import BooksGateway.Charset.Grid.Hanzi
import BooksGateway.Charset.Grid.HongKong
import BooksGateway.Charset.Grid.Kanji
import BooksGateway.Charset.Grid.KanjiExtension
import BooksGateway.Charset.Grid.KanjiSupplement
import BooksGateway.Charset.Grid.TraditionalHanzi
import BooksGateway.Charset.Japanese
import BooksGateway.Charset.Japanese.Planes
import BooksGateway.Charset.Korean
import BooksGateway.Charset.Octets
import BooksGateway.Charset.Page.Console
import BooksGateway.Charset.Page.Desktop
import BooksGateway.Charset.Page.Mainframe
import BooksGateway.Charset.Page.Standard
import BooksGateway.Charset.Page.Windows
import BooksGateway.Charset.Punycode
import BooksGateway.Charset.Switched
import BooksGateway.Charset.Utf7
import BooksGateway.Charset.Utf8
import BooksGateway.Charset.Wide
import BooksGateway.ContentType
import BooksGateway.Credentials
import BooksGateway.Criteria
import BooksGateway.Criteria.Coercion
import BooksGateway.Criteria.Directive
import BooksGateway.Criteria.NamedKinds
import BooksGateway.Criteria.Validation
import BooksGateway.Entity
import BooksGateway.Entity.Field
import BooksGateway.Entity.Lookup
import BooksGateway.Exchange
import BooksGateway.Failure
import BooksGateway.Failure.Report
import BooksGateway.FrontDoor
import BooksGateway.Json.Reader
import BooksGateway.Json.Writer
import BooksGateway.Number.Binary64
import BooksGateway.Number.Numeral
import BooksGateway.Number.Shortest
import BooksGateway.Pairs
import BooksGateway.Platform.Client
import BooksGateway.Platform.Header
import BooksGateway.Platform.Limits
import BooksGateway.Proofs.Addresses
import BooksGateway.Proofs.Admission
import BooksGateway.Proofs.Assembly
import BooksGateway.Proofs.Bearer
import BooksGateway.Proofs.Coercion
import BooksGateway.Proofs.CompactTables
import BooksGateway.Proofs.Decimals
import BooksGateway.Proofs.Encoding
import BooksGateway.Proofs.Encoding.Directives
import BooksGateway.Proofs.Enforcement
import BooksGateway.Proofs.Exactness
import BooksGateway.Proofs.Faults
import BooksGateway.Proofs.FiniteNumbers
import BooksGateway.Proofs.Isolation
import BooksGateway.Proofs.Layout
import BooksGateway.Proofs.NumberText
import BooksGateway.Proofs.Page
import BooksGateway.Proofs.Paging
import BooksGateway.Proofs.Precedence
import BooksGateway.Proofs.Precision
import BooksGateway.Proofs.Presentation
import BooksGateway.Proofs.Reading
import BooksGateway.Proofs.Reading.Literals
import BooksGateway.Proofs.Reading.Unambiguous
import BooksGateway.Proofs.Registry
import BooksGateway.Proofs.Reporting
import BooksGateway.Proofs.Rounding
import BooksGateway.Proofs.Saying
import BooksGateway.Proofs.Sending
import BooksGateway.Proofs.ShortAnswers
import BooksGateway.Proofs.ShortCriteria
import BooksGateway.Proofs.Shortest
import BooksGateway.Proofs.Soundness
import BooksGateway.Proofs.Spelling
import BooksGateway.Proofs.Splitting
import BooksGateway.Proofs.Stability
import BooksGateway.Proofs.Tools
import BooksGateway.Proofs.Trimming
import BooksGateway.Proofs.Validity
import BooksGateway.Proofs.Versions
import BooksGateway.Proofs.Wholes
import BooksGateway.Proofs.Windows
import BooksGateway.Proofs.Windows.Course
import BooksGateway.Proofs.Windows.Outcome
import BooksGateway.Query
import BooksGateway.Query.Compile
import BooksGateway.Query.Freehand
import BooksGateway.Session
import BooksGateway.Session.Call
import BooksGateway.Session.Script
import BooksGateway.Session.Search
import BooksGateway.Settings
import BooksGateway.Text.Blank
import BooksGateway.Text.Case
import BooksGateway.Text.CaseTable
import BooksGateway.Text.CharName
import BooksGateway.Text.CharName.Aliases
import BooksGateway.Text.CharName.Alphabets
import BooksGateway.Text.CharName.Antiquity
import BooksGateway.Text.CharName.EastAsia
import BooksGateway.Text.CharName.Hieroglyphs
import BooksGateway.Text.CharName.Pictures
import BooksGateway.Text.CharName.Scripts
import BooksGateway.Text.CharName.Signs
import BooksGateway.Text.CharName.Symbols
import BooksGateway.Text.Digit
import BooksGateway.Text.Printable
import BooksGateway.Text.Quoted
import BooksGateway.Text.Ranges
import BooksGateway.Text.Words
import BooksGateway.Tool
import BooksGateway.Value
import BooksGateway.Value.Display
