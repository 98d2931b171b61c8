import FrontEnd.Fault
import FrontEnd.Buffer
import FrontEnd.Utf8
import FrontEnd.Utf8.Cursor
import FrontEnd.Unicode.Ranges
import FrontEnd.Unicode.Whitespace
import FrontEnd.Unicode.Alphabetic
import FrontEnd.Unicode.Numeric
import FrontEnd.Unicode.Escaped
import FrontEnd.Unicode.Quoted
import FrontEnd.Number.Digits
import FrontEnd.Number.Binary64
import FrontEnd.Token.Symbol
import FrontEnd.Token.Keyword
import FrontEnd.Token.Kind
import FrontEnd.Token
import FrontEnd.Memory.Block
import FrontEnd.Memory.Scalar
import FrontEnd.Memory.Arena
import FrontEnd.Memory.Region
import FrontEnd.Memory.Cell
import FrontEnd.Memory.Workspace
import FrontEnd.Lexer.Options
import FrontEnd.Lexer.Error
import FrontEnd.Lexer.Scan
import FrontEnd.Lexer
import FrontEnd.Proofs.Buffer
import FrontEnd.Proofs.Maintains
import FrontEnd.Proofs.Utf8.Codec
import FrontEnd.Proofs.Utf8.Encoding
import FrontEnd.Proofs.Utf8.Ascii
import FrontEnd.Proofs.Utf8.Text
import FrontEnd.Proofs.Utf8.Boundary
import FrontEnd.Proofs.Utf8.Walk
import FrontEnd.Proofs.Utf8.Drain
import FrontEnd.Proofs.Utf8.Visits
import FrontEnd.Proofs.Utf8.Runs
import FrontEnd.Proofs.Number.Decimal
import FrontEnd.Proofs.Memory.Operations
import FrontEnd.Proofs.Memory.Rounding
import FrontEnd.Proofs.Memory.Placement
import FrontEnd.Proofs.Memory.Alike
import FrontEnd.Proofs.Memory.Discreet
import FrontEnd.Proofs.Memory.Session
import FrontEnd.Proofs.Memory.RegionFrame
import FrontEnd.Proofs.Memory.Heap
import FrontEnd.Proofs.Memory.Contents
import FrontEnd.Proofs.Memory.Layout
import FrontEnd.Proofs.Memory.Soundness
import FrontEnd.Proofs.Memory.Steps
import FrontEnd.Proofs.Memory.Refinement
import FrontEnd.Proofs.Memory.Resizing
import FrontEnd.Proofs.Memory.Released
import FrontEnd.Proofs.Memory.Seat
import FrontEnd.Proofs.Memory.Alignment
import FrontEnd.Proofs.Memory.Bookkeeping
import FrontEnd.Proofs.Memory.Faults
import FrontEnd.Proofs.Memory.Evasion
import FrontEnd.Proofs.Memory.Shortage
import FrontEnd.Proofs.Memory.Scalars
import FrontEnd.Proofs.Memory.Elements
import FrontEnd.Proofs.Memory.Ownership
import FrontEnd.Proofs.Memory.Openings
import FrontEnd.Proofs.Lexer.Extent
import FrontEnd.Proofs.Lexer.Staging
import FrontEnd.Proofs.Lexer.Reading
import FrontEnd.Proofs.Lexer.Tiling
import FrontEnd.Proofs.Lexer.Answer
import FrontEnd.Proofs.Lexer.Scratch
import FrontEnd.Proofs.Lexer.Spent
import FrontEnd.Proofs.Lexer.Numerals
import FrontEnd.Proofs.Lexer.Separators
import FrontEnd.Proofs.Lexer.SideBySide
import FrontEnd.Proofs.Lexer.Iterator
import FrontEnd.Proofs.Lexer.Restart
import FrontEnd.Proofs.Lexer.ScratchFrame
import FrontEnd.Proofs.Lexer.Conversion
import FrontEnd.Proofs.Lexer.Exhaustion
import FrontEnd.Proofs.Lexer.Abreast
import FrontEnd.Proofs.Lexer.Classes
import FrontEnd.Proofs.Lexer.Quotes
import FrontEnd.Proofs.Lexer.Printing
import FrontEnd.Proofs.Lexer.RoundTrip
import FrontEnd.Proofs.Lexer.Stops
import FrontEnd.Proofs.Lexer.Handling
import FrontEnd.Proofs.Lexer.Limit
import FrontEnd.Proofs.Lexer.Tokens
import FrontEnd.Proofs.Lexer.Lexemes
import FrontEnd.Proofs.Lexer.TokenText
import FrontEnd.Proofs.Lexer.Alone
import FrontEnd.Proofs.Number.Nearest
import FrontEnd.Proofs.Number.Value
import FrontEnd.Proofs.Lexer.Literals
import FrontEnd.Proofs.Lexer.Decimals
import FrontEnd.Proofs.Lexer.Prefixes
import FrontEnd.Proofs.Lexer.Kinds
import FrontEnd.Proofs.Lexer.Succession
import FrontEnd.Proofs.Lexer.Strings
import FrontEnd.Proofs.Lexer.Symbols
import FrontEnd.Proofs.Lexer.Words
import FrontEnd.Proofs.Lexer.Naming
import FrontEnd.Proofs.Lexer.Refusals
import FrontEnd.Proofs.Lexer.Trivia
import FrontEnd.Proofs.Lexer.Rewinding
import FrontEnd.Proofs.Lexer.Lookahead
