import Swatch.Binary64.Basic
import Swatch.Binary64.Decimal
import Swatch.Candidate
import Swatch.Color.Achromatic
import Swatch.Color.Basic
import Swatch.Color.Format
import Swatch.Color.Literal
import Swatch.Color.Name
import Swatch.CommandLine.Command
import Swatch.CommandLine.Run
import Swatch.CommandLine.Switch
import Swatch.Css.Component
import Swatch.Css.Declaration
import Swatch.Css.Finding
import Swatch.Css.Lexeme
import Swatch.Css.Stylesheet
import Swatch.Css.Token
import Swatch.Css.Value
import Swatch.Css.Variables
import Swatch.Css.Written
import Swatch.Entries
import Swatch.Extraction
import Swatch.ExtractionError
import Swatch.Journal.Event
import Swatch.Journal.Extraction
import Swatch.Journal.Topics
import Swatch.Json.Basic
import Swatch.Json.Relaxed
import Swatch.Json.Strict
import Swatch.Main
import Swatch.Options
import Swatch.Palette
import Swatch.Proofs.Binary64.Bounds
import Swatch.Proofs.Binary64.Nearness
import Swatch.Proofs.Binary64.Numerals
import Swatch.Proofs.Binary64.Rounding
import Swatch.Proofs.Binary64.Units
import Swatch.Proofs.Color.Alphas
import Swatch.Proofs.Color.Arguments
import Swatch.Proofs.Color.CallTexts
import Swatch.Proofs.Color.Channels
import Swatch.Proofs.Color.ExactNames
import Swatch.Proofs.Color.FullLightness
import Swatch.Proofs.Color.Gamut
import Swatch.Proofs.Color.Grammar
import Swatch.Proofs.Color.HueCircle
import Swatch.Proofs.Color.HueRereading
import Swatch.Proofs.Color.HueViews
import Swatch.Proofs.Color.Name
import Swatch.Proofs.Color.Rereading
import Swatch.Proofs.Color.Respelling
import Swatch.Proofs.Color.Settled
import Swatch.Proofs.Color.SettledHues
import Swatch.Proofs.Color.Spelling
import Swatch.Proofs.Color.Views
import Swatch.Proofs.Color.Written
import Swatch.Proofs.CommandLine.Extraction
import Swatch.Proofs.CommandLine.Lines
import Swatch.Proofs.CommandLine.Uses
import Swatch.Proofs.Css.ArgumentRows
import Swatch.Proofs.Css.CallRows
import Swatch.Proofs.Css.Delimited
import Swatch.Proofs.Css.Document
import Swatch.Proofs.Css.DocumentDeclarations
import Swatch.Proofs.Css.Faults
import Swatch.Proofs.Css.FunctionCalls
import Swatch.Proofs.Css.Inversion
import Swatch.Proofs.Css.Margins
import Swatch.Proofs.Css.Names
import Swatch.Proofs.Css.Nesting
import Swatch.Proofs.Css.Numerals
import Swatch.Proofs.Css.PlainText
import Swatch.Proofs.Css.PropertyNames
import Swatch.Proofs.Css.Reading
import Swatch.Proofs.Css.References
import Swatch.Proofs.Css.Rereading
import Swatch.Proofs.Css.Rows
import Swatch.Proofs.Css.Settling
import Swatch.Proofs.Css.Sound
import Swatch.Proofs.Css.Starts
import Swatch.Proofs.Css.Steady
import Swatch.Proofs.Css.Stops
import Swatch.Proofs.Css.Unmarked
import Swatch.Proofs.Css.Variables
import Swatch.Proofs.Extraction.ByDeclaration
import Swatch.Proofs.Extraction.Filters
import Swatch.Proofs.Extraction.Formats
import Swatch.Proofs.Extraction.Gradients
import Swatch.Proofs.Extraction.Joined
import Swatch.Proofs.Extraction.KeywordFormat
import Swatch.Proofs.Extraction.Literals
import Swatch.Proofs.Extraction.Properties
import Swatch.Proofs.Extraction.References
import Swatch.Proofs.Extraction.ValueInSheet
import Swatch.Proofs.Extraction.Variables
import Swatch.Proofs.Options
import Swatch.Proofs.Outcome
import Swatch.Proofs.Palette.AlphaByte
import Swatch.Proofs.Palette.Distinct
import Swatch.Proofs.Palette.Filtering
import Swatch.Proofs.Palette.Greys
import Swatch.Proofs.Palette.Idempotence
import Swatch.Proofs.Palette.Orders
import Swatch.Proofs.Palette.WholeChannels
import Swatch.Proofs.Settings.Caching
import Swatch.Proofs.Settings.Failures
import Swatch.Proofs.Settings.Files
import Swatch.Proofs.Settings.Identity
import Swatch.Proofs.Settings.Sharing
import Swatch.Proofs.Text.Classes
import Swatch.Proofs.Text.Digits
import Swatch.Proofs.Text.Trimming
import Swatch.Settings.Disk
import Swatch.Settings.Path
import Swatch.Settings.Session
import Swatch.Settings.Store
import Swatch.Text.Backslash
import Swatch.Text.Blank
import Swatch.Text.Case
import Swatch.Text.CaseTable
import Swatch.Text.CharName
import Swatch.Text.CharName.Alias
import Swatch.Text.CharName.Ancient
import Swatch.Text.CharName.Eastern
import Swatch.Text.CharName.Form
import Swatch.Text.CharName.Notation
import Swatch.Text.CharName.Pictograph
import Swatch.Text.CharName.Pictorial
import Swatch.Text.CharName.Run
import Swatch.Text.CharName.Southern
import Swatch.Text.CharName.Symbol
import Swatch.Text.CharName.Western
import Swatch.Text.Charset.Basic
import Swatch.Text.Charset.Big5
import Swatch.Text.Charset.Gb18030
import Swatch.Text.Charset.Gb2312
import Swatch.Text.Charset.Gbk
import Swatch.Text.Charset.Hangul
import Swatch.Text.Charset.Hkscs
import Swatch.Text.Charset.Jis208
import Swatch.Text.Charset.Jis212
import Swatch.Text.Charset.Jis213
import Swatch.Text.Charset.Ks1001
import Swatch.Text.CodePage
import Swatch.Text.DecodeFault
import Swatch.Text.Digit
import Swatch.Text.Direction
import Swatch.Text.Encoding
import Swatch.Text.EncodingName
import Swatch.Text.Half
import Swatch.Text.HostName
import Swatch.Text.Letter
import Swatch.Text.Multibyte.Basic
import Swatch.Text.Multibyte.Chinese
import Swatch.Text.Multibyte.Designated
import Swatch.Text.Multibyte.Japanese
import Swatch.Text.Multibyte.Korean
import Swatch.Text.Multibyte.Scheme
import Swatch.Text.Normal
import Swatch.Text.Normal.Class
import Swatch.Text.Normal.Compatible
import Swatch.Text.Normal.Composite
import Swatch.Text.Position
import Swatch.Text.Printable
import Swatch.Text.Punycode
import Swatch.Text.Quoted
import Swatch.Text.Utf7
