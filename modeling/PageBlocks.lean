import PageBlocks.Block.Node
import PageBlocks.Block.Role
import PageBlocks.Block.Stamp
import PageBlocks.Block.Walk
import PageBlocks.Charset.Declaration
import PageBlocks.Charset.Decoder
import PageBlocks.Charset.DoubleByte
import PageBlocks.Charset.Encoding
import PageBlocks.Charset.EucJp
import PageBlocks.Charset.Gb18030
import PageBlocks.Charset.Iso2022Jp
import PageBlocks.Charset.Jis0208
import PageBlocks.Charset.UpperHalf
import PageBlocks.Charset.Utf16
import PageBlocks.Charset.Utf8
import PageBlocks.Cli
import PageBlocks.Cli.Folder
import PageBlocks.Convert.Builder
import PageBlocks.Convert.Config
import PageBlocks.Convert.Converter
import PageBlocks.Convert.Emission
import PageBlocks.Convert.Error
import PageBlocks.Convert.Options
import PageBlocks.Convert.Result
import PageBlocks.Emit.Divi
import PageBlocks.Emit.Elementor
import PageBlocks.Emit.Escape
import PageBlocks.Emit.Gutenberg
import PageBlocks.Emit.Shortcode
import PageBlocks.Id.ChaCha
import PageBlocks.Id.ElementId
import PageBlocks.Image.Cache
import PageBlocks.Image.Placement
import PageBlocks.Image.Source
import PageBlocks.Image.Store
import PageBlocks.Json.Decode
import PageBlocks.Json.Numeral
import PageBlocks.Json.Pretty
import PageBlocks.Json.Reader
import PageBlocks.Json.Value
import PageBlocks.Main
import PageBlocks.Markup.Arena
import PageBlocks.Markup.Attribute
import PageBlocks.Markup.Construction.Body
import PageBlocks.Markup.Construction.Foreign
import PageBlocks.Markup.Construction.Formatting
import PageBlocks.Markup.Construction.Head
import PageBlocks.Markup.Construction.State
import PageBlocks.Markup.Construction.Step
import PageBlocks.Markup.Construction.Table
import PageBlocks.Markup.Entity
import PageBlocks.Markup.Lexer
import PageBlocks.Markup.Node
import PageBlocks.Markup.Parser
import PageBlocks.Markup.Tag
import PageBlocks.Markup.Token
import PageBlocks.Markup.Writer
import PageBlocks.Page.Landmarks
import PageBlocks.Page.Preparation
import PageBlocks.Page.Source
import PageBlocks.Page.Styles
import PageBlocks.Style.Parser
import PageBlocks.Style.Rule
import PageBlocks.Style.Scanner
import PageBlocks.Style.Scope
import PageBlocks.Text.Ascii
import PageBlocks.Text.Blank
import PageBlocks.Text.Replace
import PageBlocks.Unicode.Composition
import PageBlocks.Unicode.Direction
import PageBlocks.Unicode.Joining
import PageBlocks.Unicode.Mapping
import PageBlocks.Unicode.Normal
import PageBlocks.Unicode.Table
import PageBlocks.Url.Address
import PageBlocks.Url.Basic
import PageBlocks.Url.Domain
import PageBlocks.Url.Host
import PageBlocks.Url.Label
import PageBlocks.Url.Parser
import PageBlocks.Url.Path
import PageBlocks.Url.Percent
import PageBlocks.Url.Punycode
import PageBlocks.Proofs.Block.Images
import PageBlocks.Proofs.Block.LiveWalk
import PageBlocks.Proofs.Block.Origins
import PageBlocks.Proofs.Block.Path
import PageBlocks.Proofs.Block.Recursion
import PageBlocks.Proofs.Block.Rewalk
import PageBlocks.Proofs.Block.Stamping
import PageBlocks.Proofs.Block.WellFormed
import PageBlocks.Proofs.Charset.Ascii
import PageBlocks.Proofs.Convert.Agreement
import PageBlocks.Proofs.Convert.Alike
import PageBlocks.Proofs.Convert.ElementIds
import PageBlocks.Proofs.Convert.Failures
import PageBlocks.Proofs.Convert.PostText
import PageBlocks.Proofs.Convert.Prepared
import PageBlocks.Proofs.Convert.Reconverted
import PageBlocks.Proofs.Convert.Saved
import PageBlocks.Proofs.Convert.Session
import PageBlocks.Proofs.Convert.StyleMarkup
import PageBlocks.Proofs.Convert.Uploads
import PageBlocks.Proofs.Divi.Brackets
import PageBlocks.Proofs.Divi.Items
import PageBlocks.Proofs.Divi.Literal
import PageBlocks.Proofs.Elementor.Items
import PageBlocks.Proofs.Elementor.Tree
import PageBlocks.Proofs.Emit.ItemReader
import PageBlocks.Proofs.Emit.Unescape
import PageBlocks.Proofs.Emit.UnescapedMark
import PageBlocks.Proofs.Emit.WrittenTag
import PageBlocks.Proofs.Gutenberg.Attributes
import PageBlocks.Proofs.Gutenberg.Delimiters
import PageBlocks.Proofs.Gutenberg.Guard
import PageBlocks.Proofs.Gutenberg.Held
import PageBlocks.Proofs.Gutenberg.Items
import PageBlocks.Proofs.Gutenberg.Kinds
import PageBlocks.Proofs.Gutenberg.Pieces
import PageBlocks.Proofs.Gutenberg.ReadBack
import PageBlocks.Proofs.Gutenberg.Reread
import PageBlocks.Proofs.Id.Issuing
import PageBlocks.Proofs.Image.Calls
import PageBlocks.Proofs.Image.Inline
import PageBlocks.Proofs.Image.Placing
import PageBlocks.Proofs.Image.Recency
import PageBlocks.Proofs.Json.Fields
import PageBlocks.Proofs.Json.Numbers
import PageBlocks.Proofs.Json.Quotes
import PageBlocks.Proofs.Json.Records
import PageBlocks.Proofs.Json.Reread
import PageBlocks.Proofs.Json.Sorted
import PageBlocks.Proofs.Json.Spelling
import PageBlocks.Proofs.Json.Strings
import PageBlocks.Proofs.Markup.Body
import PageBlocks.Proofs.Markup.Building
import PageBlocks.Proofs.Markup.CellTree
import PageBlocks.Proofs.Markup.Elements
import PageBlocks.Proofs.Markup.Fragment
import PageBlocks.Proofs.Markup.LinkedTree
import PageBlocks.Proofs.Markup.Links
import PageBlocks.Proofs.Markup.Marks
import PageBlocks.Proofs.Markup.Nesting
import PageBlocks.Proofs.Markup.Numbered
import PageBlocks.Proofs.Markup.Plain
import PageBlocks.Proofs.Markup.RawText
import PageBlocks.Proofs.Markup.ReadableCells
import PageBlocks.Proofs.Markup.ReadableNames
import PageBlocks.Proofs.Markup.ReadableTokens
import PageBlocks.Proofs.Markup.ReadableTree
import PageBlocks.Proofs.Markup.Reading
import PageBlocks.Proofs.Markup.References
import PageBlocks.Proofs.Markup.Running
import PageBlocks.Proofs.Markup.Scaffold.Cells
import PageBlocks.Proofs.Markup.Scaffold.Course
import PageBlocks.Proofs.Markup.Scaffold.Ending
import PageBlocks.Proofs.Markup.Scaffold.Growth
import PageBlocks.Proofs.Markup.Scaffold.Inside
import PageBlocks.Proofs.Markup.Scaffold.Selections
import PageBlocks.Proofs.Markup.Scaffold.Shown
import PageBlocks.Proofs.Markup.Scaffold.Stack
import PageBlocks.Proofs.Markup.Scaffold.Stages
import PageBlocks.Proofs.Markup.Scaffold.Tables
import PageBlocks.Proofs.Markup.Scaffold.Templates
import PageBlocks.Proofs.Markup.Scaffold.Text
import PageBlocks.Proofs.Markup.Scaffold.Trees
import PageBlocks.Proofs.Markup.Settled
import PageBlocks.Proofs.Markup.ShownTags
import PageBlocks.Proofs.Markup.StartTags
import PageBlocks.Proofs.Markup.Tags
import PageBlocks.Proofs.Page.Container
import PageBlocks.Proofs.Page.Preparation
import PageBlocks.Proofs.Page.ReadText
import PageBlocks.Proofs.Page.ShownStyles
import PageBlocks.Proofs.Page.Split
import PageBlocks.Proofs.Page.StyleExtraction
import PageBlocks.Proofs.Style.AsRead
import PageBlocks.Proofs.Style.Braces
import PageBlocks.Proofs.Style.Canonical
import PageBlocks.Proofs.Style.OctetRules
import PageBlocks.Proofs.Style.OctetScan
import PageBlocks.Proofs.Style.QuotedComments
import PageBlocks.Proofs.Style.Quotes
import PageBlocks.Proofs.Style.Reread
import PageBlocks.Proofs.Style.Rescope
import PageBlocks.Proofs.Style.Scan
import PageBlocks.Proofs.Style.Selectors
import PageBlocks.Proofs.Style.Statements
import PageBlocks.Proofs.Style.Subtexts
import PageBlocks.Proofs.Style.Take
import PageBlocks.Proofs.Style.Taken
import PageBlocks.Proofs.Style.Tokens
import PageBlocks.Proofs.Text.Letters
import PageBlocks.Proofs.Text.Octets
import PageBlocks.Proofs.Text.Places
import PageBlocks.Proofs.Text.Replace
import PageBlocks.Proofs.Text.Trim
import PageBlocks.Proofs.Text.Words
import PageBlocks.Proofs.Url.Scheme
