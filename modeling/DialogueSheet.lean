import DialogueSheet.Assets.Cache
import DialogueSheet.Assets.Guard
import DialogueSheet.Assets.Kind
import DialogueSheet.Card.Abilities
import DialogueSheet.Card.Gear
import DialogueSheet.Card.Header
import DialogueSheet.Card.Layout
import DialogueSheet.Card.Panel
import DialogueSheet.Card.Style
import DialogueSheet.Catalog.Catalog
import DialogueSheet.Catalog.Lazy
import DialogueSheet.Catalog.Name
import DialogueSheet.Catalog.Thinning
import DialogueSheet.Chat.Config
import DialogueSheet.Chat.Layout
import DialogueSheet.Chat.Style
import DialogueSheet.Color
import DialogueSheet.CommandLine.Needs
import DialogueSheet.CommandLine.Options
import DialogueSheet.CommandLine.Request
import DialogueSheet.CommandLine.Run
import DialogueSheet.Css.Declaration
import DialogueSheet.Css.Lexeme
import DialogueSheet.Css.Selector
import DialogueSheet.Css.Sheet
import DialogueSheet.Failure
import DialogueSheet.Files
import DialogueSheet.Items.Record
import DialogueSheet.Items.Tables
import DialogueSheet.Json.Reader
import DialogueSheet.Json.Value
import DialogueSheet.Json.Writer
import DialogueSheet.Layout.Canvas
import DialogueSheet.Layout.Flow
import DialogueSheet.Layout.Renderer
import DialogueSheet.Layout.Resources
import DialogueSheet.Layout.Watermark
import DialogueSheet.Localization.Label
import DialogueSheet.Localization.Language
import DialogueSheet.Localization.Tables
import DialogueSheet.Markup.Piece
import DialogueSheet.Markup.RichText
import DialogueSheet.Number.Binary
import DialogueSheet.Number.Decimal
import DialogueSheet.Number.Hexadecimal
import DialogueSheet.Raster.Codec
import DialogueSheet.Raster.Fit
import DialogueSheet.Raster.Image
import DialogueSheet.Raster.Pixel
import DialogueSheet.Raster.Pixmap
import DialogueSheet.Raster.Png
import DialogueSheet.Raster.Shape
import DialogueSheet.Script.Block
import DialogueSheet.Script.Reading
import DialogueSheet.Script.Segment
import DialogueSheet.Student.Badge
import DialogueSheet.Student.Decode
import DialogueSheet.Student.Record
import DialogueSheet.Student.Skill
import DialogueSheet.Student.StatKey
import DialogueSheet.Student.Stats
import DialogueSheet.Svg.Element
import DialogueSheet.Svg.FontSize
import DialogueSheet.Svg.Length
import DialogueSheet.Svg.Reach
import DialogueSheet.Svg.Usable
import DialogueSheet.Svg.ViewBox
import DialogueSheet.Sync.Plan
import DialogueSheet.Sync.Run
import DialogueSheet.Sync.Transfer
import DialogueSheet.Text.Blank
import DialogueSheet.Text.Casing
import DialogueSheet.Text.Digit
import DialogueSheet.Text.Edges
import DialogueSheet.Text.Hidden
import DialogueSheet.Text.Quoted
import DialogueSheet.Typeset.Cells
import DialogueSheet.Typeset.Font
import DialogueSheet.Typeset.Request
import DialogueSheet.Xml.Builder
import DialogueSheet.Xml.Character
import DialogueSheet.Xml.Content
import DialogueSheet.Xml.Doctype
import DialogueSheet.Xml.Document
import DialogueSheet.Xml.Lexeme
import DialogueSheet.Xml.Node
import DialogueSheet.Xml.Passage
import DialogueSheet.Xml.Reference
import DialogueSheet.Xml.Scope
import DialogueSheet.Xml.Value
import DialogueSheet.Main
import DialogueSheet.Proofs.Assets.Calls
import DialogueSheet.Proofs.Assets.Paths
import DialogueSheet.Proofs.Assets.Shared
import DialogueSheet.Proofs.Card.Chips
import DialogueSheet.Proofs.Card.Contained
import DialogueSheet.Proofs.Card.Cover
import DialogueSheet.Proofs.Card.Grids
import DialogueSheet.Proofs.Card.Sheet
import DialogueSheet.Proofs.Card.Strips
import DialogueSheet.Proofs.Catalog.Loading
import DialogueSheet.Proofs.Catalog.Normal
import DialogueSheet.Proofs.Catalog.Registering
import DialogueSheet.Proofs.Catalog.Resolving
import DialogueSheet.Proofs.Catalog.Search
import DialogueSheet.Proofs.Catalog.Thinned
import DialogueSheet.Proofs.Chat.Appending
import DialogueSheet.Proofs.Chat.Drawn
import DialogueSheet.Proofs.Chat.Framed
import DialogueSheet.Proofs.Chat.Settings
import DialogueSheet.Proofs.Chat.Sheet
import DialogueSheet.Proofs.Chat.Slots
import DialogueSheet.Proofs.Chat.Strips
import DialogueSheet.Proofs.Chat.Tails
import DialogueSheet.Proofs.Chat.TitleBar
import DialogueSheet.Proofs.Chat.Widths
import DialogueSheet.Proofs.Color.Printing
import DialogueSheet.Proofs.Color.Reading
import DialogueSheet.Proofs.Files.Joined
import DialogueSheet.Proofs.Files.Walking
import DialogueSheet.Proofs.Items.Favored
import DialogueSheet.Proofs.Items.Tiers
import DialogueSheet.Proofs.Json.Leaves
import DialogueSheet.Proofs.Json.Ordered
import DialogueSheet.Proofs.Json.Rows
import DialogueSheet.Proofs.Layout.Asking
import DialogueSheet.Proofs.Layout.Covered
import DialogueSheet.Proofs.Layout.Following
import DialogueSheet.Proofs.Layout.Measuring
import DialogueSheet.Proofs.Layout.Rendered
import DialogueSheet.Proofs.Layout.Running
import DialogueSheet.Proofs.Layout.Stacking
import DialogueSheet.Proofs.Markup.Cut
import DialogueSheet.Proofs.Markup.Expanded
import DialogueSheet.Proofs.Markup.Placeholders
import DialogueSheet.Proofs.Number.Bounds
import DialogueSheet.Proofs.Number.Nearest
import DialogueSheet.Proofs.Number.Rounding
import DialogueSheet.Proofs.Raster.Blending
import DialogueSheet.Proofs.Raster.Decoded
import DialogueSheet.Proofs.Raster.Fitted
import DialogueSheet.Proofs.Raster.Painting
import DialogueSheet.Proofs.Raster.Strokes
import DialogueSheet.Proofs.Script.Advice
import DialogueSheet.Proofs.Script.Erased
import DialogueSheet.Proofs.Script.Marks
import DialogueSheet.Proofs.Script.Numbered
import DialogueSheet.Proofs.Script.Outline
import DialogueSheet.Proofs.Script.Reading
import DialogueSheet.Proofs.Script.Segments
import DialogueSheet.Proofs.Script.Written
import DialogueSheet.Proofs.Student.Buffed
import DialogueSheet.Proofs.Student.Furniture
import DialogueSheet.Proofs.Student.Named
import DialogueSheet.Proofs.Student.Shown
import DialogueSheet.Proofs.Student.Thousands
import DialogueSheet.Proofs.Sync.Again
import DialogueSheet.Proofs.Sync.AnyOrder
import DialogueSheet.Proofs.Sync.Attempts
import DialogueSheet.Proofs.Sync.Covering
import DialogueSheet.Proofs.Sync.Crew
import DialogueSheet.Proofs.Sync.Gifts
import DialogueSheet.Proofs.Sync.Kept
import DialogueSheet.Proofs.Sync.Settled
import DialogueSheet.Proofs.Sync.Targets
import DialogueSheet.Proofs.Text.Lowered
import DialogueSheet.Proofs.Text.Trimmed
import DialogueSheet.Proofs.Typeset.Breaking
import DialogueSheet.Proofs.Typeset.Fewest
import DialogueSheet.Proofs.Typeset.Inked
import DialogueSheet.Proofs.Typeset.Rows
import DialogueSheet.Proofs.Typeset.Wrapped
