import Artboard.Number.Scalar
import Artboard.Text.Range
import Artboard.Text.Blank
import Artboard.Text.DecimalDigit
import Artboard.Text.Printable
import Artboard.Text.Case
import Artboard.Text.Quoted
import Artboard.Text.Lines
import Artboard.Text.Percent
import Artboard.Text.Entity
import Artboard.Text.Template
import Artboard.Digest.Sha1
import Artboard.Json.Reader
import Artboard.Json.Writer
import Artboard.Affine
import Artboard.Fault
import Artboard.Css.Length
import Artboard.Css.ValueList
import Artboard.Css.Declarations
import Artboard.Design.Node
import Artboard.Design.Reader
import Artboard.Layout.Placement
import Artboard.Paint.Outline
import Artboard.Box
import Artboard.Typography.Segment
import Artboard.Settings
import Artboard.Scene.Composition
import Artboard.Classes.Shared
import Artboard.Classes.Semantic
import Artboard.Redundancy
import Artboard.Markup.Indent
import Artboard.Markup.Svg
import Artboard.Markup.Fragment
import Artboard.Render.Markup
import Artboard.Document.Page
import Artboard.Design.Writer
import Artboard.Scene.Writer
import Artboard.Paint.Writer
import Artboard.Document.Writer
import Artboard.CommandLine.Job
import Artboard.Main
import Artboard.Proofs.Scene.Placement
import Artboard.Proofs.Render.Overlay
import Artboard.Proofs.Css.ValueList
import Artboard.Proofs.Effects
import Artboard.Proofs.Scene.Shadows
import Artboard.Proofs.Render.Origin
import Artboard.Proofs.Scene.Patterns
import Artboard.Proofs.Classes.Size
import Artboard.Proofs.Render.Sharing
import Artboard.Proofs.Classes.Semantic
import Artboard.Proofs.Scene.Renaming
import Artboard.Proofs.Render.Renaming
import Artboard.Proofs.Document.Assembly
import Artboard.Proofs.Document.Naming
import Artboard.Proofs.Scene.Contract
import Artboard.Proofs.Render.Styles
import Artboard.Proofs.Render.Binding
import Artboard.Proofs.Document.Standalone
import Artboard.Proofs.Scene.Layouts
import Artboard.Proofs.Scene.Hidden
import Artboard.Proofs.Document.Hidden
import Artboard.Proofs.Render.Texts
import Artboard.Proofs.Scene.Stacking
import Artboard.Proofs.Scene.Overlap
import Artboard.Proofs.Render.Migration
import Artboard.Proofs.Render.References
import Artboard.Proofs.Scene.MaskGeometry
import Artboard.Proofs.Stroke.Corners
import Artboard.Proofs.Render.Strokes
import Artboard.Proofs.Render.Clipping
import Artboard.Proofs.Redundancy
import Artboard.Proofs.Render.PlainTexts
import Artboard.Proofs.BoundingBox
import Artboard.Proofs.Document.Viewport
import Artboard.Proofs.Layout.Reservation
import Artboard.Proofs.Classes.Sheet
import Artboard.Proofs.Css.Splitting
import Artboard.Proofs.Markup.Indentation
import Artboard.Proofs.Render.Gaps
import Artboard.Proofs.Stroke.Dashes
import Artboard.Proofs.Classes.Token
import Artboard.Proofs.Classes.Selectors
import Artboard.Proofs.Number.Canonical
