import Artboard.Markup.Fragment
import Artboard.Markup.Indent
import Artboard.Markup.Svg
import Artboard.Render.Box
import Artboard.Scene.Composition

/-!
# Markup of a scene

The tree of elements of a scene, in the content or in the overlay, and the rules
that the classes of the content need.
-/
namespace Artboard.Render

open Markup

variable {α : Type} [Scalar α]

/-- A rendering collects the classes in use and may stop at a fault. -/
abbrev Rendering := StateT Classes.UtilitySet (Except Fault)

def svgUrl (template file : String) : Except Fault String :=
  match Text.expandTemplate (fun name => if name = "svg_file" then some file else none) template with
  | .ok url => .ok url
  | .error cause => .error (.template cause)

/-- The drawing inside a vector box, if it is well formed. -/
def drawing? (box : SceneBox α) : Option Element :=
  match box.kind, box.content with
  | .svg, .svg markup => readSvg markup
  | _, _ => none

/-- The attribute that names the file of a vector box in the overlay. -/
def fileAttribute (mode : Mode) (box : SceneBox α) : List (String × String) :=
  match mode, box.kind, drawing? box, box.svgFile with
  | .overlay, .svg, none, some file => [("data-svg-file", file)]
  | _, _, _, _ => []

/-- What a vector box holds. -/
def vectorContent (tables : Tables) (box : SceneBox α) : Except Fault Fragment :=
  match tables.mode, drawing? box, box.svgFile with
  | .content, some drawing, _ => .ok ⟨[], [drawing]⟩
  | .content, none, some file => do
    let url ← svgUrl tables.svgUrlTemplate file
    return ⟨[], [.plain "img" [("src", url), ("alt", "")] []]⟩
  | .overlay, some drawing, _ => .ok ⟨[], [drawing.outlined]⟩
  | _, _, _ => .ok .empty

/-- Markup can be read only if it can be encoded. -/
def checkEncodable (markup : List Char) : Except Fault Unit :=
  match Text.encodingError? markup with
  | some cause => .error (.unencodable cause)
  | none => .ok ()

/-- What a box holds apart from other boxes. -/
def ownContent (tables : Tables) (box : SceneBox α) : Except Fault Fragment := do
  match box.kind, box.content, tables.mode with
  | .text, .text markup, .content =>
    checkEncodable (wrapped markup)
    return readFragment markup
  | .svg, .svg markup, _ =>
    checkEncodable markup.toList
    vectorContent tables box
  | .svg, _, _ => vectorContent tables box
  | _, _, _ => .ok .empty

/-- The element of a box around its content. -/
def boxElement (tables : Tables) (box : SceneBox α) (styling : Styling) (content : Fragment)
    (children : List Element) : Element :=
  let attributes := boxAttributes tables.mode box (fileAttribute tables.mode box) styling
  match Element.plain "div" attributes [] with
  | .mk head _ => .mk { head with text := content.text } (content.elements ++ children)

/-- The styling of the element that carries a box, and the outer element's declarations when the
box is wrapped. -/
def boxStyling (tables : Tables) (box : SceneBox α) :
    Except Fault (Styling × Option Css.Declarations) :=
  match box.layout.wrapper with
  | none => do
    let bag ← singleCss tables box
    let (width, height) := sizeClasses tables box.layout
    return (styling tables box (width.toList ++ height.toList) (box.kind != .svg) bag, none)
  | some wrapper => do
    let (inner, outer) ← wrappedCss box wrapper
    return (styling tables box [] false inner, some outer)

mutual

/-- The element of a box and of what is below it. -/
def renderNode (tables : Tables) : SceneNode α → Rendering Element
  | .mk box children => do
    let (styling, outer) ← boxStyling tables box
    modify fun used => used.add styling.utilities
    let content ← ownContent tables box
    let below ← renderNodes tables children
    let element := boxElement tables box styling content below
    match outer with
    | none => return element
    | some outer => return .plain "div" (wrapperAttributes tables.mode box outer) [element]

def renderNodes (tables : Tables) : List (SceneNode α) → Rendering (List Element)
  | [] => return []
  | node :: rest => do
    let first ← renderNode tables node
    let more ← renderNodes tables rest
    return first :: more

end

structure RenderedMarkup where
  elements : List Element
  css : String

/-- The parts of a text that are not empty, joined. -/
def joinGiven (separator : String) (parts : List String) : String :=
  String.intercalate separator (parts.filter fun part => !part.isEmpty)

/-- The rules that the classes and the pseudo-elements of the content need. -/
def contentCss (scene : CompiledScene α) (tables : Tables) (used : Classes.UtilitySet) : String :=
  match tables.mode with
  | .overlay => ""
  | .content => joinGiven "\n" [scene.rules.css, used.css "", tables.shared.css]

/-- The markup of a scene in one mode. -/
def renderScene (mode : Mode) (settings : Settings) (scene : CompiledScene α) :
    Except Fault RenderedMarkup := do
  let tables := Tables.ofScene mode settings scene.nodes
  let (elements, used) ← (renderNodes tables scene.nodes).run .empty
  return { elements, css := contentCss scene tables used }

def modeOf (name : String) : Except Fault Mode :=
  match name with
  | "content" => .ok .content
  | "debug" => .ok .overlay
  | _ => .error (.unknownMode name)

end Artboard.Render
