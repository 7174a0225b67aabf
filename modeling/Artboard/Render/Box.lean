import Artboard.Classes.Semantic
import Artboard.Markup.Element
import Artboard.Redundancy
import Artboard.Render.Shadow
import Artboard.Render.Tables

/-!
# Boxes as elements

A box without a wrapper is one element with its place, its size, its part in the
flow and its style. A wrapped box is two: the outer element takes the place in
the flow, and the inner one is centred in it at its true size and carries the
transform. In the overlay only geometry is declared.
-/
namespace Artboard.Render

variable {α : Type} [Scalar α]

/-- The properties that the overlay declares. -/
def geometryProperties : List String :=
  ["position", "left", "top", "right", "bottom", "width", "height", "min-width", "min-height",
   "max-width", "max-height", "margin", "margin-top", "margin-left", "padding", "box-sizing",
   "display", "flex-direction", "flex-wrap", "justify-content", "align-items", "align-self",
   "flex-grow", "flex-shrink", "flex-basis", "gap", "row-gap", "column-gap", "transform",
   "transform-origin", "z-index"]

/-- What places an item among its siblings; it stays on the outer element of a wrapped box. -/
def placingProperties : List String := ["z-index", "margin-top", "margin-left"]

def shapeClass (type : String) : String :=
  match [("RECTANGLE", "rect"), ("ELLIPSE", "ellipse"), ("LINE", "line")].lookup type with
  | some name => name
  | none => Text.lowerText type

/-- The classes of a kind of box. -/
def kindClasses (box : SceneBox α) : List String :=
  match box.kind with
  | .frame => if box.isMask then ["frame", "mask-container"] else ["frame"]
  | .text => ["text"]
  | .svg => ["svg-container"]
  | .shape => ["shape", shapeClass box.type]

/-- The declarations that carry the look of a box. -/
def visualCss (box : SceneBox α) : Css.Declarations :=
  if box.kind = .frame then box.layout.containerCss.update box.declarations else box.declarations

def positionDeclarations (layout : Layout α) : Except Fault (List Css.Declaration) := do
  let place := [("position", layout.position.css), ("left", Css.px layout.left),
    ("top", Css.px layout.top)]
  if layout.transform.isIdentity then return place
  let transform ← Css.linearMatrix layout.transform
  return place ++ [("transform-origin", layout.origin.css), ("transform", transform)]

/-- A size as a class where one is given, else as a declaration. -/
def sizeDeclaration (name value : String) (sizeClass : Option String) : List Css.Declaration :=
  if sizeClass.isSome then [] else [(name, value)]

/-- The size classes of a box. -/
def sizeClasses (tables : Tables) (layout : Layout α) : Option String × Option String :=
  match tables.mode with
  | .content => (tables.sizes.widthClass layout, tables.sizes.heightClass layout)
  | .overlay => (none, none)

/-- What decides whether a declaration of a box without a wrapper is redundant. -/
def singleContext (box : SceneBox α) (bag : Css.Declarations) : BoxContext where
  position := some box.layout.position.css
  rotatesOrScales := box.layout.transform.rotatesOrScales
  display := bag.get? "display"
  isText := box.kind == .text

/-- Everything that a box without a wrapper declares, with these sizes. -/
def sizedCss (box : SceneBox α) (size : List Css.Declaration) :
    Except Fault Css.Declarations := do
  let position ← positionDeclarations box.layout
  let bag := (Css.Declarations.ofList (position ++ size)).update box.layout.itemCss
    |>.update (visualCss box)
  return (singleContext box bag).prune bag

/-- Everything that a box without a wrapper declares, with its size classes taken out. -/
def singleCss (tables : Tables) (box : SceneBox α) : Except Fault Css.Declarations :=
  let (width, height) := sizeClasses tables box.layout
  sizedCss box (sizeDeclaration "width" box.layout.widthCss width ++
    sizeDeclaration "height" box.layout.heightCss height)

/-- What the outer element of a wrapped box declares before shadows move to it. -/
def outerCss (box : SceneBox α) : Css.Declarations :=
  let layout := box.layout
  (Css.Declarations.ofList
    [("position", layout.position.css), ("left", Css.px layout.left), ("top", Css.px layout.top),
     ("width", layout.widthCss), ("height", layout.heightCss)]).update layout.itemCss
    |>.update ((visualCss box).subset placingProperties)

/-- How the inner element is centred. -/
def centeringDeclarations (layout : Layout α) (wrapper : Wrapper α) :
    Except Fault (List Css.Declaration) := do
  if wrapper.centering = .inset ∧ layout.transform.isIdentity = true then
    return [("left", "0"), ("top", "0"), ("right", "0"), ("bottom", "0"), ("margin", "auto")]
  let center := "translate(-50%,-50%)"
  let transform ←
    if layout.transform.isIdentity then .ok center
    else do
      let matrix ← Css.linearMatrix layout.transform
      .ok (center ++ " " ++ matrix)
  return [("left", "50%"), ("top", "50%"), ("transform-origin", "center"), ("transform", transform)]

/-- What the inner element of a wrapped box declares before its shadows move. -/
def innerCss (box : SceneBox α) (wrapper : Wrapper α) : Except Fault Css.Declarations := do
  let centering ← centeringDeclarations box.layout wrapper
  return (Css.Declarations.ofList ([("position", "absolute")] ++ centering ++
    [("width", Css.px wrapper.contentWidth), ("height", Css.px wrapper.contentHeight)])).update
      ((visualCss box).without placingProperties)

/-- The declarations of the inner and of the outer element of a wrapped box. -/
def wrappedCss (box : SceneBox α) (wrapper : Wrapper α) :
    Except Fault (Css.Declarations × Css.Declarations) := do
  let inner ← innerCss box wrapper
  let (inner, outer) :=
    if box.layout.transform.isIdentity then (inner, outerCss box)
    else migrateShadows inner (outerCss box)
  let outerContext : BoxContext :=
    { position := some box.layout.position.css, rotatesOrScales := false, display := none
      isText := false }
  let innerContext : BoxContext :=
    { position := some "absolute", rotatesOrScales := true, display := inner.get? "display"
      isText := box.kind == .text }
  return (innerContext.prune inner, outerContext.prune outer)

/-- The classes and the declarations that an element of the content carries. -/
structure Styling where
  classes : List String
  /-- The classes among them that need a rule. -/
  utilities : List String
  css : Css.Declarations

/-- The class of a node's name, unless it is that of its kind. -/
def semanticClass (box : SceneBox α) : List String :=
  let fallback := (kindClasses box).headD ""
  let name := Classes.semantic box.name fallback
  if name = fallback then [] else [name]

/-- Moves declarations of an element into classes. -/
def contentStyling (tables : Tables) (box : SceneBox α) (sizes : List String) (shareable : Bool)
    (bag : Css.Declarations) : Styling :=
  let (utilities, rest) := Classes.splitUtilities bag
  let (shared, rest) := if shareable then tables.shared.apply rest else (none, rest)
  { classes := kindClasses box ++ semanticClass box ++ utilities ++ sizes ++ shared.toList
    utilities := utilities ++ sizes
    css := rest }

/-- Keeps the geometry of an element. -/
def overlayStyling (box : SceneBox α) (bag : Css.Declarations) : Styling :=
  { classes := kindClasses box ++ [if box.kind = .svg then "debug-svg" else "debug-box"]
    utilities := []
    css := bag.subset geometryProperties }

def styling (tables : Tables) (box : SceneBox α) (sizes : List String) (shareable : Bool)
    (bag : Css.Declarations) : Styling :=
  match tables.mode with
  | .content => contentStyling tables box sizes shareable bag
  | .overlay => overlayStyling box bag

/-- A list of classes, each once. -/
def classAttribute (classes : List String) : String :=
  String.intercalate " " (classes.foldl
    (fun known name => if known.contains name then known else known ++ [name]) [])

def styleAttribute (bag : Css.Declarations) : List (String × String) :=
  if bag.isEmpty then [] else [("style", bag.serialize)]

/-- The attributes of the element that carries the look of a box. -/
def boxAttributes (mode : Mode) (box : SceneBox α) (extra : List (String × String))
    (styling : Styling) : List (String × String) :=
  let layerId := [("data-layer-id", box.id)]
  [("class", classAttribute styling.classes)] ++
    (match mode with
     | .content => if box.hasStroke then layerId else []
     | .overlay => layerId ++ [("data-name", box.name)]) ++
    extra ++ styleAttribute styling.css

/-- The attributes of the outer element of a wrapped box. -/
def wrapperAttributes (mode : Mode) (box : SceneBox α) (outer : Css.Declarations) :
    List (String × String) :=
  match mode with
  | .content => [("class", "has-wrapper")] ++ styleAttribute outer
  | .overlay =>
    [("class", "debug-box has-wrapper"), ("data-layer-id", box.id)] ++
      styleAttribute (outer.subset geometryProperties)

end Artboard.Render
