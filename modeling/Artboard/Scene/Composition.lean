import Artboard.Scene.Compile
import Artboard.Scene.Fonts

/-!
# Compiled compositions

The scene of every visible top-level node in the frame of the origin, with the
rules, the union of the bounds, the fonts and the assets that it needs.
-/
namespace Artboard

variable {α : Type} [Scalar α]

structure CompiledScene (α : Type) where
  nodes : List (SceneNode α)
  rules : PseudoRules
  union : Rect α
  fonts : List FontUse
  fontUrl : Option String
  providedUrls : List String
  images : List String
  svgFiles : List String
  bounds : Option (Rect α)

/-- The least and the greatest coordinates of a set of rectangles. -/
structure Extent (α : Type) where
  minX : α
  minY : α
  maxX : α
  maxY : α

namespace Extent

def ofRect (rect : Rect α) : Extent α :=
  ⟨Scalar.cappedAbove rect.x, Scalar.cappedAbove rect.y,
    Scalar.cappedBelow (rect.x + rect.width), Scalar.cappedBelow (rect.y + rect.height)⟩

def cover (extent : Extent α) (rect : Rect α) : Extent α :=
  ⟨Scalar.min extent.minX rect.x, Scalar.min extent.minY rect.y,
    Scalar.max extent.maxX (rect.x + rect.width), Scalar.max extent.maxY (rect.y + rect.height)⟩

def rect (extent : Extent α) : Rect α :=
  ⟨extent.minX, extent.minY, extent.maxX - extent.minX, extent.maxY - extent.minY⟩

end Extent

/-- The render bounds of top-level nodes, numbered from `index`. -/
def boundsFrom (index : Nat) : List (Node α) → Except Fault (List (Rect α))
  | [] => .ok []
  | node :: rest => do
    match node.props.renderBounds with
    | none => .error (.violation (.missingTopLevelBounds index node.props.id))
    | some bounds => return bounds :: (← boundsFrom (index + 1) rest)

/-- The union of the render bounds of the top-level nodes; zero without any. -/
def renderUnion (nodes : List (Node α)) : Except Fault (Rect α) := do
  match ← boundsFrom 0 nodes with
  | [] => return .zero
  | first :: rest => return (rest.foldl Extent.cover (Extent.ofRect first)).rect

def imagesOf (node : NodeProps α) : List String :=
  node.style.fills.filterMap fun paint =>
    match paint.image? with
    | some source => source.imageId.bind fun id => if id.isEmpty then none else some id
    | none => none

mutual

/-- The images of a tree in document order. -/
def treeImages : Node α → List String
  | .mk props children => imagesOf props ++ forestImages children

def forestImages : List (Node α) → List String
  | [] => []
  | node :: rest => treeImages node ++ forestImages rest

end

/-- Nothing to draw. -/
def CompiledScene.blank (bounds : Option (Rect α)) : CompiledScene α :=
  { nodes := [], rules := .empty, union := .zero, fonts := [], fontUrl := none,
    providedUrls := [], images := [], svgFiles := [], bounds }

/-- The visible top-level nodes in the frame of the origin. -/
def compileTopLevel (template : String) (origin : Point α) (nodes : List (Node α)) :
    Compile (List (SceneNode α)) :=
  (nodes.filter (·.props.visible)).mapM fun node =>
    compileNode template node
      { frame := .shift origin.x origin.y, inherited := [], flow := none, itemCss := ∅ }

/-- Compiles a composition. One without nodes is blank, whatever else it lacks. -/
def compileComposition (template : String) (provider : FontProvider) (composition : Composition α) :
    Except Fault (CompiledScene α) := do
  let bounds := composition.bounds.map fun size => ⟨0.0, 0.0, size.width, size.height⟩
  if composition.children.isEmpty then return .blank bounds
  match composition.absOrigin with
  | none => .error (.violation .missingOrigin)
  | some origin =>
    let (nodes, rules) :=
      (compileTopLevel template origin composition.children).run.run PseudoRules.empty
    let nodes ← nodes
    let union ← renderUnion composition.children
    let fonts := fontsOf composition
    return {
      nodes, rules, union, fonts
      fontUrl := fontServiceUrl fonts
      providedUrls := providedUrls provider fonts
      images := (forestImages composition.children).foldl addNew []
      svgFiles := ((SceneNode.preorders nodes).filterMap SceneBox.svgFile).foldl addNew []
      bounds }

end Artboard
