import Artboard.Scene.Basic
import Artboard.Stacking
import Artboard.Typography.Segment

/-!
# From nodes to scenes

Every visible node becomes a box in the frame of its parent. The children of a
frame are stacked; siblings covered by a mask are placed in the frame of the
mask, inside a box with the geometry of the mask. A bare holder passes its
shadows on to its children. Rules for pseudo-elements that were found before a
fault remain.
-/
namespace Artboard

variable {α : Type} [Scalar α]

/-- A computation that collects rules and may stop at a fault. -/
abbrev Compile := ExceptT Fault (StateM PseudoRules)

def Compile.ofExcept {β : Type} : Except Fault β → Compile β
  | .ok value => pure value
  | .error fault => throw fault

def stopAt {β : Type} (cause : Violation) : Compile β := throw (.violation cause)

/-- Where a node is placed. -/
structure Surroundings (α : Type) where
  frame : Affine α
  inherited : List (Shadow α)
  flow : Option Flow
  itemCss : Css.Declarations

/-- A child with the way to compile it. -/
structure Child (α : Type) where
  props : NodeProps α
  compile : Surroundings α → Compile (SceneNode α)

namespace Child

def view : ChildView (Child α) :=
  { isMask := fun child => child.props.isMask, visible := fun child => child.props.visible }

end Child

def isSafeInFileName (c : Char) : Bool := c.isAlphanum || c = '_' || c = '-'

/-- The file of vector content; characters that are not safe in a name are replaced. -/
def svgFileName (svgId : Option String) : Option String :=
  match svgId with
  | none => none
  | some id =>
    if id.isEmpty then none
    else some (String.ofList (id.toList.map fun c => if isSafeInFileName c then c else '_') ++
      ".svg")

/-- What a container hands down to its children. -/
structure ContainerState (α : Type) where
  frame : Affine α
  inverse : Affine α
  inherited : List (Shadow α)
  flow : Option Flow

/-- The flow of a container with automatic layout. -/
def flowOf (node : NodeProps α) : Option Flow :=
  if node.isAutoLayout then
    some { axes := .ofMode node.layoutMode, alignItems := node.counterAxisAlignItems.alignItems
           wraps := node.wraps }
  else none

/-- Only a bare holder passes shadows further down. -/
def passedShadows (node : NodeProps α) (inherited : List (Shadow α)) :
    Except Fault (List (Shadow α)) := do
  if node.style.isBareHolder then
    let effects ← node.style.effectSet
    return inherited ++ effects.shadows
  else return []

namespace ContainerState

def ofNode (node : NodeProps α) (inherited : List (Shadow α)) :
    Except Fault (ContainerState α) := do
  match node.absoluteTransform with
  | none => .error (.violation (.missingContainerTransform node.id))
  | some frame =>
    match frame.invert with
    | none => .error (.violation (.singularContainer node.id))
    | some inverse =>
      let inherited ← passedShadows node inherited
      return { frame, inverse, inherited, flow := flowOf node }

/-- Children outside the flow are placed in the frame of the container. -/
def flowFor (state : ContainerState α) (child : NodeProps α) : Option Flow :=
  if child.absolutelyPositioned then none else state.flow

end ContainerState

/-- The declarations of the box of a mask. -/
def maskBoxCss (template : String) (mask : NodeProps α) (itemCss : Css.Declarations) :
    Except Fault Css.Declarations := do
  let image ← Paint.maskCss template mask
  let radius := Paint.radiusCss mask.style.radii
  let radius := if mask.type = "ELLIPSE" then radius.set "border-radius" "50%" else radius
  return (radius.set "overflow" "hidden").update image |>.update itemCss

/-- The layout of the box of a mask, in the flow of its container or in its frame. -/
def maskLayout (mask : NodeProps α) (map : Affine α) (inFlow : Bool) : Layout α :=
  let layout : Layout α :=
    { (Layout.plain : Layout α) with
      width := mask.numericLength .width
      height := mask.numericLength .height
      transform := map.linear }
  if inFlow then { layout with position := .relative, origin := .center }
  else { layout with left := map.e, top := map.f }

/-- The box of a mask, which clips the siblings that it covers. -/
def maskBox (mask : NodeProps α) (map : Affine α) (inFlow : Bool) (css : Css.Declarations) :
    SceneBox α where
  id := mask.id
  kind := .frame
  name := if mask.name.isEmpty then "Mask Container" else mask.name
  type := mask.type
  layout := maskLayout mask map inFlow
  declarations := css
  hasStroke := false
  content := .container
  isMask := true
  inheritedShadows := []
  isHolder := false
  svgFile := none
  svgContent := none

/-- The box of a mask with the visible siblings among those that it covers. -/
def compileMasked (template : String) (state : ContainerState α) (mask : Child α)
    (covered : List (Child α)) (itemCss : Css.Declarations) : Compile (SceneNode α) := do
  match mask.props.absoluteTransform with
  | none => stopAt (.missingMaskTransform mask.props.id)
  | some absolute =>
    let css ← Compile.ofExcept (maskBoxCss template mask.props itemCss)
    let children ← (covered.filter (·.props.visible)).mapM fun child =>
      child.compile { frame := absolute, inherited := state.inherited, flow := none, itemCss := ∅ }
    let box := maskBox mask.props (state.inverse.compose absolute)
      (state.flowFor mask.props).isSome css
    return .mk box children

def compileItem (template : String) (state : ContainerState α) :
    StackItem (Child α) → Compile (SceneNode α)
  | .single child itemCss =>
    child.compile
      { frame := state.frame, inherited := state.inherited, flow := state.flowFor child.props,
        itemCss }
  | .masked mask covered itemCss => compileMasked template state mask covered itemCss

def compileChildren (template : String) (node : NodeProps α) (inherited : List (Shadow α))
    (children : List (Child α)) : Compile (List (SceneNode α)) := do
  if children.isEmpty then return []
  let state ← Compile.ofExcept (ContainerState.ofNode node inherited)
  (stackItems (.ofNode node) Child.view children).mapM (compileItem template state)

/-- The content of a node apart from its children. -/
def contentOf (node : NodeProps α) (kind : NodeKind) (textUsesFlex : Bool) :
    Except Fault Content := do
  match kind, node.text with
  | .text, some text => return .text (← Typography.textMarkup text textUsesFlex)
  | .svg, _ =>
    return if isGiven node.svgContent then .svg (node.svgContent.getD "") else .empty
  | .frame, _ => return .container
  | _, _ => return .empty

/-- The box of a node with its layout, its style and its content. -/
def nodeBox (node : NodeProps α) (place : Surroundings α) (layout : Layout α) (style : BoxStyle)
    (content : Content) : SceneBox α :=
  let kind := NodeKind.ofNode node
  { id := node.id
    kind
    name := if node.name.isEmpty then s!"Unnamed {kind.name}" else node.name
    type := node.type
    layout
    declarations := place.itemCss.update style.css
    hasStroke := !node.style.strokes.isEmpty
    content
    isMask := node.isMask
    inheritedShadows := place.inherited
    isHolder := node.style.isBareHolder
    svgFile := if kind = .svg then svgFileName node.svgId else none
    svgContent := if kind = .svg then node.svgContent else none }

/-- The box of a node, with the rule of its pseudo-element added. -/
def compileBox (template : String) (node : NodeProps α) (hasFlowChildren : Bool)
    (place : Surroundings α) : Compile (SceneBox α) := do
  if !node.visible then stopAt (.invisibleNode node.id)
  let kind := NodeKind.ofNode node
  let layout ← Compile.ofExcept (Layout.compute node hasFlowChildren place.frame place.flow)
  let style ← Compile.ofExcept
    (BoxStyle.ofNode template node kind node.style.isBareHolder place.inherited)
  match style.pseudo with
  | some bag => modify fun rules => rules.add (pseudoSelector node.id) bag
  | none => pure ()
  let content ← Compile.ofExcept (contentOf node kind style.textUsesFlex)
  return nodeBox node place layout style content

mutual

/-- Compiles a node and what is below it. -/
def compileNode (template : String) : Node α → Surroundings α → Compile (SceneNode α)
  | .mk props children, place => do
    let box ← compileBox template props (hasFlowChildren children) place
    if box.kind = .frame then
      let below ← compileChildren template props place.inherited (childrenOf template children)
      return .mk box below
    else return .mk box []

def childrenOf (template : String) : List (Node α) → List (Child α)
  | [] => []
  | node :: rest =>
    { props := node.props, compile := fun place => compileNode template node place } ::
      childrenOf template rest

end

end Artboard
