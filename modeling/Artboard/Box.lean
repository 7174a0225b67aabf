import Artboard.Effects
import Artboard.Stroke.Css
import Artboard.Typography.TextBox

/-!
# The style of a box

Background, effects, stroke, radius, opacity, blending and, for text, the text
box, in this order. A stroke that needs a pseudo-element is a rule of its own.
-/
namespace Artboard

variable {α : Type} [Scalar α]

/-- Rules for pseudo-elements, one for each selector, in the order of their first occurrence. -/
structure PseudoRules where
  toList : List (String × Css.Declarations)

namespace PseudoRules

def empty : PseudoRules := ⟨[]⟩

def insert (selector : String) (bag : Css.Declarations) :
    List (String × Css.Declarations) → List (String × Css.Declarations)
  | [] => [(selector, bag)]
  | (other, old) :: rest =>
    if other = selector then (selector, bag) :: rest
    else (other, old) :: insert selector bag rest

/-- Adds a rule, or replaces the one with the same selector; an empty one is left out. -/
def add (rules : PseudoRules) (selector : String) (bag : Css.Declarations) : PseudoRules :=
  if bag.isEmpty then rules else ⟨insert selector bag rules.toList⟩

def texts (rules : PseudoRules) : List String :=
  rules.toList.map fun entry => Css.rule entry.1 entry.2

def css (rules : PseudoRules) : String := String.intercalate "\n" rules.texts

def size (rules : PseudoRules) : Nat := rules.toList.length

end PseudoRules

structure BoxStyle where
  css : Css.Declarations
  /-- What the pseudo-element of the box declares. -/
  pseudo : Option Css.Declarations
  textUsesFlex : Bool

/-- A frame that is a bare holder passes shadows on; every other node paints them. -/
def paintsInherited (kind : NodeKind) (isHolder : Bool) : Bool := !(kind == .frame && isHolder)

def radiusDeclarations (kind : NodeKind) (node : NodeProps α) : Css.Declarations :=
  let radius := Paint.radiusCss node.style.radii
  if kind ≠ .svg ∧ node.type = "ELLIPSE" ∧ radius.contains "border-radius" = false then
    .ofList [("border-radius", "50%"), ("overflow", "hidden")]
  else radius

def opacityDeclarations (opacity : α) : List Css.Declaration :=
  if opacity == 1.0 then [] else [("opacity", Css.number opacity 3)]

def blendDeclarations (mode : Option String) : List Css.Declaration :=
  let blend := Paint.blendModeCss mode
  if blend = "normal" then [] else [("mix-blend-mode", blend)]

/-- The background of a box; vector content has none. -/
def boxBackground (imageTemplate : String) (node : NodeProps α) (kind : NodeKind) :
    Except Fault Css.Declarations :=
  if kind = .svg then .ok .empty else Paint.backgroundCss imageTemplate node

/-- What the effects of a box draw: its own effects, the shadows of its stroke, and then the
inherited shadows if the box paints them. -/
def boxTokens (node : NodeProps α) (kind : NodeKind) (paints : Bool) (effects : EffectSet α)
    (strokeShadows : List String) (inherited : List (Shadow α)) : EffectTokens :=
  let target := EffectTarget.ofNode node
  let isText := kind == .text
  let own := (EffectTokens.ofEffects target isText effects).append
    { EffectTokens.none with boxShadows := strokeShadows }
  if paints then own.inherit target isText inherited else own

namespace BoxStyle

/-- The style of a box with the given background, effects and stroke. -/
def ofParts (node : NodeProps α) (kind : NodeKind) (background : Css.Declarations)
    (tokens : EffectTokens) (stroke : StrokeCss) : BoxStyle :=
  let text := if kind == .text then node.text.map Typography.textBox else none
  let css := background.update tokens.css
    |>.update stroke.css
    |>.update (radiusDeclarations kind node)
    |>.setAll (opacityDeclarations node.style.opacity)
    |>.setAll (blendDeclarations node.style.blendMode)
  { css := match text with
      | some text => css.update text.css
      | none => css
    pseudo := stroke.pseudo
    textUsesFlex := match text with
      | some text => text.usesFlex
      | none => false }

/-- The style of a node's box, with the shadows inherited from bare holders above it. -/
def ofNode (imageTemplate : String) (node : NodeProps α) (kind : NodeKind) (isHolder : Bool)
    (inherited : List (Shadow α)) : Except Fault BoxStyle := do
  let background ← boxBackground imageTemplate node kind
  let declared ← node.style.effectSet
  let paints := paintsInherited kind isHolder
  let effects := if paints then declared else declared.withoutShadows
  let stroke ← StrokeCss.ofNode node effects.shadows
  return ofParts node kind background
    (boxTokens node kind paints effects stroke.boxShadows inherited) stroke

end BoxStyle

end Artboard
