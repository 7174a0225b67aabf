import Artboard.Css.Declarations
import Artboard.Paint.Color
import Artboard.Design.Node

/-!
# Shadows and blurs

The visible effects of a style are its shadows in order and the largest blur of
each kind. On a box a shadow is a box shadow; on text a drop shadow is a text
shadow and an inner one is left out; on vector content a drop shadow is a filter.
Blur radii are halved.

A bare holder has a shadow but no visible fill or stroke. It paints no shadow
itself: its shadows are inherited by what it contains.
-/
namespace Artboard

variable {α : Type} [Scalar α]

structure Shadow (α : Type) where
  inner : Bool
  x : α
  y : α
  blur : α
  spread : α
  color : String

/-- The visible effects of a style. -/
structure EffectSet (α : Type) where
  shadows : List (Shadow α)
  layerBlur : α
  backgroundBlur : α

namespace EffectSet

def none : EffectSet α := ⟨[], 0.0, 0.0⟩

def withoutShadows (effects : EffectSet α) : EffectSet α := { effects with shadows := [] }

end EffectSet

/-- The largest radius among the visible effects of a kind. -/
def largestRadius (kind : EffectKind) (effects : List (Effect α)) : α :=
  (effects.filter fun effect => effect.visible && effect.kind == kind).foldl
    (fun radius effect => Scalar.max radius effect.radius) 0.0

def shadowOf (effect : Effect α) : Except Fault (Shadow α) := do
  let color ←
    match effect.color with
    | some color => Paint.colorCss color 1.0
    | none => .ok "rgb(0,0,0)"
  return { inner := effect.kind == .innerShadow, x := effect.offset.x, y := effect.offset.y,
           blur := effect.radius, spread := effect.spread, color }

namespace Style

/-- A visible effect that is a shadow. -/
def castsShadow (effect : Effect α) : Bool := effect.visible && effect.kind.isShadow

def effectSet (style : Style α) : Except Fault (EffectSet α) := do
  let shadows ← (style.effects.filter castsShadow).mapM shadowOf
  return ⟨shadows, largestRadius .layerBlur style.effects,
    largestRadius .backgroundBlur style.effects⟩

def hasShadow (style : Style α) : Bool := style.effects.any castsShadow

/-- A shadow without a visible fill or stroke. -/
def isBareHolder (style : Style α) : Bool :=
  !(style.fills.any (·.visible)) && !(style.strokes.any (·.visible)) && style.hasShadow

end Style

namespace Shadow

def boxToken (shadow : Shadow α) : String :=
  let inset := if shadow.inner then "inset " else ""
  s!"{inset}{Css.px shadow.x} {Css.px shadow.y} {Css.px shadow.blur} {Css.px shadow.spread} " ++
    shadow.color

def textToken (shadow : Shadow α) : String :=
  s!"{Css.px shadow.x} {Css.px shadow.y} {Css.px shadow.blur} {shadow.color}"

def dropToken (shadow : Shadow α) : String :=
  s!"drop-shadow({Css.px shadow.x} {Css.px shadow.y} {Css.px shadow.blur} {shadow.color})"

end Shadow

/-- What carries the effects: the box itself or the vector content in it. -/
inductive EffectTarget where
  | box
  | content
deriving DecidableEq, Repr

namespace EffectTarget

def ofNode (node : NodeProps α) : EffectTarget := if node.isVector then .content else .box

end EffectTarget

/-- The values of the properties that draw effects. -/
structure EffectTokens where
  boxShadows : List String
  textShadows : List String
  filters : List String
  backdropFilters : List String
deriving DecidableEq, Repr

namespace EffectTokens

def none : EffectTokens := ⟨[], [], [], []⟩

def append (first second : EffectTokens) : EffectTokens :=
  ⟨first.boxShadows ++ second.boxShadows, first.textShadows ++ second.textShadows,
    first.filters ++ second.filters, first.backdropFilters ++ second.backdropFilters⟩

def box (token : String) : EffectTokens := { none with boxShadows := [token] }

def text (token : String) : EffectTokens := { none with textShadows := [token] }

def filter (token : String) : EffectTokens := { none with filters := [token] }

/-- Tokens one after the other. -/
def join (tokens : List EffectTokens) : EffectTokens := tokens.foldl append none

/-- A shadow of the node itself. -/
def ofOwnShadow (target : EffectTarget) (isText : Bool) (shadow : Shadow α) : EffectTokens :=
  match target with
  | .content => if shadow.inner then box shadow.boxToken else filter shadow.dropToken
  | .box =>
    if isText then if shadow.inner then none else text shadow.textToken
    else box shadow.boxToken

/-- A shadow inherited from a bare holder. -/
def ofInheritedShadow (target : EffectTarget) (isText : Bool) (shadow : Shadow α) :
    EffectTokens :=
  if shadow.inner then if isText then none else box shadow.boxToken
  else if isText = true ∨ target = .content then filter shadow.dropToken
  else box shadow.boxToken

/-- A blur at half its radius. -/
def blurToken (radius : α) : List String :=
  if 0.0 < radius then [s!"blur({Css.px (radius / 2.0)})"] else []

def ofEffects (target : EffectTarget) (isText : Bool) (effects : EffectSet α) : EffectTokens :=
  (join (effects.shadows.map (ofOwnShadow target isText))).append
    { none with
      filters := blurToken effects.layerBlur
      backdropFilters := blurToken effects.backgroundBlur }

/-- Adds inherited shadows after the tokens of the node. -/
def inherit (target : EffectTarget) (isText : Bool) (inherited : List (Shadow α))
    (tokens : EffectTokens) : EffectTokens :=
  tokens.append (join (inherited.map (ofInheritedShadow target isText)))

def listDeclaration (name separator : String) (values : List String) : List Css.Declaration :=
  if values.isEmpty then [] else [(name, String.intercalate separator values)]

def css (tokens : EffectTokens) : Css.Declarations :=
  .ofList (listDeclaration "box-shadow" "," tokens.boxShadows ++
    listDeclaration "text-shadow" "," tokens.textShadows ++
    listDeclaration "filter" " " tokens.filters ++
    listDeclaration "backdrop-filter" " " tokens.backdropFilters ++
    listDeclaration "-webkit-backdrop-filter" " " tokens.backdropFilters)

end EffectTokens

end Artboard
