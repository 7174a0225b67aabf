import Artboard.Design.Geometry

/-!
# Style of a design

Paints, effects and strokes. Paints and effects are listed from the bottom up
and take part only while they are visible.
-/
namespace Artboard

structure Color (α : Type) where
  r : α
  g : α
  b : α
  a : α

inductive ScaleMode where
  | fill
  | fit
  | crop
  | tile
  | stretch
deriving DecidableEq, Repr

inductive GradientKind where
  | linear
  | radial
  | angular
  | diamond
deriving DecidableEq, Repr

structure GradientStop (α : Type) where
  position : α
  color : Color α

structure ImageSource (α : Type) where
  imageId : Option String
  scaleMode : ScaleMode
  transform : Option (Affine α)

structure Gradient (α : Type) where
  kind : GradientKind
  stops : List (GradientStop α)
  handles : Option (List (Point α))
  transform : Option (Affine α)

/-- What a paint fills with. -/
inductive PaintSource (α : Type) where
  | solid (color : Color α)
  | image (source : ImageSource α)
  | gradient (gradient : Gradient α)

structure Paint (α : Type) where
  visible : Bool
  opacity : α
  blendMode : Option String
  source : PaintSource α

namespace Paint

variable {α : Type}

def solid? (paint : Paint α) : Option (Color α) :=
  match paint.source with
  | .solid color => some color
  | _ => none

def image? (paint : Paint α) : Option (ImageSource α) :=
  match paint.source with
  | .image source => some source
  | _ => none

end Paint

inductive EffectKind where
  | layerBlur
  | backgroundBlur
  | dropShadow
  | innerShadow
deriving DecidableEq, Repr

namespace EffectKind

def isShadow : EffectKind → Bool
  | dropShadow => true
  | innerShadow => true
  | _ => false

end EffectKind

structure Effect (α : Type) where
  kind : EffectKind
  radius : α
  spread : α
  offset : Point α
  color : Option (Color α)
  visible : Bool

inductive StrokeAlign where
  | inside
  | center
  | outside
deriving DecidableEq, Repr

structure Style (α : Type) where
  fills : List (Paint α)
  strokes : List (Paint α)
  strokeWeights : Option (Sides α)
  strokeAlign : StrokeAlign
  dashPattern : List α
  effects : List (Effect α)
  opacity : α
  blendMode : Option String
  radii : Option (Radii α)

end Artboard
