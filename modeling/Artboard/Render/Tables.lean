import Artboard.Classes.Shared
import Artboard.Scene.Basic
import Artboard.Settings

/-!
# Tables of a rendering

The content is drawn with classes for recurring sizes and patterns, which are
counted over all boxes without a wrapper before anything is drawn. The overlay
shows geometry alone and has no classes of this kind.
-/
namespace Artboard.Render

variable {α : Type} [Scalar α]

inductive Mode where
  | content
  | overlay
deriving DecidableEq, Repr

structure Tables where
  mode : Mode
  sizes : Classes.SizeFrequency
  shared : Classes.SharedTable
  svgUrlTemplate : String

def isSingle (box : SceneBox α) : Bool := box.layout.wrapper.isNone

namespace Tables

def ofScene (mode : Mode) (settings : Settings) (nodes : List (SceneNode α)) : Tables :=
  match mode with
  | .overlay =>
    { mode, sizes := .none, shared := .empty settings.classScope
      svgUrlTemplate := settings.svgUrlTemplate }
  | .content =>
    let single := (SceneNode.preorders nodes).filter isSingle
    { mode
      sizes := .ofLayouts (single.map SceneBox.layout)
      shared := .build settings.sharedClassThreshold settings.classScope
        ((single.filter fun box => box.kind != .svg).map SceneBox.declarations)
      svgUrlTemplate := settings.svgUrlTemplate }

end Tables

end Artboard.Render
