import Artboard.Box
import Artboard.Layout.Placement

/-!
# Scenes

A scene is the tree of boxes that are drawn. A box has its layout, its
declarations and its content. A mask that covers siblings is a box of its own,
which clips them.
-/
namespace Artboard

/-- What a box holds. Only a container has children. -/
inductive Content where
  | text (markup : String)
  | svg (markup : String)
  | container
  | empty
deriving DecidableEq, Repr

structure SceneBox (α : Type) where
  id : String
  kind : NodeKind
  name : String
  type : String
  layout : Layout α
  declarations : Css.Declarations
  /-- The node lists a stroke paint, visible or not. -/
  hasStroke : Bool
  content : Content
  isMask : Bool
  inheritedShadows : List (Shadow α)
  isHolder : Bool
  svgFile : Option String
  svgContent : Option String

inductive SceneNode (α : Type) where
  | mk (box : SceneBox α) (children : List (SceneNode α))

namespace SceneNode

variable {α : Type}

def box : SceneNode α → SceneBox α
  | mk box _ => box

def children : SceneNode α → List (SceneNode α)
  | mk _ children => children

mutual

/-- The boxes of a tree, each before those below it. -/
def preorder : SceneNode α → List (SceneBox α)
  | mk box children => box :: preorders children

def preorders : List (SceneNode α) → List (SceneBox α)
  | [] => []
  | node :: rest => preorder node ++ preorders rest

end

end SceneNode

end Artboard
