import Artboard.Markup.Reader
import Artboard.Typography.Weight

/-!
# Vector drawings in markup

A drawing is taken over without namespaces; links keep their prefix. For the
overlay its shapes are reduced to hairline outlines.
-/
namespace Artboard.Markup

def linkPrefix : List Char := "xlink".toList

/-- The name of an attribute outside its namespace; names of links keep their prefix. -/
def localAttribute (name : Name) : Name :=
  if Typography.occursIn linkPrefix name.space.toList ||
      Typography.occursIn linkPrefix name.base.toList then
    .plain ("xlink:" ++ name.base)
  else .plain name.base

/-- Takes one attribute out of its namespace; it then comes last unless its new name is taken. -/
def takeOutAttribute (attributes : List Attribute) (entry : Attribute) : List Attribute :=
  setAttribute (localAttribute entry.1) entry.2 (dropAttribute entry.1 attributes)

def Head.withoutSpaces (head : Head) : Head :=
  { head with
    name := .plain head.name.base
    attributes := (head.attributes.filter fun entry => !entry.1.space.isEmpty).foldl takeOutAttribute
      head.attributes }

/-- A drawing without namespaces, if it is well formed. -/
def readSvg (text : String) : Option Element :=
  (readDocument text.toList).map (Element.mapHeads Head.withoutSpaces)

def shapeNames : List String :=
  ["path", "rect", "circle", "ellipse", "line", "polyline", "polygon"]

def outlineStyle : String := "stroke:var(--dr-svg-stroke);stroke-width:calc(1px / var(--dr-scale))"

def isShape (name : Name) : Bool := name.space.isEmpty && shapeNames.contains name.base

/-- A shape as a hairline outline; other elements stay as they are. -/
def Head.outlined (head : Head) : Head :=
  if isShape head.name then
    let bare := ["fill", "stroke", "stroke-width", "style"].foldl
      (fun attributes name => dropAttribute (.plain name) attributes) head.attributes
    { head with
      attributes := setAttribute (.plain "style") outlineStyle
        (setAttribute (.plain "vector-effect") "non-scaling-stroke"
          (setAttribute (.plain "fill") "none" bare)) }
  else head

def Element.outlined (element : Element) : Element := element.mapHeads Head.outlined

end Artboard.Markup
