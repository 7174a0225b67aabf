import Artboard.Markup.Html

/-!
# Indentation

Elements are written on lines of their own, except inside text boxes. Only blank
text is replaced, so that nothing that shows is changed.
-/
namespace Artboard.Markup

/-- The content of the element is text that must stay as it is. -/
def Head.keepsSpace (head : Head) : Bool :=
  head.name == .plain "text" || head.classes.contains "text".toList

/-- The indentation of a level, which is empty up to the outermost one. -/
def indentation (unit : List Char) (level : Int) : List Char :=
  (List.replicate level.toNat unit).flatten

/-- A line break and the indentation of a level. -/
def lineBreak (unit : List Char) (level : Int) : List Char := '\n' :: indentation unit level

def fillBlank (space text : List Char) : List Char := if Text.allBlank text then space else text

namespace Element

def fillTail (space : List Char) : Element → Element
  | mk head children => mk { head with tail := fillBlank space head.tail } children

/-- Fills blank tails: each one with the space between children, and then the last one with the
space before the end tag. -/
def fillTails (between last : List Char) : List Element → List Element
  | [] => []
  | [element] => [(element.fillTail between).fillTail last]
  | element :: rest => element.fillTail between :: fillTails between last rest

mutual

/-- Indents a tree at a level; level zero leaves the tail alone. -/
def indent (unit : List Char) (level : Int) : Element → Element
  | mk head children =>
    let own := lineBreak unit level
    let head := if level = 0 then head else { head with tail := fillBlank own head.tail }
    if children.isEmpty || head.keepsSpace then mk head children
    else
      let inner := lineBreak unit (level + 1)
      mk { head with text := fillBlank inner head.text }
        (fillTails inner own (indentAll unit (level + 1) children))

def indentAll (unit : List Char) (level : Int) : List Element → List Element
  | [] => []
  | element :: rest => indent unit level element :: indentAll unit level rest

end

end Element

/-- Indented markup, each element from a line of its own. -/
def serialize (unit : List Char) (level : Int) (elements : List Element) : List Char :=
  List.intercalate ['\n'] (elements.map fun element =>
    indentation unit level ++ ((element.indent unit level).withTail []).html)

end Artboard.Markup
