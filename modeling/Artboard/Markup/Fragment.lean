import Artboard.Markup.Reader

/-!
# Fragments of text markup

The markup of a text becomes the content of its box. Markup that is not well
formed, such as one with a control character, becomes plain text: its tags are
dropped and its references are read.
-/
namespace Artboard.Markup

/-- Drops the tags, each of which has at least one character between its brackets. -/
def dropTags : Nat → List Char → List Char
  | 0, text => text
  | fuel + 1, text =>
    match text with
    | [] => []
    | '<' :: rest =>
      let inner := rest.takeWhile (· != '>')
      match rest.drop inner.length with
      | [] => '<' :: dropTags fuel rest
      | _ :: after => if inner.isEmpty then '<' :: dropTags fuel rest else dropTags fuel after
    | c :: rest => c :: dropTags fuel rest

/-- The plain text of markup that is not well formed. -/
def plainText (markup : List Char) : List Char :=
  Text.unescape (dropTags markup.length markup)

/-- A fragment as the content of one element. -/
def wrapped (markup : String) : List Char :=
  "<div>".toList ++ markup.toList ++ "</div>".toList

/-- The text and the elements that a fragment adds to an element without content. -/
def readFragment (markup : String) : Fragment :=
  match readDocument (wrapped markup) with
  | some (.mk head children) => ⟨head.text, children⟩
  | none => ⟨plainText markup.toList, []⟩

/-- Puts a fragment into an element without content. -/
def Element.withFragment (markup : String) : Element → Element
  | .mk head children =>
    let content := readFragment markup
    .mk { head with text := content.text } (children ++ content.elements)

end Artboard.Markup
