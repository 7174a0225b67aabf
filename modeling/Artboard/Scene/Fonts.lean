import Artboard.Design.Node
import Artboard.Text.Blank
import Artboard.Text.Case
import Artboard.Typography.Segment

/-!
# Fonts of a composition

Families are collected from text segments in document order, with the weights
and styles in use. One stylesheet of a font service covers all families; further
ones may be provided for a family.
-/
namespace Artboard

structure FontUse where
  family : String
  weights : List Int
  styles : List String
deriving DecidableEq, Repr

/-- Inserts into a list in increasing order, without repetition. -/
def insertSorted (value : Int) : List Int → List Int
  | [] => [value]
  | first :: rest =>
    if value < first then value :: first :: rest
    else if value = first then first :: rest
    else first :: insertSorted value rest

namespace FontUse

def hasItalic (font : FontUse) : Bool := font.styles.any Typography.isItalic

/-- Adds a weight that is not zero and a style that is not empty. -/
def extend (font : FontUse) (weight : Option Int) (style : Option String) : FontUse :=
  let weights :=
    match weight with
    | some weight => if weight = 0 then font.weights else insertSorted weight font.weights
    | none => font.weights
  let styles :=
    match style with
    | some style =>
      if style.isEmpty || font.styles.contains style then font.styles else font.styles ++ [style]
    | none => font.styles
  { font with weights, styles }

def standardWeights : List Int := [100, 200, 300, 400, 500, 600, 700, 800, 900]

/-- The standard weights and those in use, in increasing order. -/
def offeredWeights (font : FontUse) : List Int :=
  font.weights.foldl (fun weights weight => insertSorted weight weights) standardWeights

/-- What the font service is asked for. -/
def request (font : FontUse) : String :=
  let name := String.intercalate "+" ((Text.words font.family.toList).map String.ofList)
  let weights := font.offeredWeights
  if font.hasItalic then
    let values := String.intercalate ";"
      (weights.flatMap fun weight => [s!"0,{weight}", s!"1,{weight}"])
    s!"family={name}:ital,wght@{values}"
  else
    let values := String.intercalate ";" (weights.map toString)
    s!"family={name}:wght@{values}"

end FontUse

/-- Adds a use of a family, in the order of first occurrence. -/
def addFont (family : String) (weight : Option Int) (style : Option String) :
    List FontUse → List FontUse
  | [] => [FontUse.extend ⟨family, [], []⟩ weight style]
  | font :: rest =>
    if font.family = family then font.extend weight style :: rest
    else font :: addFont family weight style rest

variable {α : Type}

def addSegmentFont (fonts : List FontUse) (segment : TextSegment α) : List FontUse :=
  match segment.fontName with
  | none => fonts
  | some name =>
    if name.family.isEmpty then fonts
    else
      let weight :=
        match segment.fontWeight with
        | some weight => if weight = 0 then Typography.inferWeight (some name.style) else weight
        | none => Typography.inferWeight (some name.style)
      addFont name.family (some weight) (some name.style) fonts

def segmentsOf (node : NodeProps α) : List (TextSegment α) :=
  match node.text with
  | some text => text.segments
  | none => []

mutual

/-- The segments of a tree in document order. -/
def treeSegments : Node α → List (TextSegment α)
  | .mk props children => segmentsOf props ++ forestSegments children

def forestSegments : List (Node α) → List (TextSegment α)
  | [] => []
  | node :: rest => treeSegments node ++ forestSegments rest

end

/-- The fonts of a composition. -/
def fontsOf (composition : Composition α) : List FontUse :=
  (forestSegments composition.children).foldl addSegmentFont []

/-- The address of the stylesheet that covers the families, if there are any. -/
def fontServiceUrl (fonts : List FontUse) : Option String :=
  if fonts.isEmpty then none
  else
    let requests := String.intercalate "&" (fonts.map FontUse.request)
    some s!"https://fonts.googleapis.com/css2?{requests}&display=swap"

/-- Provides further stylesheets for a family; `none` when it fails. -/
abbrev FontProvider := FontUse → Option (List String)

/-- Adds what is not there yet, at the end. -/
def addNew (known : List String) (text : String) : List String :=
  if known.contains text then known else known ++ [text]

/-- The provided stylesheets, each once. -/
def providedUrls (provider : FontProvider) (fonts : List FontUse) : List String :=
  ((fonts.flatMap fun font => (provider font).getD []).filter (!·.isEmpty)).foldl addNew []

def escapeLinkChar : Char → List Char
  | '&' => "&amp;".toList
  | '"' => "&quot;".toList
  | c => [c]

def escapeLink (url : String) : String := String.ofList (url.toList.flatMap escapeLinkChar)

def serviceOrigins : List String := ["https://fonts.googleapis.com", "https://fonts.gstatic.com"]

def preconnectLink (origin : String) : String :=
  let cross := if origin = "https://fonts.gstatic.com" then " crossorigin" else ""
  s!"<link rel=\"preconnect\" href=\"{origin}\"{cross}/>"

def stylesheetLink (url : String) : String :=
  s!"<link rel=\"stylesheet\" href=\"{escapeLink url}\"/>"

/-- The origins of addresses, in order. -/
def originsOf (addresses : List String) : Except Fault (List String) := do
  let found ← addresses.mapM fun address =>
    match Text.Address.origin address with
    | .ok origin => .ok origin
    | .error cause => .error (.address cause)
  return found.filterMap id

/-- Links to the origins, then to the stylesheets. -/
def fontLinks (service : Option String) (provided : List String) : Except Fault (List String) := do
  let service := service.bind fun url => if url.isEmpty then none else some url
  let sheets := provided.foldl addNew service.toList
  let start := if service.isSome then serviceOrigins else []
  let origins := (← originsOf sheets).foldl addNew start
  return origins.map preconnectLink ++ sheets.map stylesheetLink

end Artboard
