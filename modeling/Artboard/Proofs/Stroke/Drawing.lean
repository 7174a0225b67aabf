import Artboard.Proofs.Text.Percent
import Artboard.Stroke.Dash

/-!
# The drawing of dashes

A dashed stroke is drawn as a canvas with one shape on it. The canvas is shown in
its own size, and the shape is a line with dashes and nothing inside. A stylesheet
holds the drawing as the bytes of its text.
-/
namespace Artboard

/-! ### Elements of a drawing -/

/-- An element with its attributes in order. -/
structure SvgElement where
  name : String
  attributes : List (String × String)

namespace SvgElement

/-- An attribute with its value in double quotes. -/
def attributeText : String × String → String
  | (name, value) => " " ++ name ++ "=\"" ++ value ++ "\""

/-- The name of an element and its attributes. -/
def head (element : SvgElement) : String :=
  element.name ++ String.join (element.attributes.map attributeText)

/-- An element with nothing in it. -/
def alone (element : SvgElement) : String := "<" ++ element.head ++ "/>"

/-- An element with another one in it. -/
def around (element inner : SvgElement) : String :=
  "<" ++ element.head ++ ">" ++ inner.alone ++ "</" ++ element.name ++ ">"

end SvgElement

variable {α : Type} [Scalar α]

namespace PathStep

/-- A step as a letter and its numbers. An arc is a circle, the shorter way and clockwise; nothing
stands behind the letter that closes an outline. -/
def words : PathStep α → List String
  | moveTo x y => ["M", Scalar.text x, Scalar.text y]
  | lineTo x y => ["L", Scalar.text x, Scalar.text y]
  | arcTo radius x y =>
    ["A", Scalar.text radius, Scalar.text radius, "0", "0", "1", Scalar.text x, Scalar.text y]
  | close => ["Z", ""]

theorem svg_eq (step : PathStep α) : step.svg = String.intercalate " " step.words := by
  cases step with
  | moveTo x y => simp [svg, words, toString, String.append_assoc]
  | lineTo x y => simp [svg, words, toString, String.append_assoc]
  | arcTo radius x y =>
    apply String.toList_inj.mp
    simp [svg, words, toString]
  | close => rfl

end PathStep

namespace DashShape

/-- The element of a shape with the attributes that say where it lies. A square corner is not
mentioned. -/
def element : DashShape α → SvgElement
  | .ellipse cx cy rx ry =>
    ⟨"ellipse", [("cx", Scalar.text cx), ("cy", Scalar.text cy), ("rx", Scalar.text rx),
      ("ry", Scalar.text ry)]⟩
  | .rect x y width height radius =>
    ⟨"rect", [("x", Scalar.text x), ("y", Scalar.text y), ("width", Scalar.text width),
      ("height", Scalar.text height)] ++
        if Scalar.isZero radius then [] else [("rx", Scalar.text radius)]⟩
  | .path steps => ⟨"path", [("d", String.intercalate " " (steps.flatMap PathStep.words))]⟩

/-- The shape as a line of a weight in a colour, with dashes and nothing inside. -/
def line (shape : DashShape α) (color : String) (dashPattern : List α) (weight : α) :
    SvgElement where
  name := shape.element.name
  attributes :=
    [("stroke", color),
     ("stroke-dasharray", String.intercalate " " (dashPattern.map fun dash => Css.number dash 2)),
     ("stroke-width", Scalar.text weight)] ++ shape.element.attributes ++ [("fill", "none")]

end DashShape

/-- A canvas of a size, all of which is shown. -/
def svgCanvas (width height : α) : SvgElement where
  name := "svg"
  attributes :=
    [("xmlns", "http://www.w3.org/2000/svg"),
     ("viewBox", "0 0 " ++ Scalar.text width ++ " " ++ Scalar.text height),
     ("width", Scalar.text width), ("height", Scalar.text height)]

/-! ### The drawing -/

/-- Joining texts that were joined joins all their parts. -/
private theorem intercalate_flatten (separator : String) {groups : List (List String)}
    (inhabited : ∀ group ∈ groups, group ≠ []) :
    separator.intercalate (groups.map separator.intercalate) =
      separator.intercalate groups.flatten := by
  induction groups with
  | nil => rfl
  | cons group rest ih =>
    obtain ⟨here, later⟩ := List.forall_mem_cons.mp inhabited
    cases rest with
    | nil => simp
    | cons next rest =>
      have more : (next :: rest).flatten ≠ [] := by
        simpa using fun blank => absurd blank (later next (.head _))
      rw [List.map_cons, String.intercalate_cons_of_ne_nil (by simp), ih later,
        @List.flatten_cons _ group, String.intercalate_append_of_ne_nil here more]

theorem svgAttribute_eq (name value : String) :
    svgAttribute name value = SvgElement.attributeText (name, value) := by
  simp [svgAttribute, SvgElement.attributeText, toString]

/-- The attributes of a shape are written as those of its element. -/
private theorem parts_eq (shape : DashShape α) :
    shape.parts = (shape.element.name,
      String.join (shape.element.attributes.map SvgElement.attributeText)) := by
  cases shape with
  | ellipse cx cy rx ry =>
    simp only [DashShape.parts, DashShape.element, svgNumber, svgAttribute_eq, List.map_cons,
      List.map_nil, String.join_cons, String.join_nil, String.append_empty, String.append_assoc]
  | rect x y width height radius =>
    rw [DashShape.parts, DashShape.element]
    split
    all_goals
      simp only [svgNumber, svgAttribute_eq, List.append_nil, List.cons_append, List.nil_append,
        List.map_cons, List.map_nil, String.join_cons, String.join_nil, String.append_empty,
        String.append_assoc]
  | path steps =>
    have written : steps.map PathStep.svg = (steps.map PathStep.words).map (" ".intercalate ·) := by
      rw [List.map_map]
      exact List.map_congr_left fun step _ => step.svg_eq
    have inhabited : ∀ group ∈ steps.map (PathStep.words (α := α)), group ≠ [] := by
      simp only [List.forall_mem_map]
      rintro (_ | _ | _ | _) - <;> simp [PathStep.words]
    rw [DashShape.parts, DashShape.element, written, intercalate_flatten " " inhabited,
      svgAttribute_eq, List.flatMap_def]
    simp only [List.map_cons, List.map_nil, String.join_cons, String.join_nil, String.append_empty]

/-- A dashed stroke is drawn as its line on a canvas of the size of its frame. -/
theorem dashSvg_eq (color : String) (dashPattern : List α) (frame : DashFrame α)
    (shape : DashShape α) :
    dashSvg color dashPattern frame shape =
      (svgCanvas frame.width frame.height).around (shape.line color dashPattern frame.weight) := by
  have opens : "<svg" = "<" ++ "svg" := rfl
  have between : "><" = ">" ++ "<" := rfl
  have closes : "/></svg>" = "/>" ++ ("</" ++ ("svg" ++ ">")) := rfl
  unfold dashSvg
  rw [parts_eq]
  simp only [SvgElement.around, SvgElement.alone, SvgElement.head, svgCanvas, DashShape.line,
    svgAttribute_eq, svgNumber, List.cons_append, List.nil_append, List.map_append, List.map_cons,
    List.map_nil, String.join_append, String.join_cons, String.join_nil, opens, between, closes,
    String.append_assoc, String.append_empty]
  rfl

/-- The image is the drawing, held in the stylesheet as the bytes of its text. Nothing in it ends
the quoted address. -/
def ShowsImage (image svg : String) : Prop :=
  ∃ payload : List Char,
    image = "url(\"data:image/svg+xml," ++ String.ofList payload ++ "\")" ∧
      (∀ c ∈ payload, c.isAlphanum = true ∨ c ∈ ['_', '.', '-', '~', '%']) ∧
      Text.percentDecode payload = svg.toList.flatMap String.utf8EncodeChar

theorem showsImage_svgDataUri (svg : String) : ShowsImage (svgDataUri svg) svg := by
  refine ⟨Text.percentEncode svg.toList, rfl, fun c member => ?_,
    Text.percentDecode_percentEncode svg.toList⟩
  have plain := Text.isUnreserved_of_mem_percentEncode member
  simp only [Text.isUnreserved, Bool.or_eq_true, decide_eq_true_eq] at plain
  simpa [or_assoc] using plain

end Artboard
