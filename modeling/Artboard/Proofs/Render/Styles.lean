import Artboard.Proofs.Render.Depiction
import Artboard.Proofs.Render.Settled

/-!
# Style attributes

The style attributes of a drawn scene are read as the declarations that they are
written from: those of the boxes and, in the spans of a text, those of its
segments. What the nodes name freely must be settled for this, and the name of a
font with a quote in it is not.
-/
namespace Artboard

open Css Css.Declarations Markup

variable {α : Type} [Scalar α]

/-- No gap but the space is in the text. -/
def Markup.Flat (text : List Char) : Prop := ∀ c ∈ text, isGap c = true → c = ' '

instance (text : List Char) : Decidable (Flat text) :=
  List.decidableBAll (fun c => isGap c = true → c = ' ') text

/-- What the node names freely is settled, and the families of its fonts are on one line. -/
structure NodeProps.Legible (template : String) (node : NodeProps α) : Prop
    extends node.Settled template where
  flat : ∀ text ∈ node.text, ∀ segment ∈ text.segments, ∀ font ∈ segment.fontName,
    Flat font.family.toList

namespace Render

/-! ### Styles on one line -/

/-- The style of a segment is kept as it is where its markup is read. -/
theorem spaced_segmentCss {segment : TextSegment α} {bag : Declarations}
    (flat : ∀ font ∈ segment.fontName, Flat font.family.toList)
    (styled : Typography.segmentCss segment = .ok bag) :
    spaced (lineFeeds bag.serialize.toList) = bag.serialize.toList := by
  have whole : Flat bag.serialize.toList := by
    intro c member gap
    rcases mem_serialize_segmentCss styled member with style | ⟨font, known, inside⟩
    · simp only [isGap, Bool.or_eq_true, decide_eq_true_eq] at gap
      rcases gap with ((rfl | rfl) | rfl) | rfl
      · rfl
      all_goals cases style
    · exact flat font known c inside gap
  have fed : '\r' ∉ bag.serialize.toList := fun member => by
    cases whole '\r' member rfl
  rw [lineFeeds_eq_self fed, spaced]
  refine (List.map_congr_left fun c member => ?_).trans (List.map_id _)
  split
  next gap => exact (whole c member gap).symm
  · rfl

/-! ### Styles that are read back -/

/-- The style attribute of the head is what the bag is written as, and is read as its
declarations. -/
structure ReadsBack (bag : Declarations) (head : Head) : Prop where
  written : head.attribute? "style" = styleText? bag
  read : ∀ text, head.attribute? "style" = some text → readDeclarations text = bag.toList

theorem ReadsBack.of {bag : Declarations} {head : Head} (settled : bag.Settled)
    (written : head.attribute? "style" = styleText? bag) : ReadsBack bag head := by
  refine ⟨written, fun text found => ?_⟩
  rw [written, styleText?] at found
  split at found
  · cases found
  · cases found
    exact readDeclarations_serialize settled

/-- The styles of the heads of a text are those of its segments; nothing else in it has one. -/
structure SpansReadBack (text : TextData α) (heads : List Head) : Prop where
  spans : List.Forall₂ (fun segment head => ∃ bag, Typography.segmentCss segment = .ok bag ∧
    ReadsBack bag head) text.segments (heads.filter (·.name == .plain "span"))
  others : ∀ head ∈ heads, head.name ≠ .plain "span" → head.attribute? "style" = none

private theorem isEmpty_segmentCss {segment : TextSegment α} {bag : Declarations}
    (styled : Typography.segmentCss segment = .ok bag) : bag.isEmpty = false := by
  obtain ⟨color, -, styled⟩ := Except.bind_eq_ok_iff.mp styled
  cases styled
  exact isEmpty_ofList (by simp)

private theorem spansReadBack {template : String} {node : NodeProps α} {text : TextData α}
    {heads : List Head} (legible : node.Legible template) (known : text ∈ node.text)
    (shown : TextHeads text heads) : SpansReadBack text heads := by
  constructor
  · refine forall₂_imp_of_mem shown.spans fun segment member head ⟨bag, styled, only⟩ => ?_
    have settled : bag.Settled :=
      settled_segmentCss (legible.families text known segment member) styled
    refine ⟨bag, styled, .of settled ?_⟩
    rw [Head.attribute?, only, spaced_segmentCss (legible.flat text known segment member) styled,
      styleText?, isEmpty_segmentCss styled]
    simp
  · intro head member other
    rw [Head.attribute?, shown.others head member other]
    rfl

/-- What the outer element of a box declares in a mode. -/
def outerBag (mode : Mode) (outer : Declarations) : Declarations :=
  match mode with
  | .content => outer
  | .overlay => outer.subset geometryProperties

/-- The heads of a box have the styles of its wrapper and its own; those of its content have none,
except in texts and in drawings. -/
inductive StylesReadBack (tables : Tables) (entry : Entry α) (box : SceneBox α) : List Head → Prop
  | mk {styling outer around own inside} :
      boxStyling tables box = .ok (styling, outer) →
      List.Forall₂ ReadsBack (outer.map (outerBag tables.mode)).toList around →
      ReadsBack styling.css own →
      (box.kind ≠ .text → box.kind ≠ .svg → inside = []) →
      (box.kind = .text → inside = [] ∨ ∃ text ∈ entry.node.props.text, SpansReadBack text inside) →
      StylesReadBack tables entry box (around ++ own :: inside)

variable [Scalar.SettledTexts α]

private theorem stylesReadBack_of_headsOf {template : String} {root : Affine α} {entry : Entry α}
    {box : SceneBox α} {tables : Tables} {heads : List Head} (lawful : entry.Lawful)
    (legible : entry.node.props.Legible template) (compiled : CompiledAs template root entry box)
    (drawn : HeadsOf tables box heads) : StylesReadBack tables entry box heads := by
  cases drawn with
  | @mk styling outer content boxed filled =>
    obtain ⟨own, around⟩ := settled_boxStyling
      (settled_of_compiledAs lawful legible.toSettled compiled) boxed
    refine .mk boxed ?_ (.of own ?_) (fun text vector => ?_) (fun isText => ?_)
    · cases outer with
      | none => exact .nil
      | some outer =>
        have settled := around outer rfl
        refine .cons ?_ .nil
        have style : (outerHead tables.mode box outer).attribute? "style" =
            styleText? (outerBag tables.mode outer) := by
          rw [outerHead, attribute?_plainHead, style_wrapperAttributes, outerBag.eq_def]
          cases tables.mode <;> rfl
        refine .of ?_ style
        rw [outerBag.eq_def]
        split
        · exact settled
        · exact settled.filter _
    · rw [ownHead, attribute?_plainHead, style_boxAttributes]
    · rw [payload_eq_nil filled text vector]
      rfl
    · refine (ownContent_textHeads compiled isText filled).imp_right fun ⟨text, known, shown⟩ => ?_
      exact ⟨text, known, spansReadBack legible known shown⟩

/-- In both modes every style attribute of a box or of a span is read as the declarations that it
is written from, where the nodes are legible. -/
theorem styles_read_back {template : String} {provider : FontProvider}
    {composition : Composition α} {scene : CompiledScene α} {mode : Mode} {settings : Settings}
    {markup : RenderedMarkup}
    (compiled : compileComposition template provider composition = .ok scene)
    (rendered : renderScene mode settings scene = .ok markup)
    (legible : ∀ entry ∈ EntryTree.preorders composition.walk,
      entry.node.props.Legible template) :
    ∃ parts, headsAll markup.elements = parts.flatten ∧
      List.Forall₂ (fun box heads => ∃ entry ∈ EntryTree.preorders composition.walk,
        CompiledAs template composition.rootFrame entry box ∧
        StylesReadBack (.ofScene mode settings scene.nodes) entry box heads)
        (SceneNode.preorders scene.nodes) parts := by
  obtain ⟨parts, each, same⟩ := headsAll_of_renderScene rendered
  refine ⟨parts, same, forall₂_imp_of_mem each fun box member heads drawn => ?_⟩
  obtain ⟨entry, inside, compiledAs⟩ :=
    exists_of_mem_right (forall₂_preorders (follows_walk compiled)) member
  exact ⟨entry, inside, compiledAs, stylesReadBack_of_headsOf (lawful_walk composition entry inside)
    (legible entry inside) compiledAs drawn⟩

/-! ### A quote in the name of a font -/

/-- Three letters in one font. -/
def labelSegment (family : String) : TextSegment Rat where
  start := 0
  stop := none
  fontSize := some 12
  fontName := some ⟨family, "Bold"⟩
  fontWeight := none
  letterSpacing := none
  lineHeight := none
  fills := []
  textDecoration := none
  textCase := none

def labelText (family : String) : TextData Rat where
  characters := "Abc"
  segments := [labelSegment family]
  alignHorizontal := none
  alignVertical := none
  autoResize := none
  truncation := none
  paragraphIndent := 0

def labelProps (family : String) : NodeProps Rat :=
  { plainProps "label" "TEXT" ⟨1, 0, 0, 1, 0, 0⟩ with text := some (labelText family) }

def labelSketch (family : String) : Composition Rat where
  name := "label"
  absOrigin := some ⟨0, 0⟩
  bounds := none
  children := [.mk (labelProps family) []]

private theorem family_labelProps {family : String} {text : TextData Rat}
    (known : text ∈ (labelProps family).text) {segment : TextSegment Rat}
    (member : segment ∈ text.segments) {font : FontName} (named : font ∈ segment.fontName) :
    font.family = family := by
  obtain rfl : labelText family = text := Option.some.inj known
  obtain rfl : segment = labelSegment family := List.mem_singleton.mp member
  obtain rfl : ⟨family, "Bold"⟩ = font := Option.some.inj named
  rfl

private theorem legible_labelProps {template family : String}
    (settled : Css.Settled (Typography.fontStack family)) (flat : Flat family.toList) :
    (labelProps family).Legible template where
  lengths axis text symbolic := by cases axis <;> cases symbolic
  blending := (by decide : Css.Settled "normal")
  layers paint member := absurd member List.not_mem_nil
  images paint member := absurd member List.not_mem_nil
  families text known segment member font named := by
    rwa [family_labelProps known member named]
  flat text known segment member font named := by
    rwa [family_labelProps known member named]

def labelStyle (family : String) : String :=
  s!"font-size:12px;font-family:'{family}', sans-serif;font-weight:700;color:transparent;"

/-- The scene shows the text with this style. -/
def showsStyle (style : String) (scene : CompiledScene Rat) : Bool :=
  (renderScene .content .default scene).toOption.any fun markup =>
    (headsAll markup.elements).any fun head =>
      head.name == .plain "span" && head.attribute? "style" == some style

theorem labelSketch_reads_back :
    ∃ scene markup, compileComposition "" (fun _ => none) (labelSketch "Open Sans") = .ok scene ∧
      renderScene .content .default scene = .ok markup ∧
      showsStyle (labelStyle "Open Sans") scene = true ∧
      ∃ parts, headsAll markup.elements = parts.flatten ∧
        List.Forall₂ (fun box heads =>
          ∃ entry ∈ EntryTree.preorders (labelSketch "Open Sans").walk,
            CompiledAs "" (labelSketch "Open Sans").rootFrame entry box ∧
            StylesReadBack (.ofScene .content .default scene.nodes) entry box heads)
          (SceneNode.preorders scene.nodes) parts := by
  obtain ⟨scene, compiled, shown⟩ := Except.exists_of_any
    (showsStyle (labelStyle "Open Sans"))
    (show (compileComposition "" (fun _ => none) (labelSketch "Open Sans")).toOption.any _ = true by
      decide +kernel)
  obtain ⟨markup, rendered, -⟩ := Except.exists_of_any _ shown
  have legible : ∀ entry ∈ EntryTree.preorders (labelSketch "Open Sans").walk,
      entry.node.props.Legible "" := by
    have only : EntryTree.preorders (labelSketch "Open Sans").walk =
        [⟨.mk (labelProps "Open Sans") [], false, [], none⟩] := rfl
    rw [only, List.forall_mem_singleton]
    exact legible_labelProps (by decide) (by decide)
  exact ⟨scene, markup, compiled, rendered, shown, styles_read_back compiled rendered legible⟩

/-- A quote in the name of a font ends the quotes around the name, so that what follows is no longer
read as declarations of its own. -/
theorem apostrophe_breaks_style :
    ∃ scene markup head bag,
      compileComposition "" (fun _ => none) (labelSketch "O'Neil Sans") = .ok scene ∧
      renderScene .content .default scene = .ok markup ∧
      head ∈ headsAll markup.elements ∧ head.name = .plain "span" ∧
      Typography.segmentCss (labelSegment "O'Neil Sans") = .ok bag ∧
      head.attribute? "style" = some bag.serialize ∧
      readDeclarations bag.serialize ≠ bag.toList := by
  obtain ⟨bag, styled, known⟩ := Except.exists_of_any
    (fun bag => bag.serialize == labelStyle "O'Neil Sans" &&
      readDeclarations bag.serialize != bag.toList)
    (show (Typography.segmentCss (labelSegment "O'Neil Sans")).toOption.any _ = true by
      decide +kernel)
  simp only [Bool.and_eq_true, beq_iff_eq, bne_iff_ne] at known
  obtain ⟨scene, compiled, shown⟩ := Except.exists_of_any
    (showsStyle (labelStyle "O'Neil Sans"))
    (show (compileComposition "" (fun _ => none) (labelSketch "O'Neil Sans")).toOption.any _ =
      true by decide +kernel)
  obtain ⟨markup, rendered, found⟩ := Except.exists_of_any _ shown
  obtain ⟨head, member, carries⟩ := List.any_eq_true.mp found
  simp only [Bool.and_eq_true, beq_iff_eq] at carries
  exact ⟨scene, markup, head, bag, compiled, rendered, member, carries.1, styled,
    by rw [carries.2, known.1], known.2⟩

end Render

end Artboard
