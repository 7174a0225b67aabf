import Artboard.Proofs.Render.Depiction
import Artboard.Proofs.Scene.Enumeration
import Artboard.Proofs.Scene.Fonts

/-!
# References of a scene

A scene lists the images, the files and the fonts of its composition. The lists are
collected apart from its boxes, over other trees and with other rules for what is
hidden. Nothing that a box refers to is missing from them, in the content or in the
overlay.
-/
namespace Artboard.Render

open Markup Typography

variable {α : Type}

/-! ### Files -/

/-- The attributes that are not about files. -/
def innerAttributes : List String := ["class", "style", "alt", "data-layer-id", "data-name"]

/-- The attribute refers to one of the files, by its name or by its address, or to no file. -/
inductive Refers (template : String) (files : List String) : Attribute → Prop
  | nothing {name value} : name ∈ innerAttributes → Refers template files (.plain name, value)
  | name {file} : file ∈ files → Refers template files (.plain "data-svg-file", file)
  | address {file url} : file ∈ files → svgUrl template file = .ok url →
      Refers template files (.plain "src", url)

theorem Refers.mono {template : String} {files more : List String} {given : Attribute}
    (refers : Refers template files given) (within : files ⊆ more) :
    Refers template more given := by
  cases refers with
  | nothing known => exact .nothing known
  | name listed => exact .name (within listed)
  | address listed expanded => exact .address (within listed) expanded

/-- The heads refer to no file but these. -/
def ReferWithin (template : String) (files : List String) (heads : List Head) : Prop :=
  ∀ head ∈ heads, ∀ given ∈ head.attributes, Refers template files given

theorem referWithin_append {template : String} {files : List String} {heads others : List Head}
    (refer : ReferWithin template files heads) (rest : ReferWithin template files others) :
    ReferWithin template files (heads ++ others) :=
  List.forall_mem_append.mpr ⟨refer, rest⟩

private theorem referWithin_of_map {template : String} {files : List String} {head : Head}
    {attributes : List (String × String)}
    (named : head.attributes = attributes.map fun entry => (.plain entry.1, entry.2))
    (refer : ∀ entry ∈ attributes, Refers template files (.plain entry.1, entry.2)) :
    ReferWithin template files [head] := by
  intro _ single given member
  obtain rfl := List.mem_singleton.mp single
  rw [named] at member
  obtain ⟨entry, listed, rfl⟩ := List.mem_map.mp member
  exact refer entry listed

private theorem refers_styleAttribute {template : String} {files : List String}
    (bag : Css.Declarations) :
    ∀ entry ∈ styleAttribute bag, Refers template files (.plain entry.1, entry.2) := by
  unfold styleAttribute
  split
  · simp
  · exact List.forall_mem_singleton.mpr (.nothing (by simp [innerAttributes]))

/-- The heads of the drawing that a box holds. They are those that the drawing was given with, or
those of its outline. -/
def drawnHeads (mode : Mode) (box : SceneBox α) : List Head :=
  match mode, drawing? box with
  | .content, some drawing => drawing.heads
  | .overlay, some drawing => drawing.outlined.heads
  | _, none => []

/-- Apart from a drawing, the heads of a box refer to no file but these. -/
def HeadsRefer (tables : Tables) (files : List String) (box : SceneBox α) (heads : List Head) :
    Prop :=
  ∃ own, heads = own ++ drawnHeads tables.mode box ∧
    ReferWithin tables.svgUrlTemplate files own

theorem HeadsRefer.mono {tables : Tables} {files more : List String} {box : SceneBox α}
    {heads : List Head} (refer : HeadsRefer tables files box heads) (within : files ⊆ more) :
    HeadsRefer tables more box heads := by
  obtain ⟨own, same, refer⟩ := refer
  exact ⟨own, same, fun head member given here => (refer head member given here).mono within⟩

private theorem drawnHeads_of_drawing {box : SceneBox α} (nothing : drawing? box = none)
    (mode : Mode) : drawnHeads mode box = [] := by
  unfold drawnHeads
  rw [nothing]
  cases mode <;> rfl

private theorem headsRefer_nil (tables : Tables) {box : SceneBox α}
    (nothing : drawing? box = none) (files : List String) : HeadsRefer tables files box [] :=
  ⟨[], (drawnHeads_of_drawing nothing _).symm, by simp [ReferWithin]⟩

private theorem headsRefer_vectorContent {tables : Tables} {box : SceneBox α} {content : Fragment}
    (filled : vectorContent tables box = .ok content) :
    HeadsRefer tables box.svgFile.toList box (headsAll content.elements) := by
  unfold vectorContent at filled
  split at filled
  next drawing mode drawn =>
    cases filled
    refine ⟨[], ?_, by simp [ReferWithin]⟩
    unfold drawnHeads
    rw [mode, drawn]
    exact List.append_nil _
  next file mode nothing known =>
    obtain ⟨url, expanded, filled⟩ := Except.bind_eq_ok_iff.mp filled
    cases filled
    have refer : ∀ entry ∈ [("src", url), ("alt", "")],
        Refers tables.svgUrlTemplate box.svgFile.toList (.plain entry.1, entry.2) :=
      List.forall_mem_cons.mpr ⟨.address (by simp [known]) expanded,
        List.forall_mem_singleton.mpr (.nothing (by decide))⟩
    refine ⟨[(Element.plain "img" [("src", url), ("alt", "")] []).head], ?_,
      referWithin_of_map rfl refer⟩
    rw [drawnHeads_of_drawing nothing, List.append_nil]
    rfl
  next drawing mode drawn =>
    cases filled
    refine ⟨[], ?_, by simp [ReferWithin]⟩
    unfold drawnHeads
    rw [mode, drawn]
    exact List.append_nil _
  next noDrawing noOutline _ =>
    -- A drawing would be shown in either mode.
    cases filled
    refine headsRefer_nil tables ?_ _
    cases drawn : drawing? box with
    | none => rfl
    | some drawing =>
      cases mode : tables.mode with
      | content => exact (noDrawing drawing mode drawn).elim
      | overlay => exact (noOutline drawing mode drawn).elim

private theorem refers_wrapperAttributes {template : String} {files : List String} (mode : Mode)
    (box : SceneBox α) (outer : Css.Declarations) : ∀ entry ∈ wrapperAttributes mode box outer,
      Refers template files (.plain entry.1, entry.2) := by
  unfold wrapperAttributes
  cases mode <;> refine List.forall_mem_append.mpr ⟨?_, refers_styleAttribute _⟩
  · exact List.forall_mem_singleton.mpr (.nothing (by decide))
  · exact List.forall_mem_cons.mpr ⟨.nothing (by decide),
      List.forall_mem_singleton.mpr (.nothing (by simp [innerAttributes]))⟩

private theorem refers_fileAttribute {template : String} (mode : Mode) (box : SceneBox α) :
    ∀ entry ∈ fileAttribute mode box,
      Refers template box.svgFile.toList (.plain entry.1, entry.2) := by
  unfold fileAttribute
  split
  next known => exact List.forall_mem_singleton.mpr (.name (by simp [known]))
  · simp

private theorem refers_boxAttributes {template : String} (mode : Mode) (box : SceneBox α)
    (styling : Styling) : ∀ entry ∈ boxAttributes mode box (fileAttribute mode box) styling,
      Refers template box.svgFile.toList (.plain entry.1, entry.2) := by
  unfold boxAttributes
  dsimp only
  simp only [List.forall_mem_append]
  refine ⟨⟨⟨List.forall_mem_singleton.mpr (.nothing (by simp [innerAttributes])), ?_⟩,
    refers_fileAttribute mode box⟩, refers_styleAttribute _⟩
  have layer : Refers template box.svgFile.toList (.plain "data-layer-id", box.id) :=
    .nothing (by simp [innerAttributes])
  have name : Refers template box.svgFile.toList (.plain "data-name", box.name) :=
    .nothing (by simp [innerAttributes])
  cases mode with
  | content => cases box.hasStroke <;> simp [layer]
  | overlay => simp [layer, name]

section Boxes

variable [Scalar α]

private theorem referWithin_textHeads {text : TextData α} {heads : List Head}
    (isText : TextHeads text heads) (template : String) (files : List String) :
    ReferWithin template files heads := by
  intro head member given here
  by_cases span : head.name = .plain "span"
  · have listed : head ∈ heads.filter (·.name == .plain "span") :=
      List.mem_filter.mpr ⟨member, by simp [span]⟩
    obtain ⟨segment, -, bag, -, styled⟩ := exists_of_mem_right isText.spans listed
    rw [styled] at here
    obtain rfl := List.mem_singleton.mp here
    exact .nothing (by simp [innerAttributes])
  · rw [isText.others head member span] at here
    cases here

/-- The content of a compiled box refers to the file of the box, if to any. -/
private theorem headsRefer_content {template : String} {root : Affine α} {entry : Entry α}
    {box : SceneBox α} (compiled : CompiledAs template root entry box) {tables : Tables}
    {content : Fragment} (filled : ownContent tables box = .ok content) :
    HeadsRefer tables box.svgFile.toList box (headsAll content.elements) := by
  by_cases vector : box.kind = .svg
  · exact headsRefer_vectorContent (vectorContent_of_ownContent vector filled)
  -- Only vectors hold a drawing. A text holds spans with a style, and other boxes hold nothing.
  have nothing : drawing? box = none := by
    unfold drawing?
    split
    next same _ => exact absurd same vector
    · rfl
  have inner : ReferWithin tables.svgUrlTemplate box.svgFile.toList
      (headsAll content.elements) := by
    by_cases isText : box.kind = .text
    · rcases ownContent_textHeads compiled isText filled with none | ⟨text, -, heads⟩
      · simp [none, ReferWithin]
      · exact referWithin_textHeads heads _ _
    · rw [payload_eq_nil filled isText vector]
      simp [headsAll, ReferWithin]
  exact ⟨_, by rw [drawnHeads_of_drawing nothing, List.append_nil], inner⟩

/-- What is drawn for a compiled box refers to the file of the box, if to any. -/
theorem headsRefer_of_headsOf {template : String} {root : Affine α} {entry : Entry α}
    {box : SceneBox α} (compiled : CompiledAs template root entry box) {tables : Tables}
    {heads : List Head} (headsOf : HeadsOf tables box heads) :
    HeadsRefer tables box.svgFile.toList box heads := by
  cases headsOf with
  | @mk styling outer content boxed filled =>
    obtain ⟨own, same, refer⟩ := headsRefer_content compiled filled
    refine ⟨(outer.map (outerHead tables.mode box)).toList ++
      ([ownHead tables.mode box styling content.text] ++ own), by simp [same], ?_⟩
    refine referWithin_append ?_ (referWithin_append ?_ refer)
    · cases outer with
      | none => simp [ReferWithin]
      | some outer => exact referWithin_of_map rfl (refers_wrapperAttributes _ _ _)
    · exact referWithin_of_map rfl (refers_boxAttributes _ _ _)

/-- What is drawn for the boxes of a scene, box by box, refers to no file that it does not list. -/
def DrawsListed (mode : Mode) (settings : Settings) (scene : CompiledScene α)
    (elements : List Element) : Prop :=
  ∃ parts, headsAll elements = parts.flatten ∧
    List.Forall₂ (HeadsRefer (.ofScene mode settings scene.nodes) scene.svgFiles)
      (SceneNode.preorders scene.nodes) parts

theorem drawsListed_of_renderScene {template : String} {provider : FontProvider}
    {composition : Composition α} {scene : CompiledScene α} {mode : Mode} {settings : Settings}
    {markup : RenderedMarkup}
    (compiled : compileComposition template provider composition = .ok scene)
    (rendered : renderScene mode settings scene = .ok markup) :
    DrawsListed mode settings scene markup.elements := by
  obtain ⟨parts, each, same⟩ := headsAll_of_renderScene rendered
  refine ⟨parts, same, forall₂_imp_of_mem each fun box member heads headsOf => ?_⟩
  obtain ⟨entry, -, compiledAs⟩ :=
    exists_of_mem_right (forall₂_preorders (follows_walk compiled)) member
  refine (headsRefer_of_headsOf compiledAs headsOf).mono fun file own => ?_
  rw [(collects_of_compiled compiled).svgFiles]
  refine ((firstSeen_foldl _).listed file).mpr (List.mem_filterMap.mpr ⟨box, member, ?_⟩)
  simpa using own

end Boxes

/-! ### Scenes -/

section Scenes

variable [Scalar α]

/-- The segments of a text are set in these fonts: those that ask for a font by its
family and whose weight is not zero. -/
def SetInFonts (fonts : List FontUse) (text : TextData α) : Prop :=
  ∀ segment ∈ text.segments, ∀ name ∈ segment.fontName,
    name.family ≠ "" → segment.fontWeight ≠ some 0 →
      ∃ css, segmentCss segment = .ok css ∧ ∃ font, SetIn fonts name css font

/-- The scene lists the images that a box draws, and the fonts of its text. -/
structure Listed (template : String) (scene : CompiledScene α) (entry : Entry α)
    (box : SceneBox α) : Prop where
  images : imagesOf entry.node.props ⊆ scene.images
  draws : DrawsImages template (imagesOf entry.node.props) entry.node.props box
  fonts : box.kind = .text → ∃ text ∈ entry.node.props.text, ∃ wrap markup,
    textMarkup text wrap = .ok markup ∧ box.content = .text markup ∧ SetInFonts scene.fonts text

/-- What a scene lists has no repetition, is in the order of the document and is complete. One
address asks for all its fonts. -/
structure ListsReferences (template : String) (composition : Composition α)
    (scene : CompiledScene α) : Prop where
  images : FirstSeen scene.images
    ((Node.preorders composition.children).flatMap fun node => imagesOf node.props)
  files : FirstSeen scene.svgFiles ((SceneNode.preorders scene.nodes).filterMap SceneBox.svgFile)
  fonts : Serves (fontDemands composition) scene.fonts
  boxes : List.Forall₂ (Listed template scene) (EntryTree.preorders composition.walk)
    (SceneNode.preorders scene.nodes)
  address : ∃ specs, List.Forall₂ AsksFor scene.fonts specs ∧
    scene.fontUrl = if scene.fonts.isEmpty then none else some (serviceUrl specs)

private theorem segmentCss_of_textMarkup {text : TextData α} {wrap : Bool} {markup : String}
    (written : textMarkup text wrap = .ok markup) {segment : TextSegment α}
    (member : segment ∈ text.segments) : ∃ css, segmentCss segment = .ok css := by
  obtain ⟨body, bodied, -⟩ := textMarkup_cases written
  cases bodied with
  | run none => simp [none] at member
  | segments _ visited =>
    obtain ⟨part, -, marked⟩ := exists_of_mem_left visited member
    obtain ⟨css, styled, -⟩ := Except.bind_eq_ok_iff.mp marked
    exact ⟨css, styled⟩

omit [Scalar α] in
private theorem mem_fontDemands {composition : Composition α} {node : Node α}
    (inside : node ∈ Node.preorders composition.children) {text : TextData α}
    (given : text ∈ node.props.text) {segment : TextSegment α} (member : segment ∈ text.segments)
    {demand : FontDemand} (asks : demand ∈ segment.demand?) : demand ∈ fontDemands composition := by
  refine List.mem_filterMap.mpr ⟨segment, List.mem_flatMap.mpr ⟨node, inside, ?_⟩, asks⟩
  rw [segmentsOf, Option.mem_def.mp given]
  exact member

theorem listsReferences_of_compiled {template : String} {provider : FontProvider}
    {composition : Composition α} {scene : CompiledScene α}
    (compiled : compileComposition template provider composition = .ok scene) :
    ListsReferences template composition scene := by
  have collects := collects_of_compiled compiled
  have images : FirstSeen scene.images
      ((Node.preorders composition.children).flatMap fun node => imagesOf node.props) := by
    rw [collects.images, forestImages_eq]
    exact firstSeen_foldl _
  have fonts : Serves (fontDemands composition) scene.fonts :=
    collects.fonts ▸ serves_fontsOf composition
  refine ⟨images, collects.svgFiles ▸ firstSeen_foldl _, fonts, ?_,
    collects.fontUrl ▸ fontServiceUrl_eq scene.fonts⟩
  refine forall₂_imp_of_mem (forall₂_preorders (follows_walk compiled))
    fun entry member box compiledAs => ?_
  -- The walk leaves nodes out but adds none, so that the lists know the node of every entry.
  have inside : entry.node ∈ Node.preorders composition.children :=
    (compiled_scene_shows_walk compiled).once.subset (List.mem_map_of_mem member)
  refine ⟨fun id own => (images.listed id).mpr (List.mem_flatMap.mpr ⟨entry.node, inside, own⟩),
    drawsImages_of_compiledAs compiledAs, fun isText => ?_⟩
  obtain ⟨text, given, wrap, markup, written, content, -⟩ := text_of_compiledAs compiledAs isText
  refine ⟨text, given, wrap, markup, written, content, ?_⟩
  intro segment here name named family weighted
  obtain ⟨css, styled⟩ := segmentCss_of_textMarkup written here
  exact ⟨css, styled, fonts.exists_setIn (fun demand => mem_fontDemands inside given here) named
    family weighted styled⟩

/-- Nothing is missing from what a scene lists, neither what its boxes refer to nor what is drawn
for them in the content or in the overlay. -/
theorem scene_lists_references {template : String} {provider : FontProvider}
    {composition : Composition α} {scene : CompiledScene α}
    (compiled : compileComposition template provider composition = .ok scene) :
    ListsReferences template composition scene ∧
      ∀ {mode : Mode} {settings : Settings} {markup : RenderedMarkup},
        renderScene mode settings scene = .ok markup →
          DrawsListed mode settings scene markup.elements :=
  ⟨listsReferences_of_compiled compiled, drawsListed_of_renderScene compiled⟩

end Scenes

/-! ### A page with images, fonts and a file -/

def imageProps (id : String) (images : List String) : NodeProps Rat :=
  let props := plainProps id "RECTANGLE" .identity
  { props with
    style := { props.style with
      fills := images.map fun image => ⟨true, 1, none, .image ⟨some image, .fill, none⟩⟩ } }

def captionSegment (family style : String) (weight : Option Int) : TextSegment Rat where
  start := 0
  stop := none
  fontSize := none
  fontName := some ⟨family, style⟩
  fontWeight := weight
  letterSpacing := none
  lineHeight := none
  fills := []
  textDecoration := none
  textCase := none

def captionText (segments : List (TextSegment Rat)) : TextData Rat :=
  ⟨"Abc", segments, none, none, none, none, 0⟩

/-- A shape with two images, a text, a hidden text with an image and a family that nothing else
has, and a vector with a file in the group of a mask. -/
def referringSketch : Composition Rat where
  name := "references"
  absOrigin := some ⟨0, 0⟩
  bounds := none
  children :=
    [.mk (plainProps "page" "FRAME" .identity)
      [.mk (imageProps "photos" ["first", "second"]) [],
       .mk { plainProps "caption" "TEXT" .identity with
             text := some (captionText [captionSegment "Lora" "Bold Italic" none]) } [],
       .mk { imageProps "hidden" ["third", "second"] with
             visible := false
             text := some (captionText [captionSegment "Inter" "Regular" none,
               captionSegment "Lora" "Regular" (some 450)]) } [],
       .mk { imageProps "mask" ["fourth"] with isMask := true } [],
       .mk { plainProps "drawing" "VECTOR" .identity with
             svgId := some "2:1", absoluteRenderBounds := some ⟨0, 0, 10, 20⟩ } []]]

/-- The attributes of the elements that refer to files. -/
def fileAttributes (elements : List Element) : List Attribute :=
  (headsAll elements).flatMap fun head => head.attributes.filter fun given =>
    given.1 == .plain "src" || given.1 == .plain "data-svg-file"

theorem referringSketch_lists_references :
    ∃ scene content overlay,
      compileComposition "images/\x7bimage_id\x7d" (fun _ => none) referringSketch = .ok scene ∧
      renderScene .content .default scene = .ok content ∧
      renderScene .overlay .default scene = .ok overlay ∧
      scene.images = ["first", "second", "third", "fourth"] ∧
      scene.svgFiles = ["2_1.svg"] ∧
      scene.fonts = [⟨"Lora", [450, 700], ["Bold Italic", "Regular"]⟩,
        ⟨"Inter", [400], ["Regular"]⟩] ∧
      fileAttributes content.elements = [(.plain "src", "svgs/2_1.svg")] ∧
      fileAttributes overlay.elements = [(.plain "data-svg-file", "2_1.svg")] ∧
      ListsReferences "images/\x7bimage_id\x7d" referringSketch scene ∧
      DrawsListed .content .default scene content.elements ∧
      DrawsListed .overlay .default scene overlay.elements := by
  obtain ⟨scene, compiled, holds⟩ := Except.exists_of_any
    (fun scene : CompiledScene Rat =>
      decide (scene.images = ["first", "second", "third", "fourth"] ∧
        scene.svgFiles = ["2_1.svg"] ∧
        scene.fonts = [⟨"Lora", [450, 700], ["Bold Italic", "Regular"]⟩,
          ⟨"Inter", [400], ["Regular"]⟩]) &&
      ((renderScene .content .default scene).toOption.any fun markup =>
        fileAttributes markup.elements = [(.plain "src", "svgs/2_1.svg")]) &&
      (renderScene .overlay .default scene).toOption.any fun markup =>
        fileAttributes markup.elements = [(.plain "data-svg-file", "2_1.svg")])
    (show (compileComposition "images/\x7bimage_id\x7d" (fun _ => none)
      referringSketch).toOption.any _ = true by decide +kernel)
  simp only [Bool.and_eq_true, decide_eq_true_eq] at holds
  obtain ⟨⟨⟨images, files, fonts⟩, inner⟩, outer⟩ := holds
  obtain ⟨content, drawn, sources⟩ := Except.exists_of_any _ inner
  obtain ⟨overlay, outlined, names⟩ := Except.exists_of_any _ outer
  obtain ⟨lists, draws⟩ := scene_lists_references compiled
  exact ⟨scene, content, overlay, compiled, drawn, outlined, images, files, fonts,
    by simpa using sources, by simpa using names, lists, draws drawn, draws outlined⟩

end Artboard.Render
