import Artboard.Proofs.Css.Numbers
import Artboard.Proofs.Scene.Hidden
import Artboard.Proofs.Scene.Properties
import Mathlib.Data.List.Chain
import Mathlib.Data.List.Induction

/-!
# Images of a scene

A scene lists the images that the nodes of its composition fill with, hidden or
not, each once and in document order. Every layer of a background or a mask either
quotes the address of such an image or has no address in it.
-/
namespace Artboard

open Css Css.Declarations

variable {α : Type}

/-! ### First occurrences -/

/-- The list has what occurs in the document, each once and in the order of first occurrences. -/
structure FirstSeen (seen document : List String) : Prop where
  listed : ∀ text, text ∈ seen ↔ text ∈ document
  once : seen.Nodup
  ordered : seen.Pairwise fun first second => document.idxOf first < document.idxOf second

/-- A text at the end of the document is added where it is new. -/
theorem FirstSeen.snoc {seen document : List String} (known : FirstSeen seen document)
    (text : String) : FirstSeen (addNew seen text) (document ++ [text]) := by
  have place {other : String} (member : other ∈ seen) :
      (document ++ [text]).idxOf other = document.idxOf other :=
    List.idxOf_append_of_mem ((known.listed other).mp member)
  have kept : seen.Pairwise fun first second =>
      (document ++ [text]).idxOf first < (document ++ [text]).idxOf second :=
    known.ordered.imp_of_mem fun first second before => by rwa [place first, place second]
  rw [addNew]
  split
  next here =>
    have listed := (known.listed text).mp (by simpa using here)
    refine ⟨fun other => ?_, known.once, kept⟩
    rw [known.listed, List.mem_append, List.mem_singleton]
    exact ⟨.inl, fun member => member.elim id fun same => same ▸ listed⟩
  next new =>
    have missing : text ∉ seen := by simpa using new
    have last : (document ++ [text]).idxOf text = document.length := by
      rw [List.idxOf_append_of_notMem (mt (known.listed text).mpr missing)]
      simp
    refine ⟨fun other => by simp [known.listed], ?_, ?_⟩
    · exact List.nodup_append.mpr ⟨known.once, by simp, by grind⟩
    · refine List.pairwise_append.mpr ⟨kept, by simp, fun other member added same => ?_⟩
      obtain rfl := List.mem_singleton.mp same
      rw [place member, last]
      exact List.idxOf_lt_length_of_mem ((known.listed other).mp member)

/-- Adding what is new, text by text, lists first occurrences. -/
theorem firstSeen_foldl (document : List String) :
    FirstSeen (document.foldl addNew []) document := by
  induction document using List.reverseRecOn with
  | nil => exact ⟨by simp, by simp, .nil⟩
  | append_singleton document text ih =>
    rw [List.foldl_append]
    exact ih.snoc text

/-! ### What is collected -/

/-- What is collected from trees in document order is what each node adds by itself. -/
theorem collected_eq {β : Type} {tree : Node α → List β} {forest : List (Node α) → List β}
    {own : NodeProps α → List β}
    (mk : ∀ props children, tree (.mk props children) = own props ++ forest children)
    (nil : forest [] = []) (cons : ∀ node rest, forest (node :: rest) = tree node ++ forest rest)
    (nodes : List (Node α)) :
    forest nodes = (Node.preorders nodes).flatMap fun node => own node.props := by
  have forests {nodes : List (Node α)}
      (each : ∀ node ∈ nodes, tree node = node.preorder.flatMap fun node => own node.props) :
      forest nodes = (Node.preorders nodes).flatMap fun node => own node.props := by
    induction nodes with
    | nil => exact nil
    | cons node rest ih =>
      obtain ⟨first, others⟩ := List.forall_mem_cons.mp each
      rw [cons, first, ih others, Node.preorders, List.flatMap_append]
  have trees (node : Node α) : tree node = node.preorder.flatMap fun node => own node.props := by
    induction node using Node.memInduction with
    | step props children ih =>
      rw [mk, forests ih, Node.preorder, List.flatMap_cons]
      rfl
  exact forests fun node _ => trees node

theorem forestImages_eq (nodes : List (Node α)) :
    forestImages nodes = (Node.preorders nodes).flatMap fun node => imagesOf node.props :=
  collected_eq treeImages.eq_1 forestImages.eq_1 forestImages.eq_2 nodes

/-- What a compiled scene lists is collected from its composition and from its boxes. -/
structure Collects [Scalar α] (composition : Composition α) (scene : CompiledScene α) : Prop where
  fonts : scene.fonts = fontsOf composition
  fontUrl : scene.fontUrl = fontServiceUrl scene.fonts
  images : scene.images = (forestImages composition.children).foldl addNew []
  svgFiles :
    scene.svgFiles = ((SceneNode.preorders scene.nodes).filterMap SceneBox.svgFile).foldl addNew []

variable [Scalar α]

theorem collects_of_compiled {template : String} {provider : FontProvider}
    {composition : Composition α} {scene : CompiledScene α}
    (compiled : compileComposition template provider composition = .ok scene) :
    Collects composition scene := by
  by_cases blank : composition.children = []
  · rw [compileComposition_of_blank _ _ blank] at compiled
    cases compiled
    have fonts : fontsOf composition = [] := by rw [fontsOf, blank]; rfl
    exact ⟨fonts.symm, rfl, by rw [blank]; rfl, rfl⟩
  · cases known : composition.absOrigin with
    | none => simp [compileComposition, blank, known] at compiled
    | some origin =>
      rw [compileComposition_of_inhabited _ _ _ blank known] at compiled
      obtain ⟨nodes, -, compiled⟩ := Except.bind_eq_ok_iff.mp compiled
      cases joined : renderUnion composition.children with
      | error fault =>
        rw [joined] at compiled
        cases compiled
      | ok union =>
        rw [joined] at compiled
        cases compiled
        exact ⟨rfl, rfl, rfl, rfl⟩

/-! ### Texts without an address -/

/-- No address is in the text. -/
def HasNoAddress (text : String) : Prop := ¬ "url(".toList <:+: text.toList

/-- No parenthesis of the text follows the letter that ends the name of an address, nor does one
start the text. -/
private def Unlinked (text : String) : Prop :=
  ('l' :: text.toList).IsChain fun before after => after = '(' → before ≠ 'l'

private instance (text : String) : Decidable (Unlinked text) :=
  inferInstanceAs (Decidable (List.IsChain _ _))

private theorem Unlinked.hasNoAddress {text : String} (unlinked : Unlinked text) :
    HasNoAddress text := fun within => by
  have opened := List.IsChain.infix unlinked (within.trans (List.suffix_cons 'l' _).isInfix)
  revert opened
  decide

private theorem Unlinked.append {first second : String} (one : Unlinked first)
    (other : Unlinked second) : Unlinked (first ++ second) := by
  rw [Unlinked, String.toList_append, ← List.cons_append]
  refine List.isChain_append.mpr ⟨one, other.tail, fun before _ after start opens => ?_⟩
  have apart : after = '(' → 'l' ≠ 'l' := by
    cases second : second.toList with
    | nil => simp [second] at start
    | cons c rest =>
      rw [Unlinked, second] at other
      rw [second] at start
      obtain rfl : c = after := by simpa using start
      exact other.rel
  exact absurd rfl (apart opens)

private theorem unlinked_of_isWord {text : String} (word : IsWord text.toList) : Unlinked text := by
  refine List.Pairwise.isChain (List.pairwise_of_forall_mem_list fun before _ after member => ?_)
  rcases List.mem_cons.mp member with rfl | member
  · exact fun same => absurd same (by decide)
  · rintro rfl
    cases word '(' member

private theorem unlinked_intercalate {texts : List String}
    (each : ∀ text ∈ texts, Unlinked text) : Unlinked (String.intercalate ", " texts) := by
  have joined : Unlinked (String.ofList (", ".toList.intercalate (texts.map String.toList))) := by
    refine intercalate_closed (P := fun chars => Unlinked (String.ofList chars)) (by decide) ?_
      (by decide) (List.forall_mem_map.mpr (by simpa using each))
    exact fun one other => by simpa using one.append other
  rwa [← String.toList_intercalate, String.ofList_toList] at joined

private theorem unlinked_int (value : Int) : Unlinked (toString value) :=
  unlinked_of_isWord (isWord_int value)

namespace Paint

private theorem unlinked_colorCss {color : Color α} {opacity : α} {text : String}
    (written : colorCss color opacity = .ok text) : Unlinked text := by
  have comma : Unlinked "," := by decide
  have ends : Unlinked ")" := by decide
  cases colorCss_cases written with
  | @full r g b =>
    exact ((((((show Unlinked "rgb(" by decide).append (unlinked_int r)).append comma).append
      (unlinked_int g)).append comma).append (unlinked_int b)).append ends
  | @sheer r g b =>
    have alpha : Unlinked (Css.number (color.a * opacity) 2) :=
      unlinked_of_isWord (isWord_number _ (by decide))
    exact ((((((((show Unlinked "rgba(" by decide).append (unlinked_int r)).append comma).append
      (unlinked_int g)).append comma).append (unlinked_int b)).append comma).append alpha).append
        ends

private theorem unlinked_stopCss {opacity : α} {stop : GradientStop α} {text : String}
    (written : stopCss opacity stop = .ok text) : Unlinked text := by
  obtain ⟨color, colored, rfl⟩ := stopCss_cases written
  exact (((unlinked_colorCss colored).append (by decide)).append
    (unlinked_of_isWord (Fixed.isWord_signed _ _))).append (by decide)

private theorem unlinked_opening {gradient : Gradient α} {width height : α} {text : String}
    (opening : GradientOpening gradient width height text) : Unlinked text := by
  cases opening with
  | linear =>
    exact ((show Unlinked "linear-gradient(" by decide).append (unlinked_int _)).append
      (show Unlinked "deg, " by decide)
  | radial => decide
  | angular => decide
  | diamond => decide

private theorem unlinked_gradientCss {gradient : Gradient α} {opacity width height : α}
    {text : String} (written : gradientCss gradient opacity width height = .ok (some text)) :
    Unlinked text := by
  cases gradientCss_cases written with
  | several _ opening visited =>
    refine ((unlinked_opening opening).append (unlinked_intercalate fun text member => ?_)).append
      (by decide)
    obtain ⟨stop, -, written⟩ := exists_of_mem_right visited member
    exact unlinked_stopCss written

end Paint

/-! ### Layers -/

/-- The text is the quoted address of one of the images. -/
def QuotesImage (template : String) (images : List String) (text : String) : Prop :=
  ∃ id ∈ images, ∃ url, Paint.imageUrl template id = .ok url ∧ text = Paint.quotedUrl url

theorem QuotesImage.mono {template text : String} {images more : List String}
    (quotes : QuotesImage template images text) (within : images ⊆ more) :
    QuotesImage template more text := by
  obtain ⟨id, member, quoted⟩ := quotes
  exact ⟨id, within member, quoted⟩

/-- What the paints of a node draw: its background is the list of its layers, or one of a single
layer that is not an image, and its mask is an image. No layer has the address of any other image
than those given. -/
structure DrawsImages (template : String) (images : List String) (node : NodeProps α)
    (box : SceneBox α) : Prop where
  background : ∀ name ∈ ["background", "background-image"], ∀ value,
    box.declarations.get? name = some value → HasNoAddress value ∨
      ∃ layers, Paint.layers template node = .ok layers ∧
        value = Paint.joined Paint.Layer.image layers ∧
        ∀ layer ∈ layers, QuotesImage template images layer.image ∨ HasNoAddress layer.image
  mask : ∀ name ∈ ["-webkit-mask-image", "mask-image"], ∀ value,
    box.declarations.get? name = some value → QuotesImage template images value

omit [Scalar α] in
private theorem mem_imagesOf {node : NodeProps α} {paint : Paint α} {source : ImageSource α}
    {id : String} (filled : paint ∈ node.style.fills) (known : paint.image? = some source)
    (named : source.imageId = some id) (given : id.isEmpty = false) : id ∈ imagesOf node := by
  refine List.mem_filterMap.mpr ⟨paint, filled, ?_⟩
  simp [known, named, String.isEmpty_eq_false_iff.mp given]

/-- A layer is the image of its paint, or has no address at all. A solid one has its colour. -/
private theorem layer_cases {template : String} {node : NodeProps α} {found : List Paint.Layer}
    (painted : Paint.layers template node = .ok found) : ∀ layer ∈ found,
      (QuotesImage template (imagesOf node) layer.image ∨ Unlinked layer.image) ∧
        ∀ color ∈ layer.color, Unlinked color := by
  intro layer member
  obtain ⟨paint, filled, -, painted⟩ := Paint.exists_layerOf_of_layers painted layer member
  cases painted with
  | image known named given expanded =>
    exact ⟨.inl ⟨_, mem_imagesOf filled known named given, _, expanded, rfl⟩, by simp⟩
  | gradient _ written => exact ⟨.inr (Paint.unlinked_gradientCss written), by simp⟩
  | solid _ written =>
    have colored := Paint.unlinked_colorCss written
    refine ⟨.inr ?_, by simpa using colored⟩
    exact ((((show Unlinked "linear-gradient(0deg, " by decide).append colored).append
      (show Unlinked " 0%, " by decide)).append colored).append (show Unlinked " 100%)" by decide)

/-- A background is declared layer by layer. -/
private theorem background_cases {template : String} {node : NodeProps α} {bag : Css.Declarations}
    (painted : Paint.BackgroundOf template node bag) {name value : String}
    (layered : name ∈ layerProperties) (declared : bag.get? name = some value) :
    name ∈ ["background", "background-image"] ∧ (HasNoAddress value ∨
      ∃ layers, Paint.layers template node = .ok layers ∧
        value = Paint.joined Paint.Layer.image layers) := by
  replace declared := get?_eq_some_iff.mp declared
  -- What else is declared beside the images is not made of layers.
  have positions : "background-position" ∉ layerProperties ∧
      "background-size" ∉ layerProperties ∧ "background-repeat" ∉ layerProperties ∧
      "background-blend-mode" ∉ layerProperties := by decide
  cases painted with
  | blank => cases declared
  | @single layer drawn =>
    replace declared := mem_of_mem_ofList declared
    have alone : layer.image = Paint.joined Paint.Layer.image [layer] := by simp [Paint.joined]
    unfold Paint.singleLayer at declared
    split at declared
    · obtain ⟨rfl, rfl⟩ := Prod.mk.inj (List.mem_singleton.mp declared)
      cases colored : layer.color with
      | none => exact ⟨by simp, .inr ⟨_, drawn, alone⟩⟩
      | some color =>
        have plain := (layer_cases drawn layer (.head _)).2 color colored
        exact ⟨by simp, .inl plain.hasNoAddress⟩
    · obtain ⟨rfl, rfl⟩ := Prod.mk.inj (List.mem_singleton.mp declared)
      exact ⟨by simp, .inr ⟨_, drawn, alone⟩⟩
    · simp only [List.mem_cons, Prod.mk.injEq, List.not_mem_nil, or_false] at declared
      rcases declared with ⟨rfl, rfl⟩ | ⟨rfl, -⟩ | ⟨rfl, -⟩ | ⟨rfl, -⟩
      · exact ⟨by simp, .inr ⟨_, drawn, alone⟩⟩
      all_goals simp_all
  | several drawn =>
    replace declared := mem_of_mem_ofList declared
    simp only [Paint.severalLayers, List.mem_append, List.mem_cons, Prod.mk.injEq,
      List.not_mem_nil, or_false] at declared
    rcases declared with (⟨rfl, rfl⟩ | ⟨rfl, -⟩ | ⟨rfl, -⟩ | ⟨rfl, -⟩) | blend
    · exact ⟨by simp, .inr ⟨_, drawn, rfl⟩⟩
    · simp_all
    · simp_all
    · simp_all
    · split at blend <;> simp_all

/-- The mask of an image fill is its image. -/
private theorem mask_cases {template : String} {mask : NodeProps α} {image : Css.Declarations}
    (painted : Paint.maskCss template mask = .ok image) {name value : String}
    (layered : name ∈ layerProperties) (declared : image.get? name = some value) :
    name ∈ ["-webkit-mask-image", "mask-image"] ∧ QuotesImage template (imagesOf mask) value := by
  replace declared := get?_eq_some_iff.mp declared
  cases Paint.maskCss_cases painted with
  | blank => cases declared
  | @image _ _ id url _ filled known named given expanded _ =>
    have quoted : QuotesImage template (imagesOf mask) (Paint.quotedUrl url) :=
      ⟨id, mem_imagesOf filled known named given, url, expanded, rfl⟩
    replace declared := mem_of_mem_ofList declared
    simp only [Paint.maskDeclarations, List.mem_append, List.mem_cons, Prod.mk.injEq,
      List.not_mem_nil, or_false] at declared
    -- The mask image is declared with and without the prefix of an engine.
    rcases declared with ((⟨rfl, rfl⟩ | ⟨rfl, -⟩ | ⟨rfl, -⟩ | ⟨rfl, -⟩) |
      ⟨rfl, rfl⟩ | ⟨rfl, -⟩ | ⟨rfl, -⟩ | ⟨rfl, -⟩) | ⟨rfl, -⟩
    · exact ⟨by decide, quoted⟩
    · exact absurd layered (by decide)
    · exact absurd layered (by decide)
    · exact absurd layered (by decide)
    · exact ⟨by decide, quoted⟩
    all_goals exact absurd layered (by decide)

/-- The layers of the box of a node are those of its background. -/
private theorem layer_nodeBox {template : String} {root : Affine α} {entry : Entry α}
    {place : Surroundings α} {style : BoxStyle} (layout : Layout α) (content : Content)
    (placed : entry.PlacedIn root place)
    (styled : BoxStyle.ofNode template entry.node.props (NodeKind.ofNode entry.node.props)
      entry.node.props.style.isBareHolder place.inherited = .ok style) {name value : String}
    (member : name ∈ layerProperties)
    (declared : (nodeBox entry.node.props place layout style content).declarations.get? name =
      some value) :
    name ∈ ["background", "background-image"] ∧ (HasNoAddress value ∨
      ∃ layers, Paint.layers template entry.node.props = .ok layers ∧
        value = Paint.joined Paint.Layer.image layers) := by
  have foreign : ∀ name ∈ layerProperties, name ∉ stackProperties := by decide
  obtain ⟨background, painted, same⟩ := get?_layer_of_style styled member
  rw [nodeBox, get?_update, placed.itemCss.stacked.get? (foreign name member), Option.or_none,
    same] at declared
  exact background_cases (boxBackground_cases painted) member declared

theorem drawsImages_of_compiledAs {template : String} {root : Affine α} {entry : Entry α}
    {box : SceneBox α} (compiled : CompiledAs template root entry box) :
    DrawsImages template (imagesOf entry.node.props) entry.node.props box := by
  have apart : ∀ name ∈ ["background", "background-image"],
      name ∉ ["-webkit-mask-image", "mask-image"] := by decide
  have layered : ["background", "background-image"] ⊆ layerProperties ∧
      ["-webkit-mask-image", "mask-image"] ⊆ layerProperties := by decide
  cases compiled with
  | node _ placed returned =>
    obtain ⟨-, layout, style, content, -, styled, -, rfl⟩ := compileBox_cases returned
    refine ⟨fun name member value declared => ?_, fun name member value declared => ?_⟩
    · refine (layer_nodeBox layout content placed styled (layered.1 member) declared).2.imp_right ?_
      rintro ⟨layers, painted, same⟩
      exact ⟨layers, painted, same, fun layer listed =>
        (layer_cases painted layer listed).1.imp_right Unlinked.hasNoAddress⟩
    · have background := layer_nodeBox layout content placed styled (layered.2 member) declared
      exact absurd member (apart name background.1)
  | @group _ _ _ css _ placed _ _ styled =>
    have layer {name value : String} (member : name ∈ layerProperties)
        (declared : css.get? name = some value) : name ∈ ["-webkit-mask-image", "mask-image"] ∧
          QuotesImage template (imagesOf entry.node.props) value := by
      obtain ⟨image, painted, same⟩ := get?_layer_of_mask styled placed.itemCss.stacked member
      exact mask_cases painted member (same ▸ declared)
    refine ⟨fun name member value declared => ?_, fun name member value declared => ?_⟩
    · exact absurd (layer (layered.1 member) declared).1 (apart name member)
    · exact (layer (layered.2 member) declared).2

end Artboard
