import Artboard.Paint.Outline
import Artboard.Proofs.Scene.Compilation

/-!
# Ways of writing a paint

A colour, a gradient, a layer, a background, a radius and a mask are each written in one
of a few ways. Each way is stated once, with all that leads to it. Later proofs cite these cases
and never unfold a paint.
-/
namespace Artboard.Paint

variable {α : Type} [Scalar α]

/-! ### Colours -/

/-- The channels of a colour as bytes. -/
structure Channels (color : Color α) (r g b : Int) : Prop where
  red : nearestInt (color.r * 255.0) = .ok r
  green : nearestInt (color.g * 255.0) = .ok g
  blue : nearestInt (color.b * 255.0) = .ok b

/-- A colour is written with its channels, and with its alpha too where that is seen in two
places. -/
inductive ColorText (color : Color α) (opacity : α) : String → Prop
  | full {r g b} : Channels color r g b → isOpaque (color.a * opacity) = true →
      ColorText color opacity
        ("rgb(" ++ toString r ++ "," ++ toString g ++ "," ++ toString b ++ ")")
  | sheer {r g b} : Channels color r g b → isOpaque (color.a * opacity) = false →
      ColorText color opacity
        ("rgba(" ++ toString r ++ "," ++ toString g ++ "," ++ toString b ++ "," ++
          Css.number (color.a * opacity) 2 ++ ")")

theorem colorCss_cases {color : Color α} {opacity : α} {text : String}
    (written : colorCss color opacity = .ok text) : ColorText color opacity text := by
  obtain ⟨r, red, written⟩ := Except.bind_eq_ok_iff.mp written
  obtain ⟨g, green, written⟩ := Except.bind_eq_ok_iff.mp written
  obtain ⟨b, blue, written⟩ := Except.bind_eq_ok_iff.mp written
  cases written
  split
  next seen => exact .full ⟨red, green, blue⟩ seen
  next unseen => exact .sheer ⟨red, green, blue⟩ (by simpa using unseen)

/-! ### Gradients -/

/-- What stands before the stops of a gradient. -/
inductive GradientOpening (gradient : Gradient α) (width height : α) : String → Prop
  | linear {angle} : gradient.kind = .linear → linearAngle gradient width height = .ok angle →
      GradientOpening gradient width height ("linear-gradient(" ++ toString angle ++ "deg, ")
  | radial : gradient.kind = .radial →
      GradientOpening gradient width height "radial-gradient(circle, "
  | angular : gradient.kind = .angular →
      GradientOpening gradient width height "conic-gradient(from 0deg, "
  | diamond : gradient.kind = .diamond →
      GradientOpening gradient width height "radial-gradient(ellipse, "

/-- A gradient has no value, or that of its stops. -/
inductive GradientValue (gradient : Gradient α) (opacity width height : α) : Option String → Prop
  | few : gradient.stops.length < 2 → GradientValue gradient opacity width height none
  | several {opening stops} : 2 ≤ gradient.stops.length →
      GradientOpening gradient width height opening →
      List.Forall₂ (fun stop text => stopCss opacity stop = .ok text) gradient.stops stops →
      GradientValue gradient opacity width height
        (some (opening ++ String.intercalate ", " stops ++ ")"))

theorem stopCss_cases {opacity : α} {stop : GradientStop α} {text : String}
    (written : stopCss opacity stop = .ok text) :
    ∃ color, colorCss stop.color opacity = .ok color ∧
      text = color ++ " " ++ Fixed.signed (Scalar.exact (stop.position * 100.0)) 2 ++ "%" := by
  obtain ⟨color, colored, written⟩ := Except.bind_eq_ok_iff.mp written
  exact ⟨color, colored, (Except.ok.inj written).symm⟩

theorem gradientCss_cases {gradient : Gradient α} {opacity width height : α}
    {value? : Option String} (written : gradientCss gradient opacity width height = .ok value?) :
    GradientValue gradient opacity width height value? := by
  unfold gradientCss at written
  split at written
  next few =>
    cases written
    exact .few few
  next enough =>
    obtain ⟨stops, visited, written⟩ := Except.bind_eq_ok_iff.mp written
    have several {opening : String} (opens : GradientOpening gradient width height opening) :=
      GradientValue.several (by omega) opens (Except.forall₂_of_mapM visited)
    split at written
    next linear =>
      obtain ⟨angle, turned, written⟩ := Except.bind_eq_ok_iff.mp written
      cases written
      exact several (.linear linear turned)
    next radial =>
      cases written
      exact several (.radial radial)
    next angular =>
      cases written
      exact several (.angular angular)
    next diamond =>
      cases written
      exact several (.diamond diamond)

/-! ### Backgrounds -/

/-- The layer of a paint has the image of the paint, or its gradient, or nothing but its colour. -/
inductive LayerOf (template : String) (width height : α) (paint : Artboard.Paint α) : Layer → Prop
  | image {source id url} : paint.image? = some source → source.imageId = some id →
      id.isEmpty = false → imageUrl template id = .ok url →
      LayerOf template width height paint
        ⟨.image, quotedUrl url, (Placement.ofImage source width height).size,
          (Placement.ofImage source width height).position,
          (Placement.ofImage source width height).repetition, blendModeCss paint.blendMode, none⟩
  | gradient {gradient value} : paint.source = .gradient gradient →
      gradientCss gradient paint.opacity width height = .ok (some value) →
      LayerOf template width height paint
        ⟨.gradient, value, "auto", "center", "no-repeat", blendModeCss paint.blendMode, none⟩
  | solid {color text} : paint.source = .solid color → colorCss color paint.opacity = .ok text →
      LayerOf template width height paint
        ⟨.solid, "linear-gradient(0deg, " ++ text ++ " 0%, " ++ text ++ " 100%)", "auto", "center",
          "no-repeat", blendModeCss paint.blendMode, some text⟩

private theorem layerOf_of_layer? {template : String} {width height : α} {paint : Artboard.Paint α}
    {layer : Layer} (painted : layer? template width height paint = .ok (some layer)) :
    LayerOf template width height paint layer := by
  unfold layer? at painted
  dsimp only at painted
  split at painted
  next source isImage =>
    split at painted
    · cases painted
    next id named =>
      split at painted
      · cases painted
      next given =>
        obtain ⟨url, expanded, painted⟩ := Except.bind_eq_ok_iff.mp painted
        cases painted
        exact .image (by rw [Artboard.Paint.image?, isImage]) named (by simpa using given) expanded
  next gradient isGradient =>
    obtain ⟨value?, written, painted⟩ := Except.bind_eq_ok_iff.mp painted
    cases value? with
    | none => cases painted
    | some value =>
      cases painted
      exact .gradient isGradient written
  next color isSolid =>
    obtain ⟨text, written, painted⟩ := Except.bind_eq_ok_iff.mp painted
    cases painted
    exact .solid isSolid written

/-- Every layer of a node is that of a visible fill. -/
theorem exists_layerOf_of_layers {template : String} {node : NodeProps α} {found : List Layer}
    (painted : layers template node = .ok found) : ∀ layer ∈ found,
      ∃ paint ∈ node.style.fills, paint.visible = true ∧
        LayerOf template (node.numericLength .width) (node.numericLength .height) paint layer := by
  obtain ⟨drawn, visited, painted⟩ := Except.bind_eq_ok_iff.mp painted
  cases painted
  intro layer member
  obtain ⟨_, here, rfl⟩ : ∃ drawn? ∈ drawn, drawn? = some layer := by simpa using member
  obtain ⟨paint, listed, painted⟩ := exists_of_mem_right (Except.forall₂_of_mapM visited) here
  obtain ⟨filled, visible⟩ := List.mem_filter.mp (List.mem_reverse.mp listed)
  exact ⟨paint, filled, visible, layerOf_of_layer? painted⟩

/-- A background is empty, or that of its layers. -/
inductive BackgroundOf (template : String) (node : NodeProps α) : Css.Declarations → Prop
  | blank : BackgroundOf template node .empty
  | single {layer} : layers template node = .ok [layer] →
      BackgroundOf template node (.ofList (singleLayer layer))
  | several {found} : layers template node = .ok found →
      BackgroundOf template node (.ofList (severalLayers found))

theorem backgroundCss_cases {template : String} {node : NodeProps α} {bag : Css.Declarations}
    (painted : backgroundCss template node = .ok bag) : BackgroundOf template node bag := by
  unfold backgroundCss at painted
  split at painted
  · cases painted
    exact .blank
  · obtain ⟨found, drawn, painted⟩ := Except.bind_eq_ok_iff.mp painted
    split at painted <;> cases painted
    · exact .blank
    · exact .single drawn
    · exact .several drawn

/-! ### Corners -/

/-- Radii declare nothing, or one length for all corners, or one for each of them. -/
inductive RadiusOf : Option (Radii α) → Css.Declarations → Prop
  | square {radii?} : RadiusOf radii? .empty
  | uniform {radii radius} : radii.uniform = some radius → 0.0 < radius →
      RadiusOf (some radii) (.ofList [("border-radius", Css.px radius)])
  | each {radii corners} : radii.corners = some corners → corners.isZero = false →
      RadiusOf (some radii) (.ofList [("border-radius", cornersCss corners)])

theorem radiusOf_radiusCss (radii? : Option (Radii α)) : RadiusOf radii? (radiusCss radii?) := by
  unfold radiusCss
  split
  · exact .square
  next radii =>
    dsimp only
    split
    next radius _ wins =>
      obtain ⟨given, uniform, chosen⟩ := Option.bind_eq_some_iff.mp wins
      split at chosen
      next positive =>
        cases chosen
        exact .uniform uniform positive
      next => cases chosen
    next corners _ cornered =>
      split
      · exact .square
      next round => exact .each cornered (by simpa using round)
    · exact .square

/-! ### Masks -/

/-- A mask declares nothing, or the image of a fill in both spellings. -/
inductive MaskOf (template : String) (node : NodeProps α) : Css.Declarations → Prop
  | blank : MaskOf template node .empty
  | image {paint source id url mode} : paint ∈ node.style.fills → paint.image? = some source →
      source.imageId = some id → id.isEmpty = false → imageUrl template id = .ok url →
      mode ∈ ["luminance", "alpha"] →
      MaskOf template node (.ofList
        (maskDeclarations "-webkit-" (quotedUrl url)
            (.ofImage source (node.numericLength .width) (node.numericLength .height)) ++
          maskDeclarations "" (quotedUrl url)
            (.ofImage source (node.numericLength .width) (node.numericLength .height)) ++
          [("mask-mode", mode)]))

omit [Scalar α] in
private theorem exists_fill_of_maskImage? {node : NodeProps α} {source : ImageSource α}
    {id : String} (found : maskImage? node = some (source, id)) :
    ∃ paint ∈ node.style.fills, paint.image? = some source ∧ source.imageId = some id ∧
      id.isEmpty = false := by
  obtain ⟨paint, filled, found⟩ := List.exists_of_findSome?_eq_some found
  split at found
  next known =>
    split at found
    next named =>
      split at found
      next given =>
        cases found
        exact ⟨paint, filled, known, named, by simpa using (Bool.and_eq_true_iff.mp given).2⟩
      · cases found
    · cases found
  · cases found

theorem maskCss_cases {template : String} {node : NodeProps α} {image : Css.Declarations}
    (painted : maskCss template node = .ok image) : MaskOf template node image := by
  unfold maskCss at painted
  split at painted
  · cases painted
    exact .blank
  next source id found =>
    obtain ⟨url, expanded, painted⟩ := Except.bind_eq_ok_iff.mp painted
    cases painted
    obtain ⟨paint, filled, known, named, given⟩ := exists_fill_of_maskImage? found
    refine .image filled known named given expanded ?_
    split <;> simp

end Artboard.Paint
