import Artboard.Proofs.Redundancy
import Artboard.Proofs.Render.Drawing
import Artboard.Proofs.Scene.Properties

/-!
# What a box carries

The declarations of the element that carries a box, with its sizes. A size class
takes its size out of them and leaves the rest as it is.
-/
namespace Artboard.Render

open Css.Declarations Classes

variable {α : Type} [Scalar α]

/-! ### Compiled boxes -/

/-- The sizes of a box come from its layout alone, and its gaps are in pixels. -/
structure Tidy (box : SceneBox α) : Prop where
  sizes : ∀ declaration ∈ (visualCss box).toList,
    declaration.1 ≠ "width" ∧ declaration.1 ≠ "height"
  gaps : ∀ declaration ∈ (visualCss box).toList, declaration.1 ∈ gapProperties →
    ∃ length : α, declaration.2 = Css.px length

private theorem look_of_mem {name : String} (look : name ∈ boxProperties) :
    name ≠ "width" ∧ name ≠ "height" ∧ name ∉ gapProperties := by
  revert look name
  decide +kernel

private theorem container_of_mem {name : String} (container : name ∈ containerProperties) :
    name ≠ "width" ∧ name ≠ "height" := by
  revert container name
  decide

theorem tidy_of_compiledAs {template : String} {root : Affine α} {entry : Entry α}
    {box : SceneBox α} (compiled : CompiledAs template root entry box) : Tidy box := by
  have within := within_declarations compiled
  have cases {declaration : Css.Declaration} (member : declaration ∈ (visualCss box).toList) :
      declaration ∈ box.layout.containerCss.toList ∨ declaration.1 ∈ boxProperties := by
    rw [visualCss] at member
    split at member
    · exact (mem_of_mem_update member).imp_right within.mem
    · exact .inr (within.mem member)
  constructor
  · intro declaration member
    rcases cases member with container | look
    · exact container_of_mem (containerCss_cases container).1
    · exact ⟨(look_of_mem look).1, (look_of_mem look).2.1⟩
  · intro declaration member gap
    rcases cases member with container | look
    · exact (containerCss_cases container).2 gap
    · exact absurd gap (look_of_mem look).2.2

/-- The boxes of a compiled scene are tidy. -/
theorem tidy_of_compiled {template : String} {provider : FontProvider}
    {composition : Composition α} {scene : CompiledScene α}
    (compiled : compileComposition template provider composition = .ok scene) :
    ∀ box ∈ SceneNode.preorders scene.nodes, Tidy box := by
  intro box member
  obtain ⟨entry, -, compiled⟩ :=
    exists_of_mem_right (forall₂_preorders (follows_walk compiled)) member
  exact tidy_of_compiledAs compiled

/-! ### Sizes -/

def isSize (name : String) : Bool := name == "width" || name == "height"

/-- What places a box, or centres it in its wrapper. -/
def placeProperties : List String :=
  ["position", "left", "top", "right", "bottom", "margin", "transform-origin", "transform"]

theorem positionDeclarations_names {layout : Layout α} {place : List Css.Declaration}
    (placed : positionDeclarations layout = .ok place) :
    ∀ declaration ∈ place, declaration.1 ∈ placeProperties := by
  unfold positionDeclarations at placed
  dsimp only at placed
  split at placed
  · cases placed
    simp [placeProperties]
  · obtain ⟨transform, -, placed⟩ := Except.bind_eq_ok_iff.mp placed
    cases placed
    simp [placeProperties]

private theorem isSize_place :
    ∀ name ∈ placeProperties, isSize name = false := by decide

private theorem itemCss_names (layout : Layout α) :
    ∀ declaration ∈ layout.itemCss.toList, isSize declaration.1 = false := by
  have names : ∀ name ∈ itemProperties, isSize name = false := by decide
  exact fun declaration member => names _ ((within_itemCss layout).mem member)

private theorem Tidy.names {box : SceneBox α} (tidy : Tidy box) :
    ∀ declaration ∈ (visualCss box).toList, isSize declaration.1 = false := by
  intro declaration member
  simp [isSize, tidy.sizes declaration member]

/-- The sizes are declared as given. -/
theorem sizes_of_sizedCss {box : SceneBox α} (tidy : Tidy box) {size : List Css.Declaration}
    (sizes : ∀ declaration ∈ size, isSize declaration.1 = true)
    (distinct : (Css.names size).Nodup) {whole : Css.Declarations}
    (styled : sizedCss box size = .ok whole) :
    whole.toList.filter (fun declaration => isSize declaration.1) = size := by
  obtain ⟨place, placed, styled⟩ := Except.bind_eq_ok_iff.mp styled
  cases styled
  have sized : (place ++ size).filter (fun declaration => isSize declaration.1) = size := by
    rw [List.filter_append, List.filter_eq_self.mpr sizes, List.filter_eq_nil_iff.mpr,
      List.nil_append]
    simpa using fun declaration member =>
      isSize_place _ (positionDeclarations_names placed declaration member)
  change ((BoxContext.prune _ _).filter isSize).toList = size
  rw [filter_prune, filter_update, filter_update, filter_ofList, sized,
    filter_eq_empty (itemCss_names _), filter_eq_empty tidy.names, toList_prune]
  change (Css.Declarations.ofList size).toList.filter _ = size
  rw [toList_ofList distinct, List.filter_eq_self]
  intro declaration member
  have named : declaration.1 = "width" ∨ declaration.1 = "height" := by
    simpa [isSize] using sizes declaration member
  have other : declaration.1 ∉ prunedProperties := by
    rcases named with same | same <;> rw [same] <;> decide
  simp [isRedundant_eq_false _ other]

/-- Leaving out sizes changes nothing else. -/
theorem sizedCss_filter {box : SceneBox α} (tidy : Tidy box) {keep : String → Bool}
    (others : ∀ name, isSize name = false → keep name = true) (size : List Css.Declaration) :
    sizedCss box (size.filter fun declaration => keep declaration.1) =
      (sizedCss box size).map fun whole => whole.filter keep := by
  rw [sizedCss, sizedCss]
  cases placed : positionDeclarations box.layout with
  | error fault => rfl
  | ok place =>
    have kept {bag : Css.Declarations}
        (names : ∀ declaration ∈ bag.toList, isSize declaration.1 = false) :
        bag.filter keep = bag := by
      refine filter_eq_self fun name member => ?_
      obtain ⟨declaration, here, rfl⟩ := List.mem_map.mp member
      exact others _ (names declaration here)
    have place_kept : place.filter (fun declaration => keep declaration.1) = place :=
      List.filter_eq_self.mpr fun declaration member =>
        others _ (isSize_place _ (positionDeclarations_names placed declaration member))
    -- A declaration is judged by the display of the box, which is no size and so is kept.
    have bag : (((Css.Declarations.ofList (place ++ size)).update box.layout.itemCss).update
        (visualCss box)).filter keep =
          ((Css.Declarations.ofList (place ++ size.filter fun declaration =>
            keep declaration.1)).update box.layout.itemCss).update (visualCss box) := by
      rw [filter_update, filter_update, filter_ofList, List.filter_append, place_kept,
        kept (itemCss_names _), kept tidy.names]
    refine congrArg Except.ok ?_
    change _ = (BoxContext.prune _ _).filter keep
    rw [filter_prune, bag, singleContext, singleContext, ← bag,
      get?_filter (others "display" (by decide))]

/-- A size class stands for the size that it takes the place of. -/
private theorem declarationOf_recurring {counts : Counts} {property start name : String}
    (known : (property, start) ∈ lengthUtilities) {symbolic : Option String} {length : α}
    (found : SizeFrequency.recurring counts start (SizeFrequency.numericLength symbolic length) =
      some name) : declarationOf name = some (property, Layout.lengthCss symbolic length) := by
  rw [SizeFrequency.numericLength] at found
  cases symbolic with
  | some text => contradiction
  | none =>
    rw [SizeFrequency.recurring, if_neg (by simp), Option.bind_some] at found
    split at found
    · cases found
      exact declarationOf_pixelClass known length
    · contradiction

theorem declarationOf_sizeClasses (tables : Tables) (layout : Layout α) :
    (∀ name ∈ (sizeClasses tables layout).1, declarationOf name = some ("width", layout.widthCss)) ∧
    ∀ name ∈ (sizeClasses tables layout).2,
      declarationOf name = some ("height", layout.heightCss) := by
  rw [sizeClasses]
  split
  · exact ⟨fun name => declarationOf_recurring (by decide),
      fun name => declarationOf_recurring (by decide)⟩
  · simp

/-! ### The element that carries a box -/

def sizeDeclarations (layout : Layout α) : List Css.Declaration :=
  [("width", layout.widthCss), ("height", layout.heightCss)]

/-- What the element that carries a box declares, as long as nothing has become a class. -/
def wholeCss (box : SceneBox α) : Except Fault Css.Declarations :=
  match box.layout.wrapper with
  | none => sizedCss box (sizeDeclarations box.layout)
  | some wrapper => (wrappedCss box wrapper).map Prod.fst

/-- What it declares with its size classes taken out. -/
def carriedCss (tables : Tables) (box : SceneBox α) : Except Fault Css.Declarations :=
  match box.layout.wrapper with
  | none => singleCss tables box
  | some wrapper => (wrappedCss box wrapper).map Prod.fst

/-- The size classes of the element that carries a box. -/
def ownSizes (tables : Tables) (box : SceneBox α) : Option String × Option String :=
  match box.layout.wrapper with
  | none => sizeClasses tables box.layout
  | some _ => (none, none)

def sizeNames (sizes : Option String × Option String) : List String :=
  sizes.1.toList ++ sizes.2.toList

/-- The pattern of a box may become a class. -/
def isShareable (box : SceneBox α) : Bool := isSingle box && box.kind != .svg

/-- What the outer element of a box declares, if there is one. -/
def outerDeclarations (box : SceneBox α) : Except Fault (Option Css.Declarations) :=
  match box.layout.wrapper with
  | none => .ok none
  | some wrapper => (wrappedCss box wrapper).map fun found => some found.2

/-- The styling of a box is made from the declarations that its element carries. -/
theorem boxStyling_eq_ok_iff {tables : Tables} {box : SceneBox α}
    {found : Styling × Option Css.Declarations} :
    boxStyling tables box = .ok found ↔
      ∃ bag outer, carriedCss tables box = .ok bag ∧ outerDeclarations box = .ok outer ∧
        found = (styling tables box (sizeNames (ownSizes tables box)) (isShareable box) bag,
          outer) := by
  rw [boxStyling, carriedCss, outerDeclarations, ownSizes, isShareable, isSingle]
  cases box.layout.wrapper with
  | none =>
    dsimp only
    rw [Except.bind_eq_ok_iff]
    simp [sizeNames, pure, Except.pure, eq_comm]
  | some wrapper =>
    dsimp only
    rw [Except.bind_eq_ok_iff]
    cases wrappedCss box wrapper <;>
      simp [Except.map, sizeNames, pure, Except.pure, eq_comm]

/-- No size class takes the place of the declaration of this name. -/
def isLeft (sizes : Option String × Option String) (name : String) : Bool :=
  !(name == "width" && sizes.1.isSome) && !(name == "height" && sizes.2.isSome)

theorem isLeft_of_isSize {sizes : Option String × Option String} (name : String)
    (other : isSize name = false) : isLeft sizes name = true := by
  rw [isSize, Bool.or_eq_false_iff] at other
  simp [isLeft, other.1, other.2]

private theorem filter_isLeft_none (bag : Css.Declarations) :
    bag.filter (isLeft (none, none)) = bag :=
  filter_eq_self (by simp [isLeft])

/-- Size classes take sizes out of the declarations and leave the others as they are. -/
theorem carriedCss_eq (tables : Tables) {box : SceneBox α} (tidy : Tidy box) :
    carriedCss tables box =
      (wholeCss box).map fun whole => whole.filter (isLeft (ownSizes tables box)) := by
  rw [carriedCss, wholeCss, ownSizes]
  cases box.layout.wrapper with
  | none =>
    dsimp only
    rw [← sizedCss_filter tidy isLeft_of_isSize, singleCss]
    rcases sizeClasses tables box.layout with ⟨_ | width, _ | height⟩ <;>
      simp [sizeDeclarations, sizeDeclaration, isLeft]
  | some wrapper =>
    dsimp only
    cases wrappedCss box wrapper with
    | error fault => rfl
    | ok found => exact congrArg Except.ok (filter_isLeft_none _).symm

/-- The size classes stand for what they take out. -/
theorem ownSizes_taken (tables : Tables) {box : SceneBox α} (tidy : Tidy box)
    {whole : Css.Declarations} (styled : wholeCss box = .ok whole) :
    (sizeNames (ownSizes tables box)).map declarationOf =
      (whole.toList.filter fun declaration =>
        !isLeft (ownSizes tables box) declaration.1).map some := by
  rw [wholeCss] at styled
  rw [ownSizes]
  cases wrapped : box.layout.wrapper with
  | none =>
    rw [wrapped] at styled
    dsimp only at styled ⊢
    have sizes := sizes_of_sizedCss tidy (by simp [sizeDeclarations, isSize])
      (by simp [sizeDeclarations, Css.names]) styled
    -- Only sizes are taken, and of these the whole declares just the two.
    have taken (declaration : Css.Declaration) :
        (!isLeft (sizeClasses tables box.layout) declaration.1) =
          (!isLeft (sizeClasses tables box.layout) declaration.1 && isSize declaration.1) := by
      cases size : isSize declaration.1 with
      | true => simp
      | false => simp [isLeft_of_isSize _ size]
    rw [List.filter_congr fun declaration _ => taken declaration, ← List.filter_filter, sizes]
    obtain ⟨widths, heights⟩ := declarationOf_sizeClasses tables box.layout
    generalize sizeClasses tables box.layout = found at widths heights
    rcases found with ⟨_ | width, _ | height⟩ <;>
      simp_all [sizeNames, sizeDeclarations, isLeft]
  | some wrapper =>
    simp [sizeNames, isLeft]

/-- In the overlay nothing becomes a class. -/
theorem carriedCss_overlay {tables : Tables} (overlay : tables.mode = .overlay)
    (box : SceneBox α) : carriedCss tables box = wholeCss box := by
  rw [carriedCss, wholeCss, singleCss, sizeClasses, overlay]
  rfl

/-! ### Patterns -/

private theorem pattern_visualCss (box : SceneBox α) :
    pattern (visualCss box) = pattern box.declarations := by
  have names : ∀ name ∈ containerProperties, sharedProperties.contains name = false := by decide
  rw [visualCss]
  split
  · change Css.Declarations.filter _ _ = _
    rw [filter_update, filter_eq_empty, empty_update]
    · rfl
    · exact fun declaration member => names _ (containerCss_cases member).1
  · rfl

private theorem pattern_sizedCss {box : SceneBox α} {size : List Css.Declaration}
    (sizes : ∀ declaration ∈ size, isSize declaration.1 = true) {whole : Css.Declarations}
    (styled : sizedCss box size = .ok whole) : pattern whole = pattern box.declarations := by
  obtain ⟨place, placed, styled⟩ := Except.bind_eq_ok_iff.mp styled
  cases styled
  have place_none : ∀ name ∈ placeProperties, sharedProperties.contains name = false := by decide
  have item_none : ∀ name ∈ itemProperties, sharedProperties.contains name = false := by decide
  -- Neither the place nor the sizes nor the part in the flow belong to a pattern.
  have started : (place ++ size).filter (fun declaration =>
      sharedProperties.contains declaration.1) = [] := by
    rw [List.filter_eq_nil_iff]
    intro declaration member
    rcases List.mem_append.mp member with here | here
    · rw [place_none _ (positionDeclarations_names placed declaration here)]
      decide
    · have named : declaration.1 = "width" ∨ declaration.1 = "height" := by
        simpa [isSize] using sizes declaration here
      rcases named with same | same <;> rw [same] <;> decide
  change (BoxContext.prune _ _).filter sharedProperties.contains = _
  rw [filter_prune, filter_update, filter_update, filter_ofList, started,
    filter_eq_empty fun declaration member => item_none _ ((within_itemCss _).mem member)]
  change BoxContext.prune _ ((empty.update empty).update (pattern (visualCss box))) = _
  rw [empty_update, empty_update, pattern_visualCss]
  refine eq_of_toList ((toList_prune _ _).trans (List.filter_eq_self.mpr ?_))
  intro declaration member
  have names : ∀ name ∈ sharedProperties, name ∉ prunedProperties := by decide
  have shared : declaration.1 ∈ sharedProperties := by simpa using (List.mem_filter.mp member).2
  simp [isRedundant_eq_false _ (names _ shared)]

/-- A box without a wrapper has the pattern of its own declarations. -/
theorem pattern_wholeCss {box : SceneBox α} (single : isSingle box = true)
    {whole : Css.Declarations} (styled : wholeCss box = .ok whole) :
    pattern whole = pattern box.declarations := by
  have alone : box.layout.wrapper = none := by simpa [isSingle] using single
  rw [wholeCss, alone] at styled
  exact pattern_sizedCss (by simp [sizeDeclarations, isSize]) styled

/-! ### Gaps -/

theorem centeringDeclarations_names {layout : Layout α} {wrapper : Wrapper α}
    {centering : List Css.Declaration}
    (centered : centeringDeclarations layout wrapper = .ok centering) :
    ∀ declaration ∈ centering, declaration.1 ∈ placeProperties := by
  unfold centeringDeclarations at centered
  split at centered
  · cases centered
    simp [placeProperties]
  · dsimp only at centered
    split at centered
    · cases centered
      simp [placeProperties]
    · obtain ⟨matrix, -, centered⟩ := Except.bind_eq_ok_iff.mp centered
      cases centered
      simp [placeProperties]

private theorem not_gap_of_place : ∀ name ∈ placeProperties, name ∉ gapProperties := by decide

private theorem migrateShadows_mem {inner outer : Css.Declarations} {declaration : Css.Declaration}
    (member : declaration ∈ (migrateShadows inner outer).1.toList) :
    declaration.1 = "box-shadow" ∨ declaration ∈ inner.toList := by
  unfold migrateShadows at member
  dsimp only at member
  split at member
  · exact .inr member
  · dsimp only at member
    split at member
    · exact .inr (List.mem_of_mem_filter member)
    · exact (Css.mem_of_mem_declare member).imp_left fun same => by rw [same]

private theorem wrappedCss_inner {box : SceneBox α} {wrapper : Wrapper α}
    {found : Css.Declarations × Css.Declarations} (wrapped : wrappedCss box wrapper = .ok found) :
    ∃ inner, innerCss box wrapper = .ok inner ∧
      ∀ declaration ∈ found.1.toList,
        declaration.1 = "box-shadow" ∨ declaration ∈ inner.toList := by
  obtain ⟨inner, started, wrapped⟩ := Except.bind_eq_ok_iff.mp wrapped
  refine ⟨inner, started, fun declaration member => ?_⟩
  dsimp only at wrapped
  split at wrapped <;> cases wrapped
  · exact .inr (mem_of_mem_prune member)
  · exact migrateShadows_mem (mem_of_mem_prune member)

private theorem innerCss_gaps {box : SceneBox α} (tidy : Tidy box) {wrapper : Wrapper α}
    {inner : Css.Declarations} (started : innerCss box wrapper = .ok inner) :
    ∀ declaration ∈ inner.toList, declaration.1 ∈ gapProperties →
      ∃ length : α, declaration.2 = Css.px length := by
  intro declaration member gap
  obtain ⟨centering, centered, started⟩ := Except.bind_eq_ok_iff.mp started
  cases started
  rcases mem_of_mem_update member with member | visual
  · have place := mem_of_mem_ofList member
    simp only [List.cons_append, List.nil_append, List.mem_cons, List.mem_append,
      List.not_mem_nil, or_false] at place
    rcases place with rfl | place | rfl | rfl
    · simp [gapProperties] at gap
    · exact absurd gap (not_gap_of_place _ (centeringDeclarations_names centered _ place))
    · simp [gapProperties] at gap
    · simp [gapProperties] at gap
  · exact tidy.gaps declaration (List.mem_of_mem_filter visual) gap

/-- The gaps of a compiled box are in pixels. -/
theorem gaps_of_wholeCss {box : SceneBox α} (tidy : Tidy box) {whole : Css.Declarations}
    (styled : wholeCss box = .ok whole) :
    ∀ declaration ∈ whole.toList, declaration.1 ∈ gapProperties →
      ∃ length : α, declaration.2 = Css.px length := by
  intro declaration member gap
  rw [wholeCss] at styled
  split at styled
  · obtain ⟨place, placed, styled⟩ := Except.bind_eq_ok_iff.mp styled
    cases styled
    rcases mem_of_mem_update (mem_of_mem_prune member) with member | visual
    · rcases mem_of_mem_update member with member | item
      · rcases List.mem_append.mp (mem_of_mem_ofList member) with place | size
        · exact absurd gap (not_gap_of_place _ (positionDeclarations_names placed _ place))
        · simp only [sizeDeclarations, List.mem_cons, List.not_mem_nil, or_false] at size
          rcases size with rfl | rfl <;> simp [gapProperties] at gap
      · have names : ∀ name ∈ itemProperties, name ∉ gapProperties := by decide
        exact absurd gap (names _ ((within_itemCss _).mem item))
    · exact tidy.gaps declaration visual gap
  next wrapper _ =>
    cases wrapped : wrappedCss box wrapper with
    | error fault =>
      rw [wrapped] at styled
      contradiction
    | ok found =>
      rw [wrapped] at styled
      cases styled
      obtain ⟨inner, started, within⟩ := wrappedCss_inner wrapped
      rcases within declaration member with shadow | member
      · simp [shadow, gapProperties] at gap
      · exact innerCss_gaps tidy started declaration member gap

end Artboard.Render
