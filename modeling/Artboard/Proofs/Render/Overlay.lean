import Artboard.Proofs.Render.Extraction
import Artboard.Proofs.Scene.Enumeration

/-!
# The overlay beside the content

The overlay draws the boxes of the content with the same nesting, and each of its
boxes declares the geometry of the one in the content, wherever the content has
put it.
-/
namespace Artboard.Render

open Css.Declarations Classes Markup

variable {α : Type}

/-! ### Pairs of drawings -/

/-- Only the boxes of frames hold other boxes. -/
inductive FramesHold : SceneNode α → Prop
  | mk {box children} :
      (box.kind ≠ .frame → children = []) → (∀ node ∈ children, FramesHold node) →
      FramesHold (.mk box children)

/-- The elements of two modes draw one node. Both have a box for it, in an outer one where it is
wrapped, with pairs of elements for its children inside. Anything else in them is the payload of
a text or a vector, which has no children. -/
inductive DrawPair (R : SceneBox α → Option (Head × Head) → Head × Head → Prop) :
    SceneNode α → Element × Element → Prop
  | single {box children head twin payload other pairs} :
      box.layout.wrapper = none →
      (box.kind ≠ .text → box.kind ≠ .svg → payload = [] ∧ other = []) →
      (box.kind ≠ .frame → children = []) →
      R box none (head, twin) → List.Forall₂ (DrawPair R) children pairs →
      DrawPair R (.mk box children)
        (.mk head (payload ++ pairs.map Prod.fst), .mk twin (other ++ pairs.map Prod.snd))
  | wrapped {box children outer outerTwin head twin payload other pairs wrapper} :
      box.layout.wrapper = some wrapper →
      (box.kind ≠ .text → box.kind ≠ .svg → payload = [] ∧ other = []) →
      (box.kind ≠ .frame → children = []) →
      R box (some (outer, outerTwin)) (head, twin) → List.Forall₂ (DrawPair R) children pairs →
      DrawPair R (.mk box children)
        (.mk outer [.mk head (payload ++ pairs.map Prod.fst)],
          .mk outerTwin [.mk twin (other ++ pairs.map Prod.snd)])

private theorem exists_pairs {R : SceneBox α → Option (Head × Head) → Head × Head → Prop}
    {S T : SceneNode α → Element → Prop} {nodes : List (SceneNode α)}
    (pair : ∀ node ∈ nodes, ∀ first second, S node first → T node second →
      DrawPair R node (first, second)) {firsts seconds : List Element}
    (left : List.Forall₂ S nodes firsts) (right : List.Forall₂ T nodes seconds) :
    ∃ pairs, firsts = pairs.map Prod.fst ∧ seconds = pairs.map Prod.snd ∧
      List.Forall₂ (DrawPair R) nodes pairs := by
  induction left generalizing seconds with
  | nil =>
    cases right
    exact ⟨[], rfl, rfl, .nil⟩
  | cons first _ ih =>
    cases right with
    | cons second others =>
      obtain ⟨here, later⟩ := List.forall_mem_cons.mp pair
      obtain ⟨pairs, rfl, rfl, drawn⟩ := ih later others
      exact ⟨(_, _) :: pairs, rfl, rfl, .cons (here _ _ first second) drawn⟩

/-- Two drawings of a node make a pair. -/
theorem Draws.pair {R S : SceneBox α → Option Head → Head → Prop}
    {T : SceneBox α → Option (Head × Head) → Head × Head → Prop} (node : SceneNode α) :
    ∀ first second, FramesHold node →
      (∀ box ∈ node.preorder, ∀ outer heads, R box (outer.map Prod.fst) heads.1 →
        S box (outer.map Prod.snd) heads.2 → T box outer heads) →
      Draws R node first → Draws S node second → DrawPair T node (first, second) := by
  induction node using SceneNode.memInduction with
  | step box children ih =>
    intro first second holds related left right
    rw [SceneNode.preorder, List.forall_mem_cons] at related
    cases holds with
    | mk bare holds =>
      -- Both drawings have the form that the layout of the box decides.
      have inner {below beneath : List Element} (left : List.Forall₂ (Draws R) children below)
          (right : List.Forall₂ (Draws S) children beneath) :=
        exists_pairs (R := T) (fun node member first second =>
          ih node member first second (holds node member)
            fun box inside => related.2 box (mem_preorders_of_mem member inside)) left right
      cases left with
      | single alone payload here below =>
        cases right with
        | single _ other there beneath =>
          obtain ⟨pairs, rfl, rfl, drawn⟩ := inner below beneath
          exact .single alone
            (fun text vector => ⟨payload text vector, other text vector⟩) bare
            (related.1 none (_, _) here there) drawn
        | wrapped wrapped => rw [alone] at wrapped; contradiction
      | wrapped wrapped payload here below =>
        cases right with
        | single alone => rw [alone] at wrapped; contradiction
        | wrapped _ other there beneath =>
          obtain ⟨pairs, rfl, rfl, drawn⟩ := inner below beneath
          exact .wrapped wrapped
            (fun text vector => ⟨payload text vector, other text vector⟩) bare
            (related.1 (some (_, _)) (_, _) here there) drawn

private theorem framesHold_of_follows (tree : EntryTree α) :
    ∀ drawn, EntryTree.Complete tree → Follows Shows tree drawn → FramesHold drawn := by
  induction tree using EntryTree.memInduction with
  | step entry below ih =>
    intro drawn complete follows
    cases follows with
    | @mk _ box _ drawn shows follows =>
      refine .mk (fun other => ?_) ?_
      · cases complete with
        | leaf => exact List.forall₂_nil_left_iff.mp follows
        | frame alone isFrame => simp [shows.kind, alone, isFrame] at other
        | group grouped => simp [shows.kind, grouped] at other
      · intro node inside
        obtain ⟨tree, member, follows⟩ := exists_of_mem_right follows inside
        exact ih tree member node (complete.of_mem member) follows

/-- In a compiled scene only frames hold other boxes. -/
theorem framesHold_of_compiled [Scalar α] {template : String} {provider : FontProvider}
    {composition : Composition α} {scene : CompiledScene α}
    (compiled : compileComposition template provider composition = .ok scene) :
    ∀ node ∈ scene.nodes, FramesHold node := by
  intro node inside
  obtain ⟨tree, member, follows⟩ := exists_of_mem_right (follows_walk compiled) inside
  obtain ⟨root, -, rfl⟩ := List.mem_map.mp member
  exact framesHold_of_follows _ node (complete_walkNode root [] none)
    (follows.mono (fun _ _ => shows_of_compiledAs) _ _)

/-! ### The overlay -/

private theorem ownContent_returns {tables others : Tables} (overlay : others.mode = .overlay)
    (box : SceneBox α) (found : Fragment) (filled : ownContent tables box = .ok found) :
    ∃ found, ownContent others box = .ok found := by
  have vector : ∃ found, vectorContent others box = .ok found := by
    rw [vectorContent, overlay]
    cases drawing? box <;> cases box.svgFile <;> exact ⟨_, rfl⟩
  unfold ownContent at filled ⊢
  split
  next content => cases overlay.symm.trans content
  next markup isVector drawing =>
    rw [isVector, drawing] at filled
    obtain ⟨_, checked, -⟩ := Except.bind_eq_ok_iff.mp filled
    obtain ⟨found, held⟩ := vector
    exact ⟨found, Except.bind_eq_ok_iff.mpr ⟨_, checked, held⟩⟩
  next => exact vector
  next => exact ⟨_, rfl⟩

private theorem outer_of_heads {box : SceneBox α} {css : Option Css.Declarations}
    {outer : Option (Head × Head)}
    (content : outer.map Prod.fst =
      css.map fun css => plainHead (wrapperAttributes .content box css) [])
    (overlay : outer.map Prod.snd =
      css.map fun css => plainHead (wrapperAttributes .overlay box css) []) :
    ∀ pair ∈ outer, ∃ bag, pair.1.attribute? "class" = some "has-wrapper" ∧
      pair.1.attribute? "style" = styleText? bag ∧
      pair.2.attribute? "style" = styleText? (bag.subset geometryProperties) := by
  rintro ⟨first, second⟩ ⟨⟩
  obtain ⟨bag, declared, rfl⟩ := Option.map_eq_some_iff.mp content.symm
  obtain ⟨_, same, rfl⟩ := Option.map_eq_some_iff.mp overlay.symm
  obtain rfl := Option.some.inj (declared.symm.trans same)
  simp only [attribute?_plainHead, style_wrapperAttributes]
  exact ⟨bag, rfl, rfl, rfl⟩

section Scenes

variable [Scalar α]

/-- A box has declarations with any tables if it has some with one. -/
private theorem carriedCss_returns {tables : Tables} (others : Tables) {box : SceneBox α}
    {bag : Css.Declarations} (carried : carriedCss tables box = .ok bag) :
    ∃ bag, carriedCss others box = .ok bag := by
  rw [carriedCss] at carried ⊢
  cases wrapped : box.layout.wrapper with
  | none =>
    rw [wrapped] at carried
    obtain ⟨place, placed, -⟩ := Except.bind_eq_ok_iff.mp carried
    exact ⟨_, Except.bind_eq_ok_iff.mpr ⟨place, placed, rfl⟩⟩
  | some wrapper =>
    rw [wrapped] at carried
    exact ⟨bag, carried⟩

private theorem boxStyling_returns {tables : Tables} (others : Tables) (box : SceneBox α)
    (found : Styling × Option Css.Declarations) (boxed : boxStyling tables box = .ok found) :
    ∃ found, boxStyling others box = .ok found := by
  obtain ⟨bag, outer, carried, surrounded, -⟩ := boxStyling_eq_ok_iff.mp boxed
  obtain ⟨bag, carried⟩ := carriedCss_returns others carried
  exact ⟨_, boxStyling_eq_ok_iff.mpr ⟨bag, outer, carried, surrounded, rfl⟩⟩

/-- Wherever the content is drawn, so is the overlay. -/
theorem overlay_returns {settings : Settings} {scene : CompiledScene α} {content : RenderedMarkup}
    (rendered : renderScene .content settings scene = .ok content) :
    ∃ overlay, renderScene .overlay settings scene = .ok overlay :=
  renderScene_ends rendered (boxStyling_returns _) (ownContent_returns rfl)

/-- The heads of a box in the overlay. -/
theorem StyledAs.overlay {tables : Tables} (overlay : tables.mode = .overlay) {names : List String}
    {box : SceneBox α} {outer : Option Head} {head : Head}
    (styled : StyledAs tables names box outer head) :
    ∃ whole css, wholeCss box = .ok whole ∧
      head.attribute? "style" = styleText? (whole.subset geometryProperties) ∧
      outerDeclarations box = .ok css ∧
      outer = css.map fun css => plainHead (wrapperAttributes .overlay box css) [] := by
  obtain ⟨found, css, text, boxed, -, rfl, rfl⟩ := styled
  obtain ⟨bag, _, carried, surrounded, same⟩ := boxStyling_eq_ok_iff.mp boxed
  rw [Prod.mk.injEq] at same
  obtain ⟨rfl, rfl⟩ := same
  rw [carriedCss_overlay overlay] at carried
  refine ⟨bag, css, carried, ?_, surrounded, by rw [overlay]⟩
  rw [attribute?_plainHead, style_boxAttributes, styling, overlay]
  rfl

private theorem mem_shared {settings : Settings} {nodes : List (SceneNode α)} {name : String}
    {declaration : Css.Declaration}
    (member : declaration ∈ ClassRule.declared
      (sharedRules (Tables.ofScene .content settings nodes).shared) name) :
    declaration.1 ∈ sharedProperties := by
  obtain ⟨shared, counted, -, here⟩ := mem_declared_sharedRules member
  rw [shared_ofScene] at counted
  obtain ⟨found, known, made⟩ := SharedTable.madeFrom_of_mem_build counted
  obtain ⟨bag, -, rfl⟩ := List.mem_map.mp (List.mem_of_mem_filter known)
  rw [made.declarations] at here
  simpa using (List.mem_filter.mp here).2

/-- Whatever the passes move, the geometry that is declared stays the same. -/
theorem Passes.geometry {settings : Settings} {nodes : List (SceneNode α)} {used : UtilitySet}
    {box : SceneBox α} {whole rest : Css.Declarations} {moved : List Css.Declaration}
    {found : Extraction}
    (passes : Passes (.ofScene .content settings nodes) box whole rest moved found)
    (distinct : used.names.Nodup) (known : found.utilities ++ found.sizes ⊆ used.names) :
    (whole.subset geometryProperties).toList.Perm
      ((found.declared (classRules (.ofScene .content settings nodes) used)).filter
        fun declaration => geometryProperties.contains declaration.1) := by
  have disjoint : ∀ name ∈ geometryProperties, name ∉ sharedProperties := by decide
  -- Shared classes declare no geometry, whichever rules have their name.
  have taken : (found.shared.toList.flatMap (ClassRule.declared
      (sharedRules (Tables.ofScene .content settings nodes).shared))).filter
        (fun declaration => geometryProperties.contains declaration.1) = [] := by
    rw [List.filter_eq_nil_iff]
    intro declaration member
    obtain ⟨name, -, here⟩ := List.mem_flatMap.mp member
    exact fun geometry => disjoint _ (List.contains_iff_mem.mp geometry) (mem_shared here)
  have left : found.inline.toList.filter
      (fun declaration => geometryProperties.contains declaration.1) =
        rest.toList.filter fun declaration => geometryProperties.contains declaration.1 := by
    rcases passes.shared with ⟨-, same⟩ | ⟨-, -, -, _, -, -, -, same⟩
    · rw [same]
    · rw [same]
      change (rest.toList.filter _).filter _ = _
      rw [List.filter_filter]
      refine List.filter_congr fun declaration _ => ?_
      simpa using disjoint declaration.1
  rw [passes.declared_eq distinct known, List.filter_append, List.filter_append, taken, left,
    List.append_nil, ← List.filter_append]
  exact (passes.kept.filter _).symm

/-- A box of the overlay, the second of each pair, declares the geometry of the box in the
content: of what its style and the rules of its extracted classes declare, or of the style alone
where the box is the outer one. -/
structure SameGeometry (tables : Tables) (rules : List ClassRule) (box : SceneBox α)
    (outer : Option (Head × Head)) (heads : Head × Head) : Prop where
  box : ∃ found bag, CarriesExtraction tables box heads.1 found ∧
    heads.2.attribute? "style" = styleText? bag ∧
    bag.toList.Perm ((found.declared rules).filter fun declaration =>
      geometryProperties.contains declaration.1)
  outer : ∀ pair ∈ outer, ∃ bag, pair.1.attribute? "class" = some "has-wrapper" ∧
    pair.1.attribute? "style" = styleText? bag ∧
    pair.2.attribute? "style" = styleText? (bag.subset geometryProperties)

/-- The content and the overlay draw the scene in pairs of elements, with the same geometry at
each box. The rules of the content are those of pseudo-elements and of classes in use. -/
def OverlayAgrees (settings : Settings) (scene : CompiledScene α)
    (content overlay : RenderedMarkup) : Prop :=
  ∃ (used : UtilitySet) (pairs : List (Element × Element)),
    content.css = String.intercalate "\n" (scene.rules.texts ++
      (classRules (.ofScene .content settings scene.nodes) used).map ClassRule.text) ∧
    content.elements = pairs.map Prod.fst ∧ overlay.elements = pairs.map Prod.snd ∧
    List.Forall₂ (DrawPair (SameGeometry (.ofScene .content settings scene.nodes)
      (classRules (.ofScene .content settings scene.nodes) used))) scene.nodes pairs

/-- Wherever the content is drawn, so is the overlay, and it agrees with the content on the boxes:
they have the same nesting, and each box of the overlay declares the geometry of its own in the
content. -/
theorem overlay_agrees_with_content {template : String} {provider : FontProvider}
    {composition : Composition α} {scene : CompiledScene α} {settings : Settings}
    {content : RenderedMarkup}
    (compiled : compileComposition template provider composition = .ok scene)
    (rendered : renderScene .content settings scene = .ok content) :
    ∃ overlay, renderScene .overlay settings scene = .ok overlay ∧
      OverlayAgrees settings scene content overlay := by
  obtain ⟨overlay, shown⟩ := overlay_returns rendered
  obtain ⟨used, drawn, written⟩ := renderScene_cases rendered
  obtain ⟨others, beside, -⟩ := renderScene_cases shown
  -- The two heads of a box come from one bag, whole in the overlay and extracted in the content.
  have related : ∀ node ∈ scene.nodes, ∀ box ∈ node.preorder, ∀ outer heads,
      StyledAs (.ofScene .content settings scene.nodes) used.names box (outer.map Prod.fst)
        heads.1 →
      StyledAs (.ofScene .overlay settings scene.nodes) others.names box (outer.map Prod.snd)
        heads.2 →
      SameGeometry (.ofScene .content settings scene.nodes)
        (classRules (.ofScene .content settings scene.nodes) used) box outer heads := by
    intro node member box inside outer heads here there
    have inside := mem_preorders_of_mem member inside
    obtain ⟨found, css, carries, known, surrounded, same⟩ := here.content rfl
    obtain ⟨whole, _, styled, style, around, other⟩ := there.overlay rfl
    obtain rfl := Except.ok.inj (surrounded.symm.trans around)
    obtain ⟨_, rest, moved, again, passes⟩ :=
      passes_ofBox (tidy_of_compiled compiled box inside) carries.extracted
    obtain rfl := Except.ok.inj (styled.symm.trans again)
    exact ⟨⟨_, _, carries, style, passes.geometry drawn.distinct known⟩,
      outer_of_heads same other⟩
  obtain ⟨pairs, left, right, paired⟩ := exists_pairs
    (fun node member first second => Draws.pair node first second
      (framesHold_of_compiled compiled node member) (related node member))
    drawn.draws beside.draws
  exact ⟨overlay, shown, used, pairs, written.trans (contentCss_eq scene rfl), left, right, paired⟩

end Scenes

theorem fadedRow_overlay_agrees :
    ∃ scene content overlay, compileComposition "" (fun _ => none) fadedRow = .ok scene ∧
      renderScene .content .default scene = .ok content ∧
      renderScene .overlay .default scene = .ok overlay ∧
      OverlayAgrees .default scene content overlay := by
  obtain ⟨scene, compiled, drawn⟩ := Except.exists_of_any
    (fun scene => (renderScene .content .default scene).toOption.any fun _ => true)
    (show (compileComposition "" (fun _ => none) fadedRow).toOption.any _ = true by
      decide +kernel)
  obtain ⟨content, rendered, -⟩ := Except.exists_of_any _ drawn
  obtain ⟨overlay, shown, agrees⟩ := overlay_agrees_with_content compiled rendered
  exact ⟨scene, content, overlay, compiled, rendered, shown, agrees⟩

end Artboard.Render
