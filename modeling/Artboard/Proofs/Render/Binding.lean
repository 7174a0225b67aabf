import Artboard.Proofs.Render.Depiction
import Artboard.Proofs.Scene.Enumeration
import Artboard.Proofs.Scene.Strokes

/-!
# Strokes and their boxes

The rule of a stroke reaches the elements that carry the id of its node. In the
content these are the boxes of the nodes with that id that list a stroke, so that a
rule reaches its own box alone where no other such node has the id.
-/
namespace Artboard

open Markup

variable {α : Type} [Scalar α]

/-! ### Marked entries -/

/-- The box of the entry carries the id: the entry is a node with the id that lists a stroke. -/
def Entry.marks (id : String) (entry : Entry α) : Bool :=
  !entry.isGroup && !entry.node.props.style.strokes.isEmpty && entry.node.props.id == id

/-- A stroke that is drawn is listed, so that a mark adds nothing to the id. -/
private theorem Entry.marks_of_pseudo {entry : Entry α} {bag : Css.Declarations}
    (strokes : entry.pseudo? = some bag) (id : String) :
    entry.marks id = (entry.node.props.id == id) := by
  simp [marks, (entry.pseudo_cases strokes).1, entry.strokes_of_pseudo strokes]

/-- Where one entry alone is marked with its id, only its stroke is drawn under the id. -/
private theorem strokesOf_of_alone {entries : List (Entry α)} {entry : Entry α}
    {bag : Css.Declarations} (strokes : entry.pseudo? = some bag)
    (alone : entries.filter (Entry.marks entry.node.props.id) = [entry]) :
    strokesOf entry.node.props.id entries = [bag] := by
  have marked : strokesOf entry.node.props.id entries =
      (entries.filter (Entry.marks entry.node.props.id)).filterMap Entry.pseudo? := by
    rw [strokesOf, List.filterMap_filter, List.filterMap_filter]
    congr 1
    funext other
    cases drawn : other.pseudo? with
    | none => simp
    | some pseudo => simp [Entry.marks_of_pseudo drawn]
  rw [marked, alone]
  simp [strokes]

namespace Render

/-! ### Marked heads -/

/-- The head carries the id of a node. -/
def carriesId (id : String) (head : Head) : Bool := head.attribute? "data-layer-id" == some id

private theorem lookup_styleAttribute_id (bag : Css.Declarations) :
    (styleAttribute bag).lookup "data-layer-id" = none := by
  rw [styleAttribute]
  split <;> rfl

omit [Scalar α] in
theorem carriesId_ownHead (id : String) (box : SceneBox α) (styling : Styling)
    (text : List Char) :
    carriesId id (ownHead .content box styling text) = (box.hasStroke && box.id == id) := by
  rw [carriesId, ownHead, attribute?_plainHead]
  unfold boxAttributes
  have file : fileAttribute .content box = [] := by rw [fileAttribute.eq_def]
  rw [file]
  cases box.hasStroke <;> simp [List.lookup_cons, lookup_styleAttribute_id]

omit [Scalar α] in
private theorem carriesId_outerHead (id : String) (box : SceneBox α) (outer : Css.Declarations) :
    carriesId id (outerHead .content box outer) = false := by
  rw [carriesId, outerHead, attribute?_plainHead]
  simp [wrapperAttributes, List.lookup_cons, lookup_styleAttribute_id]

private theorem carriesId_textHeads {text : TextData α} {heads : List Head}
    (shown : TextHeads text heads) (id : String) : ∀ head ∈ heads, carriesId id head = false := by
  intro head member
  by_cases span : head.name = .plain "span"
  · obtain ⟨segment, -, bag, -, only⟩ := exists_of_mem_right shown.spans
      (List.mem_filter.mpr ⟨member, by simpa using span⟩)
    rw [carriesId, Head.attribute?, only]
    rfl
  · rw [carriesId, Head.attribute?, shown.others head member span]
    rfl

/-- No drawing in the composition carries the id. -/
def DrawsWithout (composition : Composition α) (id : String) : Prop :=
  ∀ entry ∈ EntryTree.preorders composition.walk, ∀ markup ∈ entry.node.props.svgContent,
    ∀ drawing ∈ readSvg markup, ∀ head ∈ drawing.heads, head.attribute? "data-layer-id" ≠ some id

private theorem drawing?_cases {template : String} {root : Affine α} {entry : Entry α}
    {box : SceneBox α} (compiled : CompiledAs template root entry box) {drawing : Element}
    (drawn : drawing? box = some drawing) :
    ∃ markup ∈ entry.node.props.svgContent, readSvg markup = some drawing := by
  unfold drawing? at drawn
  split at drawn
  next markup vector holds =>
    refine ⟨markup, ?_, drawn⟩
    cases compiled with
    | node _ _ returned =>
      obtain ⟨-, layout, style, content, -, -, filled, rfl⟩ := compileBox_cases returned
      have kind : NodeKind.ofNode entry.node.props = .svg := vector
      obtain rfl : content = .svg markup := holds
      unfold contentOf at filled
      rw [kind] at filled
      cases given : entry.node.props.svgContent with
      | none =>
        rw [given] at filled
        cases filled
      | some text =>
        rw [given] at filled
        by_cases inhabited : isGiven (some text) = true
        · simp only [inhabited, if_true] at filled
          cases filled
          rfl
        · simp only [inhabited] at filled
          cases filled
    | group => cases vector
  · cases drawn

/-- What a box holds does not carry the id, unless a drawing does. -/
private theorem carriesId_content {template : String} {root : Affine α} {entry : Entry α}
    {box : SceneBox α} (compiled : CompiledAs template root entry box) {id : String}
    (without : ∀ markup ∈ entry.node.props.svgContent, ∀ drawing ∈ readSvg markup,
      ∀ head ∈ drawing.heads, head.attribute? "data-layer-id" ≠ some id)
    {tables : Tables} {content : Fragment} (filled : ownContent tables box = .ok content)
    (mode : tables.mode = .content) :
    ∀ head ∈ headsAll content.elements, carriesId id head = false := by
  by_cases text : box.kind = .text
  · rcases ownContent_textHeads compiled text filled with none | ⟨_, -, shown⟩
    · rw [none]
      exact List.forall_mem_nil _
    · exact carriesId_textHeads shown id
  by_cases vector : box.kind = .svg
  · have shown := vectorContent_of_ownContent vector filled
    unfold vectorContent at shown
    rw [mode] at shown
    split at shown
    next drawing _ drawn =>
      cases shown
      obtain ⟨markup, known, read⟩ := drawing?_cases compiled drawn
      intro head member
      rw [headsAll, headsAll, List.append_nil] at member
      simpa [carriesId] using without markup known drawing read head member
    · obtain ⟨url, -, shown⟩ := Except.bind_eq_ok_iff.mp shown
      cases shown
      exact List.forall_mem_singleton.mpr rfl
    next contrary _ => cases contrary
    · cases shown
      exact List.forall_mem_nil _
  · rw [payload_eq_nil filled text vector]
    exact List.forall_mem_nil _

omit [Scalar α] in
private theorem filter_heads {id : String} {around : List Head} {own : Head} {inside : List Head}
    (outer : ∀ head ∈ around, carriesId id head = false)
    (held : ∀ head ∈ inside, carriesId id head = false) :
    (around ++ own :: inside).filter (carriesId id) =
      if carriesId id own then [own] else [] := by
  have none {heads : List Head} (absent : ∀ head ∈ heads, carriesId id head = false) :
      heads.filter (carriesId id) = [] :=
    List.filter_eq_nil_iff.mpr fun head member => by simp [absent head member]
  rw [List.filter_append, List.filter_cons, none outer, none held]
  rfl

/-- The head is that of the element that carries the box of the entry. -/
def HeadOf (template : String) (root : Affine α) (tables : Tables) (entry : Entry α)
    (head : Head) : Prop :=
  ∃ box styling outer text, CompiledAs template root entry box ∧
    boxStyling tables box = .ok (styling, outer) ∧ head = ownHead tables.mode box styling text

private theorem filter_headsOf {template : String} {root : Affine α} {entry : Entry α}
    {box : SceneBox α} {tables : Tables} {heads : List Head} {id : String}
    (compiled : CompiledAs template root entry box) (mode : tables.mode = .content)
    (without : ∀ markup ∈ entry.node.props.svgContent, ∀ drawing ∈ readSvg markup,
      ∀ head ∈ drawing.heads, head.attribute? "data-layer-id" ≠ some id)
    (drawn : HeadsOf tables box heads) :
    ∃ head, HeadOf template root tables entry head ∧
      heads.filter (carriesId id) = if entry.marks id then [head] else [] := by
  cases drawn with
  | @mk styling outer content boxed filled =>
    refine ⟨_, ⟨box, styling, outer, content.text, compiled, boxed, rfl⟩, ?_⟩
    have marks : carriesId id (ownHead tables.mode box styling content.text) = entry.marks id := by
      rw [mode, carriesId_ownHead, Entry.marks]
      cases compiled with
      | node alone _ returned =>
        obtain ⟨-, layout, style, content, -, -, -, rfl⟩ := compileBox_cases returned
        simp [nodeBox, alone]
      | group grouped => simp [maskBox, grouped]
    rw [filter_heads _ (carriesId_content compiled without filled mode), marks]
    intro head member
    cases outer with
    | none => cases member
    | some outer =>
      obtain rfl := List.mem_singleton.mp member
      rw [mode]
      exact carriesId_outerHead id box outer

/-- Lists are related where each is related to a third. -/
theorem forall₂_trans {β γ δ : Type} {R : β → γ → Prop} {S : γ → δ → Prop}
    {first : List β} {second : List γ} {third : List δ} (one : List.Forall₂ R first second)
    (other : List.Forall₂ S second third) :
    List.Forall₂ (fun item result => ∃ between, R item between ∧ S between result) first third := by
  induction one generalizing third with
  | nil =>
    cases other
    exact .nil
  | cons related _ ih =>
    cases other with
    | cons here later => exact .cons ⟨_, related, here⟩ (ih later)

private theorem forall₂_filter_flatten {β γ : Type} {R : β → γ → Prop} {keep : β → Bool}
    {find : γ → Bool} {items : List β} {parts : List (List γ)}
    (each : List.Forall₂ (fun item part =>
      ∃ found, R item found ∧ part.filter find = if keep item then [found] else []) items parts) :
    List.Forall₂ R (items.filter keep) (parts.flatten.filter find) := by
  induction each with
  | nil => exact .nil
  | @cons item part _ _ first _ ih =>
    obtain ⟨found, related, same⟩ := first
    rw [List.flatten_cons, List.filter_append, same]
    cases kept : keep item with
    | true =>
      rw [List.filter_cons_of_pos kept]
      exact .cons related ih
    | false =>
      rw [List.filter_cons_of_neg (by simp [kept])]
      exact ih

/-- In the content the elements that carry an id are the boxes of the entries that are marked with
it, in the order of the walk. -/
theorem marked_heads {template : String} {provider : FontProvider} {composition : Composition α}
    {scene : CompiledScene α} {settings : Settings} {markup : RenderedMarkup} {id : String}
    (compiled : compileComposition template provider composition = .ok scene)
    (rendered : renderScene .content settings scene = .ok markup)
    (without : DrawsWithout composition id) :
    List.Forall₂ (HeadOf template composition.rootFrame (.ofScene .content settings scene.nodes))
      ((EntryTree.preorders composition.walk).filter (Entry.marks id))
      ((headsAll markup.elements).filter (carriesId id)) := by
  obtain ⟨parts, each, same⟩ := headsAll_of_renderScene rendered
  have follows := forall₂_preorders (follows_walk compiled)
  rw [same]
  refine forall₂_filter_flatten (forall₂_imp_of_mem (forall₂_trans follows each) ?_)
  rintro entry member heads ⟨box, compiledAs, drawn⟩
  exact filter_headsOf compiledAs rfl (without entry member) drawn

/-- The stroke of an entry has a rule, which is its own and asks for the id of its node, and the
only element with the id is the box of the entry. -/
structure StrokeBinds (template : String) (composition : Composition α) (scene : CompiledScene α)
    (settings : Settings) (markup : RenderedMarkup) (entry : Entry α) (bag : Css.Declarations) :
    Prop where
  rule : ∀ other, (pseudoSelector entry.node.props.id, other) ∈ scene.rules.toList ↔ other = bag
  selected : Css.selectedId? (pseudoSelector entry.node.props.id) = some entry.node.props.id
  carried : ∃ head, HeadOf template composition.rootFrame
      (.ofScene .content settings scene.nodes) entry head ∧
    (headsAll markup.elements).filter (carriesId entry.node.props.id) = [head]

/-- A stroke that needs a pseudo-element binds to its own box, where the entry alone is marked with
its id and every character of the id stands for itself in a stylesheet. -/
theorem strokes_bind {template : String} {provider : FontProvider} {composition : Composition α}
    {scene : CompiledScene α} {settings : Settings} {markup : RenderedMarkup} {entry : Entry α}
    {bag : Css.Declarations}
    (compiled : compileComposition template provider composition = .ok scene)
    (rendered : renderScene .content settings scene = .ok markup)
    (strokes : entry.pseudo? = some bag)
    (alone : (EntryTree.preorders composition.walk).filter (Entry.marks entry.node.props.id) =
      [entry])
    (plain : ∀ c ∈ entry.node.props.id.toList, Css.isStringChar c = true)
    (without : DrawsWithout composition entry.node.props.id) :
    StrokeBinds template composition scene settings markup entry bag := by
  refine ⟨fun other => ?_, Css.selectedId?_eq_some_iff.mpr plain, ?_⟩
  · rw [rules_of_compiled compiled, (mem_rules_iff _).2, strokesOf_of_alone strokes alone]
    simp [eq_comm]
  · have heads := marked_heads compiled rendered without
    rw [alone] at heads
    obtain ⟨head, rest, isHead, none, same⟩ := List.forall₂_cons_left_iff.mp heads
    obtain rfl := List.forall₂_nil_left_iff.mp none
    exact ⟨head, isHead, same⟩

/-! ### A stroke of its own -/

/-- A node whose sides have red strokes of different weights. -/
def strokedProps (id : String) : NodeProps Rat :=
  let props := plainProps id "RECTANGLE" ⟨1, 0, 0, 1, 0, 0⟩
  { props with style := { props.style with
      strokes := [{ visible := true, opacity := 1, blendMode := none, source := .solid ⟨1, 0, 0, 1⟩ }]
      strokeWeights := some ⟨1, 2, 1, 2⟩ } }

def strokedEntry (id : String) : Entry Rat where
  node := .mk (strokedProps id) []
  isGroup := false
  ancestors := []
  cover := none

def strokedSketch (id : String) : Composition Rat where
  name := "stroked"
  absOrigin := some ⟨0, 0⟩
  bounds := none
  children := [.mk (strokedProps id) []]

theorem walk_strokedSketch (id : String) :
    EntryTree.preorders (strokedSketch id).walk = [strokedEntry id] := rfl

theorem strokedSketch_binds :
    ∃ scene markup bag, compileComposition "" (fun _ => none) (strokedSketch "edge") = .ok scene ∧
      renderScene .content .default scene = .ok markup ∧
      (strokedEntry "edge").pseudo? = some bag ∧
      StrokeBinds "" (strokedSketch "edge") scene .default markup (strokedEntry "edge") bag := by
  obtain ⟨scene, compiled, drawn⟩ := Except.exists_of_any
    (fun scene => (renderScene .content .default scene).toOption.any fun _ => true)
    (show (compileComposition "" (fun _ => none) (strokedSketch "edge")).toOption.any _ = true by
      decide +kernel)
  obtain ⟨markup, rendered, -⟩ := Except.exists_of_any _ drawn
  obtain ⟨bag, strokes⟩ := Option.isSome_iff_exists.mp
    (show (strokedEntry "edge").pseudo?.isSome = true by decide +kernel)
  have only := walk_strokedSketch "edge"
  refine ⟨scene, markup, bag, compiled, rendered, strokes,
    strokes_bind compiled rendered strokes ?_ (List.all_eq_true.mp (by decide)) ?_⟩
  · rw [only]
    rfl
  · intro entry member markup known
    rw [only] at member
    obtain rfl := List.mem_singleton.mp member
    cases known

/-- A quote in an id ends the string of its selector, so that the rule of the stroke does not ask
for the id. -/
theorem quote_breaks_selector :
    ∃ scene bag, compileComposition "" (fun _ => none) (strokedSketch "a\"b") = .ok scene ∧
      EntryTree.preorders (strokedSketch "a\"b").walk = [strokedEntry "a\"b"] ∧
      (strokedEntry "a\"b").pseudo? = some bag ∧
      scene.rules.toList = [(pseudoSelector "a\"b", bag)] ∧
      Css.selectedId? (pseudoSelector "a\"b") ≠ some "a\"b" := by
  obtain ⟨scene, compiled, -⟩ := Except.exists_of_any (fun _ => true)
    (show (compileComposition "" (fun _ => none) (strokedSketch "a\"b")).toOption.any _ = true by
      decide +kernel)
  obtain ⟨bag, strokes⟩ := Option.isSome_iff_exists.mp
    (show (strokedEntry "a\"b").pseudo?.isSome = true by decide +kernel)
  refine ⟨scene, bag, compiled, walk_strokedSketch _, strokes, ?_, ?_⟩
  · have inhabited := Entry.isEmpty_pseudo strokes
    rw [rules_of_compiled compiled, walk_strokedSketch, List.foldl_cons, List.foldl_nil,
      PseudoRules.register, strokes]
    dsimp only
    rw [PseudoRules.add, if_neg (by simp [inhabited])]
    rfl
  · rw [ne_eq, Css.selectedId?_eq_some_iff]
    exact fun plain => absurd (plain '"' (by decide)) (by decide)

end Render

end Artboard
