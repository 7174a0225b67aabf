import Artboard.Proofs.Css.Numbers
import Artboard.Proofs.Render.Carried
import Artboard.Proofs.Scene.Settled

/-!
# Settled style attributes

The elements of a box with settled declarations declare nothing else: the layout
adds numbers and keywords, shadows that move to a wrapper stay settled, and the
classes only take declarations out.
-/
namespace Artboard.Render

open Css Css.Declarations

variable {α : Type} [Scalar α]

private theorem settled_positionDeclarations {layout : Layout α}
    {place : List Declaration} (placed : positionDeclarations layout = .ok place) :
    ∀ declaration ∈ place, declaration.Settled := by
  have start : ∀ declaration ∈ [("position", layout.position.css), ("left", px layout.left),
      ("top", px layout.top)], Declaration.Settled declaration := by
    rw [List.forall_mem_cons, List.forall_mem_cons, List.forall_mem_singleton]
    refine ⟨.of (by decide) ?_, .of (by decide) (settled_px _), .of (by decide) (settled_px _)⟩
    cases layout.position <;> decide
  unfold positionDeclarations at placed
  dsimp only at placed
  split at placed
  · cases placed
    exact start
  · obtain ⟨transform, written, placed⟩ := Except.bind_eq_ok_iff.mp placed
    cases placed
    refine List.forall_mem_append.mpr ⟨start, ?_⟩
    rw [List.forall_mem_cons, List.forall_mem_singleton]
    refine ⟨.of (by decide) ?_, .of (by decide) (settled_linearMatrix written)⟩
    cases layout.origin <;> decide

private theorem settled_lengthCss {symbolic : Option String} (given : SettledIf symbolic)
    (length : α) : Css.Settled (Layout.lengthCss symbolic length) := by
  unfold Layout.lengthCss
  split
  next text =>
    split
    · exact settled_px length
    · exact given text rfl
  · exact settled_px length

theorem settled_prune (context : BoxContext) {bag : Declarations} (settled : bag.Settled) :
    (context.prune bag).Settled :=
  fun declaration member => settled declaration (mem_of_mem_prune member)

section Boxes

variable {box : SceneBox α}

private theorem settled_visualCss (settled : box.Settled) : (visualCss box).Settled := by
  rw [visualCss]
  split
  · exact settled.layout.containerCss.update settled.declarations
  · exact settled.declarations

variable [Scalar.SettledTexts α]

private theorem settled_sizedCss {size : List Declaration} {bag : Declarations}
    (settled : box.Settled) (sizes : ∀ declaration ∈ size, declaration.Settled)
    (styled : sizedCss box size = .ok bag) : bag.Settled := by
  obtain ⟨position, placed, styled⟩ := Except.bind_eq_ok_iff.mp styled
  cases styled
  refine settled_prune _ (((settled_ofList ?_).update settled.layout.itemCss).update
    (settled_visualCss settled))
  exact List.forall_mem_append.mpr ⟨settled_positionDeclarations placed, sizes⟩

private theorem settled_singleCss {tables : Tables} {bag : Declarations} (settled : box.Settled)
    (styled : singleCss tables box = .ok bag) : bag.Settled := by
  have size {name value : String} (word : IsWord name.toList) (known : Css.Settled value)
      (sizeClass : Option String) :
      ∀ declaration ∈ sizeDeclaration name value sizeClass, declaration.Settled := by
    rw [sizeDeclaration]
    split
    · simp
    · simpa using Declaration.Settled.of word known
  refine settled_sizedCss settled ?_ styled
  exact List.forall_mem_append.mpr
    ⟨size (by decide) (settled_lengthCss settled.layout.width _) _,
      size (by decide) (settled_lengthCss settled.layout.height _) _⟩

private theorem settled_outerCss (settled : box.Settled) : (outerCss box).Settled := by
  refine ((settled_ofList ?_).update settled.layout.itemCss).update
    ((settled_visualCss settled).filter _)
  simp only [List.forall_mem_cons, List.not_mem_nil, false_imp_iff, forall_true_iff, and_true]
  refine ⟨.of (by decide) ?_, .of (by decide) (settled_px _), .of (by decide) (settled_px _),
    .of (by decide) (settled_lengthCss settled.layout.width _),
    .of (by decide) (settled_lengthCss settled.layout.height _)⟩
  cases box.layout.position <;> decide

end Boxes

private theorem settled_centering {layout : Layout α} {wrapper : Wrapper α}
    {centering : List Declaration}
    (centered : centeringDeclarations layout wrapper = .ok centering) :
    ∀ declaration ∈ centering, declaration.Settled := by
  unfold centeringDeclarations at centered
  split at centered
  · cases centered
    simp only [List.forall_mem_cons, List.not_mem_nil, false_imp_iff, forall_true_iff, and_true]
    exact ⟨.of (by decide) (by decide), .of (by decide) (by decide), .of (by decide) (by decide),
      .of (by decide) (by decide), .of (by decide) (by decide)⟩
  · have placed {transform : String} (turned : Css.Settled transform) :
        ∀ declaration ∈ [("left", "50%"), ("top", "50%"), ("transform-origin", "center"),
          ("transform", transform)], Declaration.Settled declaration := by
      simp only [List.forall_mem_cons, List.not_mem_nil, false_imp_iff, forall_true_iff, and_true]
      exact ⟨.of (by decide) (by decide), .of (by decide) (by decide), .of (by decide) (by decide),
        .of (by decide) turned⟩
    dsimp only at centered
    split at centered
    · cases centered
      exact placed (by decide)
    · obtain ⟨matrix, linear, centered⟩ := Except.bind_eq_ok_iff.mp centered
      cases centered
      exact placed ((show Css.Settled "translate(-50%,-50%) " by decide).append
        (settled_linearMatrix linear))

private theorem settled_innerCss {box : SceneBox α} {wrapper : Wrapper α} {inner : Declarations}
    (settled : box.Settled) (started : innerCss box wrapper = .ok inner) : inner.Settled := by
  obtain ⟨centering, centered, started⟩ := Except.bind_eq_ok_iff.mp started
  cases started
  refine (settled_ofList ?_).update ((settled_visualCss settled).filter _)
  simp only [List.forall_mem_append, List.forall_mem_cons, List.not_mem_nil, false_imp_iff,
    forall_true_iff, and_true]
  exact ⟨⟨.of (by decide) (by decide), settled_centering centered⟩,
    .of (by decide) (settled_px _), .of (by decide) (settled_px _)⟩

/-- The parts of a settled shadow are settled, and so is the filter that is made from them. -/
private theorem settled_dropShadow {token : String} (settled : Css.Settled token) :
    Css.Settled (dropShadow token) := by
  have parts : ∀ part ∈ splitTopLevel ' ' token.toList, SettledChars part :=
    fun _ => settled_of_mem_splitTopLevel rfl settled
  have inner : Css.Settled (String.ofList (List.intercalate [' ']
      (((splitTopLevel ' ' token.toList).takeWhile isLength).take 3 ++
        (splitTopLevel ' ' token.toList).drop
          ((splitTopLevel ' ' token.toList).takeWhile isLength).length))) := by
    rw [Css.Settled, String.toList_ofList]
    refine SettledChars.intercalate (by decide) (List.forall_mem_append.mpr ⟨?_, ?_⟩)
    · exact fun part member =>
        parts part ((List.takeWhile_prefix _).sublist.mem (List.mem_of_mem_take member))
    · exact fun part member => parts part (List.mem_of_mem_drop member)
  exact ((show Opens "drop-shadow(" by decide).append inner).close (by decide)

private theorem settled_migrateShadows {inner outer : Declarations} (within : inner.Settled)
    (around : outer.Settled) :
    (migrateShadows inner outer).1.Settled ∧ (migrateShadows inner outer).2.Settled := by
  have shadows : Css.Settled ((inner.get? "box-shadow").getD "") := by
    cases found : inner.get? "box-shadow" with
    | none => decide
    | some text => exact (within.get? found).2
  have tokens : ∀ token ∈ (splitTopLevel ',' ((inner.get? "box-shadow").getD "").toList).map
      String.ofList, Css.Settled token := by
    refine List.forall_mem_map.mpr fun part member => ?_
    rw [Css.Settled, String.toList_ofList]
    exact settled_of_mem_splitTopLevel rfl shadows member
  unfold migrateShadows
  generalize (splitTopLevel ',' _).map String.ofList = listed at tokens
  dsimp only
  split
  · exact ⟨within, around⟩
  constructor
  · dsimp only
    split
    · exact within.filter _
    · refine within.set (.of (by decide) (settled_intercalate (by decide) fun token member => ?_))
      exact tokens token (List.mem_of_mem_filter member)
  · have kept : ∀ token ∈ listed.filter fun token => !isInset token, Css.Settled token :=
      fun token member => tokens token (List.mem_of_mem_filter member)
    dsimp only
    -- The filters are added one after the other.
    generalize (listed.filter fun token => !isInset token) = moved at kept
    clear tokens shadows
    induction moved generalizing outer with
    | nil => exact around
    | cons token rest ih =>
      obtain ⟨here, later⟩ := List.forall_mem_cons.mp kept
      exact ih (around.appendList (by decide) (.of (by decide) (settled_dropShadow here))) later

variable [Scalar.SettledTexts α]

private theorem settled_wrappedCss {box : SceneBox α} {wrapper : Wrapper α}
    {found : Declarations × Declarations} (settled : box.Settled)
    (wrapped : wrappedCss box wrapper = .ok found) : found.1.Settled ∧ found.2.Settled := by
  obtain ⟨inner, started, wrapped⟩ := Except.bind_eq_ok_iff.mp wrapped
  have within := settled_innerCss settled started
  have moved := settled_migrateShadows within (settled_outerCss settled)
  dsimp only at wrapped
  split at wrapped <;> cases wrapped
  · exact ⟨settled_prune _ within, settled_prune _ (settled_outerCss settled)⟩
  · exact ⟨settled_prune _ moved.1, settled_prune _ moved.2⟩

omit [Scalar α] [Scalar.SettledTexts α] in
private theorem settled_styling {tables : Tables} {box : SceneBox α} {sizes : List String}
    {shareable : Bool} {bag : Declarations} (settled : bag.Settled) :
    (styling tables box sizes shareable bag).css.Settled := by
  rw [styling]
  split
  · have rest : (Classes.splitUtilities bag).2.Settled :=
      settled_ofList fun declaration member =>
        settled declaration (List.mem_of_mem_filter member)
    unfold contentStyling
    dsimp only
    split
    · rw [Classes.SharedTable.apply]
      split
      · exact rest
      · split
        · exact rest.filter _
        · exact rest
    · exact rest
  · exact settled.filter _

/-- What the elements of a box declare is settled, where the box is. -/
theorem settled_boxStyling {tables : Tables} {box : SceneBox α} {styling : Styling}
    {outer : Option Declarations} (settled : box.Settled)
    (boxed : boxStyling tables box = .ok (styling, outer)) :
    styling.css.Settled ∧ ∀ bag ∈ outer, bag.Settled := by
  unfold boxStyling at boxed
  split at boxed
  · obtain ⟨bag, styled, boxed⟩ := Except.bind_eq_ok_iff.mp boxed
    cases boxed
    exact ⟨settled_styling (settled_singleCss settled styled), nofun⟩
  next wrapper wrapped =>
    obtain ⟨⟨inner, outer⟩, styled, boxed⟩ := Except.bind_eq_ok_iff.mp boxed
    cases boxed
    obtain ⟨within, around⟩ := settled_wrappedCss settled styled
    exact ⟨settled_styling within, by rintro _ ⟨⟩; exact around⟩

end Artboard.Render
