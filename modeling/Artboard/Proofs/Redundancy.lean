import Artboard.Proofs.Css.Bag
import Artboard.Proofs.Text.Case
import Artboard.Redundancy
import Mathlib.Data.Option.Basic

/-!
# What pruning leaves of a bag

Pruning only takes declarations out, and only such that a browser applies without
them: what the box declares, or else the default of the browser, is the same before
and after.
-/
namespace Artboard

open Css.Declarations

/-! ### The declarations left -/

theorem toList_prune (context : BoxContext) (bag : Css.Declarations) :
    (context.prune bag).toList =
      bag.toList.filter fun declaration => !context.isRedundant declaration :=
  toList_ofList (bag.distinct.sublist (List.filter_sublist.map Prod.fst))

theorem mem_of_mem_prune {context : BoxContext} {bag : Css.Declarations}
    {declaration : Css.Declaration} (member : declaration ∈ (context.prune bag).toList) :
    declaration ∈ bag.toList := by
  rw [toList_prune] at member
  exact List.mem_of_mem_filter member

theorem filter_prune (context : BoxContext) (keep : String → Bool) (bag : Css.Declarations) :
    (context.prune bag).filter keep = context.prune (bag.filter keep) := by
  apply eq_of_toList
  rw [toList_prune]
  simp only [Css.Declarations.filter, toList_prune, List.filter_filter, Bool.and_comm]

/-- A value is found after pruning where it was before and is not redundant. -/
theorem get?_prune (context : BoxContext) (bag : Css.Declarations) (name : String) :
    (context.prune bag).get? name =
      (bag.get? name).filter fun value => !context.isRedundant (name, value) := by
  ext value
  rw [get?_eq_some_iff, toList_prune, List.mem_filter, ← get?_eq_some_iff,
    Option.filter_eq_some_iff]

/-- Pruning a second time finds nothing. -/
theorem prune_prune (context : BoxContext) (bag : Css.Declarations) :
    context.prune (context.prune bag) = context.prune bag := by
  apply eq_of_toList
  rw [toList_prune, List.filter_eq_self]
  intro declaration member
  rw [toList_prune] at member
  exact (List.mem_filter.mp member).2

/-- The properties that redundant declarations are about. -/
def prunedProperties : List String :=
  ["left", "top", "transform-origin", "justify-content", "align-items", "flex-direction",
   "flex-wrap"]

theorem isRedundant_eq_false (context : BoxContext) {declaration : Css.Declaration}
    (other : declaration.1 ∉ prunedProperties) : context.isRedundant declaration = false := by
  simp only [prunedProperties, List.mem_cons, List.not_mem_nil, or_false, not_or] at other
  simp [BoxContext.isRedundant, BoxContext.isFlexDefault, other]

theorem get?_prune_of_notMem {context : BoxContext} {bag : Css.Declarations} {name : String}
    (other : name ∉ prunedProperties) : (context.prune bag).get? name = bag.get? name := by
  ext value
  rw [get?_prune, Option.filter_eq_some_iff,
    isRedundant_eq_false context (show (name, value).1 ∉ prunedProperties from other)]
  exact and_iff_left rfl

/-! ### The values in effect -/

namespace Css

namespace Declarations

/-- The bag declares the word, in capitals or in small letters. -/
def states (bag : Declarations) (name word : String) : Bool :=
  (bag.get? name).any fun value => Text.plainLower value == word

/-- What a browser takes for the properties of a flex container. -/
def flexDefaults : List (String × String) :=
  [("flex-direction", "row"), ("flex-wrap", "nowrap"), ("justify-content", "flex-start"),
   ("align-items", "stretch")]

/-- What a browser takes for a property that the box leaves out: a relative box is not offset, and
a flex container has the defaults of flex containers. -/
def defaultValue (bag : Declarations) (name : String) : Option String :=
  if bag.states "position" "relative" && (name == "left" || name == "top") then some "0"
  else if bag.states "display" "flex" then flexDefaults.lookup name
  else none

/-- The value that a property takes: the declared one, or else the default. -/
def effective (bag : Declarations) (name : String) : Option String :=
  (bag.get? name).or (bag.defaultValue name)

end Declarations

def zeroLengths : List String := ["0", "0px", "0%"]

/-- The values are the same up to the case of letters, or both of them are zero. -/
def SameValue (first second : String) : Prop :=
  Text.plainLower first = Text.plainLower second ∨
    (Text.plainLower first ∈ zeroLengths ∧ Text.plainLower second ∈ zeroLengths)

instance (first second : String) : Decidable (SameValue first second) :=
  inferInstanceAs (Decidable (_ ∨ _ ∧ _))

theorem SameValue.refl (value : String) : SameValue value value := .inl rfl

end Css

open Css

namespace BoxContext

variable {context : BoxContext} {bag : Css.Declarations}

/-- The context has the position and the display of the bag. -/
structure Describes (context : BoxContext) (bag : Css.Declarations) : Prop where
  position : context.position = bag.get? "position"
  display : context.display = bag.get? "display"

/-- A word of the context is a word of the bag. -/
private theorem states_of_lowerText {value : Option String} {name word : String}
    (own : value = bag.get? name) (plain : Text.IsPlainWord word) (given : word ≠ "")
    (same : Text.lowerText (value.getD "") = word) : bag.states name word = true := by
  rw [Declarations.states, ← own]
  cases value with
  | none => exact absurd same.symm given
  | some value => simpa using Text.plainLower_of_lowerText plain same

/-- What counts as a default of flex containers is one. -/
private theorem mem_flexDefaults {name value : String}
    (isDefault : context.isFlexDefault name value = true) : (name, value) ∈ flexDefaults := by
  simp only [isFlexDefault, Bool.or_eq_true, Bool.and_eq_true, beq_iff_eq] at isDefault
  rcases isDefault with ((⟨⟨rfl, rfl⟩, -⟩ | ⟨rfl, rfl⟩) | ⟨rfl, rfl⟩) | ⟨rfl, rfl⟩ <;> decide

private theorem lookup_flexDefaults : ∀ default ∈ flexDefaults,
    flexDefaults.lookup default.1 = some default.2 ∧ default.1 ≠ "left" ∧ default.1 ≠ "top" ∧
      Text.plainLower default.2 = default.2 ∧
      Text.IsPlainWord default.2 := by
  decide

private theorem zeroOffsets_plain : ∀ zero ∈ zeroOffsets, zero ∈ zeroLengths ∧
    Text.IsPlainWord zero := by
  decide

/-- A redundant declaration of a property with a default has the value of the default. -/
private theorem defaultValue_of_isRedundant (own : context.Describes bag) {name value : String}
    (other : name ≠ "transform-origin") (redundant : context.isRedundant (name, value) = true) :
    ∃ default, bag.defaultValue name = some default ∧ SameValue default value := by
  simp only [isRedundant, Bool.and_eq_true, Bool.or_eq_true, beq_iff_eq, List.contains_iff_mem]
    at redundant
  rcases redundant.2 with (⟨⟨relative, offset⟩, zero⟩ | ⟨origin, -⟩) | ⟨flex, isDefault⟩
  case inl.inl =>
    have stated := states_of_lowerText own.position (by decide) (by decide) (beq_iff_eq.mp relative)
    obtain ⟨isZero, plain⟩ := zeroOffsets_plain _ zero
    refine ⟨"0", ?_, .inr ⟨by decide, ?_⟩⟩
    · have isOffset : (name == "left" || name == "top") = true := by simpa using offset
      rw [Declarations.defaultValue, stated, isOffset]
      rfl
    · rw [Text.plainLower_of_lowerText plain rfl]
      exact isZero
  case inl.inr => exact absurd origin other
  case inr =>
    have stated := states_of_lowerText own.display (by decide) (by decide) (beq_iff_eq.mp flex)
    obtain ⟨found, left, top, lower, plain⟩ := lookup_flexDefaults _ (mem_flexDefaults isDefault)
    refine ⟨Text.lowerText value, ?_, .inl ?_⟩
    · have noOffset : (name == "left" || name == "top") = false := by simp [left, top]
      rw [Declarations.defaultValue, noOffset, Bool.and_false, stated]
      exact found
    · exact lower.trans (Text.plainLower_of_lowerText plain rfl).symm

/-- Pruning leaves the position and the display of a bag, and so its defaults. -/
private theorem defaultValue_prune (context : BoxContext) (bag : Css.Declarations) (name : String) :
    (context.prune bag).defaultValue name = bag.defaultValue name := by
  have kept {property : String} (other : property ∉ prunedProperties) (word : String) :
      (context.prune bag).states property word = bag.states property word := by
    rw [Declarations.states, Declarations.states, get?_prune_of_notMem other]
  rw [Declarations.defaultValue, Declarations.defaultValue, kept (by decide), kept (by decide)]

/-- Every property but the origin of a transform keeps its value in effect. -/
theorem effective_prune (own : context.Describes bag) {name : String}
    (other : name ≠ "transform-origin") :
    Option.Rel SameValue ((context.prune bag).effective name) (bag.effective name) := by
  have same (value : Option String) : Option.Rel SameValue value value := by
    cases value with
    | none => exact .none
    | some value => exact .some (.refl value)
  rw [Declarations.effective, Declarations.effective, get?_prune, defaultValue_prune]
  cases declared : bag.get? name with
  | none => exact same _
  | some value =>
    cases redundant : context.isRedundant (name, value) with
    | false =>
      rw [Option.filter_some_pos (by simp [redundant])]
      exact same _
    | true =>
      obtain ⟨default, taken, alike⟩ := defaultValue_of_isRedundant own other redundant
      rw [Option.filter_some_neg (by simp [redundant]), taken]
      exact .some alike

/-- The bag is what pruning for a box may make of the other one. -/
structure Prunes (isText : Bool) (bag pruned : Css.Declarations) : Prop where
  sublist : pruned.toList.Sublist bag.toList
  kept : ∀ name ∈ kept, pruned.get? name = bag.get? name
  effective : ∀ name, name ≠ "transform-origin" →
    Option.Rel SameValue (pruned.effective name) (bag.effective name)
  alignment : isText = true → pruned.get? "justify-content" = bag.get? "justify-content"

/-- Pruning for a box that the context describes only takes out what a browser applies without it,
and does so once and for all. -/
theorem pruning_keeps_effects (own : context.Describes bag) :
    Prunes context.isText bag (context.prune bag) ∧
      context.prune (context.prune bag) = context.prune bag := by
  refine ⟨⟨?_, ?_, fun _ => effective_prune own, ?_⟩, prune_prune context bag⟩
  · rw [toList_prune]
    exact List.filter_sublist
  · intro name member
    refine get?_prune_of_notMem ?_
    revert member name
    decide
  · intro isText
    ext value
    rw [get?_prune, Option.filter_eq_some_iff]
    simp [isRedundant, isFlexDefault, isText]

/-! ### A flex container in capitals -/

def rowBag : Css.Declarations :=
  .ofList [("position", "Relative"), ("left", "0%"), ("top", "2px"), ("display", "FLEX"),
    ("flex-direction", "Row"), ("flex-wrap", "wrap"), ("justify-content", "flex-start"),
    ("align-items", "STRETCH"), ("transform-origin", "center"), ("z-index", "0")]

def rowContext : BoxContext where
  position := some "Relative"
  rotatesOrScales := false
  display := some "FLEX"
  isText := true

theorem rowBag_keeps_effects :
    rowContext.Describes rowBag ∧
      (rowContext.prune rowBag).toList =
        [("position", "Relative"), ("top", "2px"), ("display", "FLEX"), ("flex-wrap", "wrap"),
          ("justify-content", "flex-start"), ("z-index", "0")] ∧
      Prunes true rowBag (rowContext.prune rowBag) ∧
      rowContext.prune (rowContext.prune rowBag) = rowContext.prune rowBag :=
  have own : rowContext.Describes rowBag := ⟨by decide, by decide⟩
  ⟨own, by decide +kernel, pruning_keeps_effects own⟩

end BoxContext

end Artboard
