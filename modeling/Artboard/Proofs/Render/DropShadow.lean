import Artboard.Proofs.Classes.Utility
import Artboard.Proofs.Effects
import Artboard.Render.Shadow

/-!
# Box shadows as filters

The filter that a box shadow is turned into is the one written for the shadow
itself. Moving shadows takes the list of a box apart: its inset values stay, and
the filters of the others are added in order.
-/
namespace Artboard.Render

open Css Css.Declarations

variable {α : Type} [Scalar α]

/-! ### Lengths -/

private theorem unsigned_numeral (numeral : Numeral) (rest : List Char) :
    numeral.text ++ ['p', 'x'] = '-' :: rest → False := by
  obtain ⟨c, after, same, digit⟩ := Classes.head_numeral numeral ['p', 'x']
  rw [same]
  rintro ⟨⟩
  exact absurd digit (by decide)

private theorem isLength_numeral (numeral : Numeral) :
    isLength (numeral.text ++ ['p', 'x']) = true := by
  have stop : ∀ c ∈ (['p', 'x'] : List Char).head?, Text.isDecimalDigit c = false := by
    rintro c ⟨⟩
    decide
  rw [isLength.eq_2 _ (unsigned_numeral numeral)]
  rw [Numeral.text]
  cases fraction : numeral.fraction with
  | nil =>
    have whole := Classes.takeWhile_digits numeral.whole_digits stop
    simp [whole, numeral.inhabited]
  | cons first more =>
    have digits : ∀ c ∈ first :: more, c.isDigit = true := fraction ▸ numeral.fraction_digits
    have point : ∀ c ∈ ('.' :: (first :: more) ++ ['p', 'x']).head?,
        Text.isDecimalDigit c = false := by
      rintro c ⟨⟩
      decide
    have whole := Classes.takeWhile_digits numeral.whole_digits point
    have fractional := Classes.takeWhile_digits digits stop
    simp only [List.isEmpty_cons, Bool.false_eq_true, if_false, List.append_assoc,
      List.cons_append] at whole fractional ⊢
    simp [whole, fractional]

theorem isLength_px (value : α) : isLength (px value).toList = true := by
  obtain ⟨numeral, positive | negative⟩ := Classes.px_cases value
  · rw [positive]
    exact isLength_numeral numeral
  · rw [negative, isLength, ← isLength.eq_2 _ (unsigned_numeral numeral)]
    exact isLength_numeral numeral

/-- A length may have a sign. After its digits it may have a fraction, and then nothing but its
unit. -/
private theorem isLength_cases (part : List Char) :
    ∃ unsigned, (part = '-' :: unsigned ∨ part = unsigned) ∧ (isLength part = true →
      ∃ rest, (rest.isEmpty || rest == "px".toList) = true ∧
        (unsigned.drop (unsigned.takeWhile Text.isDecimalDigit).length = rest ∨
          ∃ fraction, unsigned.drop (unsigned.takeWhile Text.isDecimalDigit).length =
            '.' :: fraction ∧ fraction.drop (fraction.takeWhile Text.isDecimalDigit).length =
              rest)) := by
  apply Exists.intro
  refine ⟨?sign, fun length => ?ends⟩
  case ends =>
    unfold isLength at length
    dsimp only at length
    split at length
    next fraction point =>
      exact ⟨_, (Bool.and_eq_true_iff.mp length).2, .inr ⟨fraction, point, rfl⟩⟩
    next => exact ⟨_, (Bool.and_eq_true_iff.mp length).2, .inl rfl⟩
  case sign => split <;> simp

/-- A length has no parenthesis. -/
private theorem paren_notMem_of_isLength {part : List Char} (length : isLength part = true) :
    '(' ∉ part := by
  have digits {text : List Char} : '(' ∉ text.takeWhile Text.isDecimalDigit := fun member =>
    absurd (List.all_eq_true.mp List.all_takeWhile _ member) (by decide)
  have split {text : List Char}
      (after : '(' ∉ text.drop (text.takeWhile Text.isDecimalDigit).length) : '(' ∉ text := by
    intro member
    rw [← List.takeWhile_append_dropWhile (p := Text.isDecimalDigit) (l := text)] at member
    refine (List.mem_append.mp member).elim digits fun later => after ?_
    have cut : (text.takeWhile Text.isDecimalDigit ++ text.dropWhile Text.isDecimalDigit).drop
        (text.takeWhile Text.isDecimalDigit).length = text.dropWhile Text.isDecimalDigit :=
      List.drop_left
    rw [List.takeWhile_append_dropWhile] at cut
    rwa [cut]
  obtain ⟨unsigned, sign, cases⟩ := isLength_cases part
  obtain ⟨rest, ends, cut⟩ := cases length
  have ended : '(' ∉ rest := by
    rcases Bool.or_eq_true_iff.mp ends with nothing | unit
    · simp [List.isEmpty_iff.mp nothing]
    · rw [beq_iff_eq.mp unit]
      decide
  have body : '(' ∉ unsigned := by
    rcases cut with rfl | ⟨fraction, point, rfl⟩
    · exact split ended
    · refine split ?_
      rw [point]
      simpa using split ended
  rcases sign with rfl | rfl
  · simpa using body
  · exact body

private theorem isLength_call {text : List Char} (call : IsCall text) : isLength text = false := by
  obtain ⟨name, arguments, -, -, -, rfl⟩ := call
  rw [Bool.eq_false_iff]
  exact fun length => paren_notMem_of_isLength length (by simp)

/-! ### Tokens -/

section Tokens

variable {shadow : Shadow α}

/-- The parts of a box shadow that is not inset. -/
private def tokenParts (shadow : Shadow α) : List (List Char) :=
  [(px shadow.x).toList, (px shadow.y).toList, (px shadow.blur).toList, (px shadow.spread).toList,
   shadow.color.toList]

private theorem splitTopLevel_boxToken (call : IsCall shadow.color.toList)
    (outer : shadow.inner = false) :
    splitTopLevel ' ' shadow.boxToken.toList = tokenParts shadow := by
  have text : shadow.boxToken.toList = [' '].intercalate (tokenParts shadow) := by
    simp [Shadow.boxToken, tokenParts, outer, toString, List.intercalate, List.intersperse]
  have length (value : α) : IsClosedValue ' ' (px value).toList :=
    (isWord_px value).isClosedValue (by simp [px]) rfl
  rw [text]
  refine splitTopLevel_intercalate rfl ?_
  simpa [tokenParts, length] using call.isClosedValue rfl

/-- A box shadow that is not inset is turned into the filter of its shadow. -/
theorem dropShadow_boxToken (call : IsCall shadow.color.toList) (outer : shadow.inner = false) :
    dropShadow shadow.boxToken = shadow.dropToken := by
  have lengths : (tokenParts shadow).takeWhile isLength = (tokenParts shadow).take 4 := by
    simp [tokenParts, isLength_px, isLength_call call]
  -- Of the four lengths the spread is dropped.
  have kept : ((tokenParts shadow).take 4).take 3 ++
      (tokenParts shadow).drop ((tokenParts shadow).take 4).length =
        [(px shadow.x).toList, (px shadow.y).toList, (px shadow.blur).toList,
         shadow.color.toList] := rfl
  have text : shadow.dropToken = "drop-shadow(" ++
      (px shadow.x ++ " " ++ px shadow.y ++ " " ++ px shadow.blur ++ " " ++ shadow.color) ++
        ")" := by
    change "drop-shadow(" ++ px shadow.x ++ " " ++ px shadow.y ++ " " ++ px shadow.blur ++ " " ++
      shadow.color ++ ")" = _
    simp [String.append_assoc]
  rw [dropShadow, splitTopLevel_boxToken call outer, lengths, kept, text]
  refine congrArg (fun inner => "drop-shadow(" ++ inner ++ ")") (String.toList_inj.mp ?_)
  simp [List.intercalate, List.intersperse]

/-- A box shadow is inset where its shadow is inner. -/
theorem isInset_boxToken (shadow : Shadow α) : isInset shadow.boxToken = shadow.inner := by
  cases inner : shadow.inner with
  | true => simp [isInset, Shadow.boxToken, inner, toString]
  | false =>
    -- The first length starts with a digit or a sign.
    have text : shadow.boxToken.toList = (px shadow.x).toList ++
        (' ' :: ((px shadow.y).toList ++ (' ' :: ((px shadow.blur).toList ++
          (' ' :: ((px shadow.spread).toList ++ ' ' :: shadow.color.toList)))))) := by
      simp [Shadow.boxToken, inner, toString]
    have first : (px shadow.x).toList.head? ≠ some 'i' := by
      obtain ⟨numeral, positive | negative⟩ := Classes.px_cases shadow.x
      · obtain ⟨c, after, same, digit⟩ := Classes.head_numeral numeral ['p', 'x']
        rw [positive, same]
        rintro ⟨⟩
        exact absurd digit (by decide)
      · simp [negative]
    rw [isInset, text]
    cases start : (px shadow.x).toList with
    | nil => simp [px] at start
    | cons c after =>
      rw [start] at first
      have differs : ('i' == c) = false := beq_eq_false_iff_ne.mpr fun same => first (same ▸ rfl)
      simp [List.isPrefixOf, differs]

theorem isInset_of_isInsetStroke {token : String} (stroke : IsInsetStroke α token) :
    isInset token = true := by
  obtain ⟨width, color, -, rfl⟩ := stroke
  simp [isInset, toString]

end Tokens

/-! ### Moving -/

/-- Each value of a list is added after those that are there. -/
private theorem get?_foldl_appendList (name separator : String) (values : List String)
    {bag : Css.Declarations} {current : String} (inhabited : current.isEmpty = false)
    (declared : bag.get? name = some current) :
    (values.foldl (fun bag value => bag.appendList name value separator) bag).get? name =
      some (separator.intercalate (current :: values)) := by
  induction values generalizing bag current with
  | nil => exact declared
  | cons value rest ih =>
    have longer : (current ++ separator ++ value).isEmpty = false := by simp_all
    have added : (bag.appendList name value separator).get? name =
        some (current ++ separator ++ value) := by
      simp [appendList, declared, inhabited, get?_set]
    exact ih longer added

private theorem erase_set (bag : Css.Declarations) (name value : String) :
    (bag.set name value).erase name = bag.erase name := by
  rw [erase, filter_set]
  simp [erase]

private theorem erase_appendList (bag : Css.Declarations) (name value separator : String) :
    (bag.appendList name value separator).erase name = bag.erase name := by
  rw [appendList]
  split
  · split <;> exact erase_set _ _ _
  · exact erase_set _ _ _

private theorem erase_foldl_appendList (name separator : String) (values : List String)
    (bag : Css.Declarations) :
    (values.foldl (fun bag value => bag.appendList name value separator) bag).erase name =
      bag.erase name := by
  induction values generalizing bag with
  | nil => rfl
  | cons value rest ih => rw [List.foldl_cons, ih, erase_appendList]

private theorem get?_erase (bag : Css.Declarations) (name : String) :
    (bag.erase name).get? name = none := by
  refine Option.eq_none_iff_forall_ne_some.mpr fun value found => ?_
  simpa [erase, Declarations.filter] using get?_eq_some_iff.mp found

private theorem erase_erase (bag : Css.Declarations) (name : String) :
    (bag.erase name).erase name = bag.erase name := by
  refine eq_of_toList ?_
  simp [erase, Declarations.filter]

private theorem dropShadow_inhabited (token : String) : (dropShadow token).isEmpty = false := by
  simp [dropShadow]

/-- What moving the shadows makes of the elements of a box with these values. -/
structure Migrates (tokens : List String) (before after : Css.Declarations × Css.Declarations) :
    Prop where
  kept : after.1.get? "box-shadow" = ShadowList.box.listed (tokens.filter isInset)
  inner : after.1.erase "box-shadow" = before.1.erase "box-shadow"
  moved : after.2.get? "filter" =
    ShadowList.filter.listed ((tokens.filter fun token => !isInset token).map dropShadow)
  outer : after.2.erase "filter" = before.2.erase "filter"

private theorem tokens_of_declared {bag : Css.Declarations} {tokens : List String}
    (declared : ShadowList.box.Declared bag tokens) :
    (splitTopLevel ',' ((bag.get? "box-shadow").getD "").toList).map String.ofList = tokens := by
  have back : (tokens.map String.toList).map String.ofList = tokens := by simp
  have value : bag.get? "box-shadow" = ShadowList.box.listed tokens := declared.value
  cases found : bag.get? "box-shadow" with
  | some text =>
    have split : splitTopLevel ',' text.toList = tokens.map String.toList :=
      declared.split text found
    rw [Option.getD_some, split, back]
  | none =>
    -- Only an empty list is not declared.
    rw [found, ShadowList.listed] at value
    cases tokens with
    | nil => rfl
    | cons => cases value

theorem migrates_of_declared {inner outer : Css.Declarations} {tokens : List String}
    (declared : ShadowList.box.Declared inner tokens) (unfiltered : outer.get? "filter" = none) :
    Migrates tokens (inner, outer) (migrateShadows inner outer) := by
  rw [migrateShadows, tokens_of_declared declared]
  -- The first outer shadow starts the filter and the others are joined to it.
  cases moved : tokens.filter fun token => !isInset token with
  | nil =>
    have all : tokens.filter isInset = tokens := by
      simpa [List.filter_eq_nil_iff, List.filter_eq_self] using moved
    rw [if_pos List.isEmpty_nil]
    exact ⟨by rw [all]; exact declared.value, rfl, by rw [moved]; exact unfiltered, rfl⟩
  | cons first rest =>
    rw [if_neg (by simp)]
    have comma : String.singleton ',' = "," := rfl
    refine ⟨?_, ?_, ?_, ?_⟩
    · cases kept : tokens.filter isInset with
      | nil => exact get?_erase inner "box-shadow"
      | cons token more => simp [get?_set, ShadowList.listed, ShadowList.separator, comma]
    · dsimp only
      split
      · exact erase_erase inner _
      · exact erase_set inner "box-shadow" _
    · rw [moved, List.map_cons]
      have started : (outer.appendList "filter" (dropShadow first) " ").get? "filter" =
          some (dropShadow first) := by
        simp [appendList, unfiltered, get?_set]
      have added := get?_foldl_appendList "filter" " " (rest.map dropShadow)
        (dropShadow_inhabited first) started
      rw [List.foldl_map] at added
      exact added
    · have same := erase_foldl_appendList "filter" " " ((first :: rest).map dropShadow) outer
      rw [List.foldl_map] at same
      exact same

end Artboard.Render
