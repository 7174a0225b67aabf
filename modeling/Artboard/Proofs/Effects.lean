import Artboard.Proofs.Css.ValueList
import Artboard.Proofs.Scene.Properties

/-!
# Where shadows are drawn

A box draws a shadow in one of three lists of values, depending on its kind and
on whether the shadow is its own. Each list is declared by a property of its
own, and its value is split into the tokens that it was joined from.
-/
namespace Artboard

open Css.Declarations

variable {α : Type} [Scalar α]

/-- The lists of values that draw shadows. -/
inductive ShadowList where
  | box
  | text
  | filter
deriving DecidableEq, Repr

namespace ShadowList

def all : List ShadowList := [box, text, filter]

def property : ShadowList → String
  | box => "box-shadow"
  | text => "text-shadow"
  | filter => "filter"

def separator : ShadowList → Char
  | box => ','
  | text => ','
  | filter => ' '

def token (list : ShadowList) (shadow : Shadow α) : String :=
  match list with
  | box => shadow.boxToken
  | text => shadow.textToken
  | filter => shadow.dropToken

/-- The list in which a box of the kind draws a shadow. Text takes no inner shadows; its own drop
shadows are text shadows, and those it inherits are filters, as are the drop shadows of vector
content. -/
def of? (kind : NodeKind) (isInherited : Bool) (shadow : Shadow α) : Option ShadowList :=
  match kind, shadow.inner with
  | .text, true => none
  | .text, false => some (if isInherited then filter else text)
  | .svg, false => some filter
  | _, _ => some box

/-- The tokens of those shadows that a box of the kind draws in the list. -/
def drawn (list : ShadowList) (kind : NodeKind) (isInherited : Bool) (shadows : List (Shadow α)) :
    List String :=
  (shadows.filter fun shadow => of? kind isInherited shadow = some list).map list.token

/-- The tokens of a list. -/
def values (list : ShadowList) (tokens : EffectTokens) : List String :=
  match list with
  | box => tokens.boxShadows
  | text => tokens.textShadows
  | filter => tokens.filters

/-- What stands between the own and the inherited shadows: an inset stroke among the box shadows
and the blur of the layer among the filters. -/
def between (list : ShadowList) (strokeShadows : List String) (layerBlur : α) : List String :=
  match list with
  | box => strokeShadows
  | text => []
  | filter => EffectTokens.blurToken layerBlur

omit [Scalar α] in
/-- Every shadow is drawn, except the inner shadows on text. -/
theorem isSome_of? (kind : NodeKind) (isInherited : Bool) (shadow : Shadow α) :
    (of? kind isInherited shadow).isSome = !(kind == .text && shadow.inner) := by
  cases kind <;> cases inner : shadow.inner <;> simp [of?, inner]

omit [Scalar α] in
/-- Each shadow that is drawn stands in one list only. -/
theorem perm_drawn (kind : NodeKind) (isInherited : Bool) (shadows : List (Shadow α)) :
    (all.flatMap fun list =>
      shadows.filter fun shadow => of? kind isInherited shadow = some list).Perm
        (shadows.filter fun shadow => !(kind == .text && shadow.inner)) := by
  simp only [← isSome_of? kind isInherited, all, List.flatMap_cons, List.flatMap_nil,
    List.append_nil]
  induction shadows with
  | nil => exact .refl []
  | cons shadow rest ih =>
    cases found : of? kind isInherited shadow with
    | none => simpa [found] using ih
    | some list =>
      -- The shadow stands in front of its own list, from where it moves to the front of all.
      have moved (first second third : List (Shadow α)) :
          (first ++ (second ++ shadow :: third)).Perm (shadow :: (first ++ (second ++ third))) := by
        rw [← List.append_assoc, ← List.append_assoc]
        exact List.perm_middle
      have front : (shadow :: rest).filter (fun shadow => (of? kind isInherited shadow).isSome) =
          shadow :: rest.filter fun shadow => (of? kind isInherited shadow).isSome := by
        simp [found]
      rw [front]
      refine .trans ?_ (ih.cons shadow)
      simp only [List.filter_cons, found, Option.some.injEq]
      cases list with
      | box => exact .refl _
      | text => exact List.perm_middle
      | filter => exact moved _ _ _

/-! ### Tokens of a box -/

theorem values_append (list : ShadowList) (first second : EffectTokens) :
    list.values (first.append second) = list.values first ++ list.values second := by
  cases list <;> rfl

theorem values_join (list : ShadowList) (tokens : List EffectTokens) :
    list.values (.join tokens) = tokens.flatMap list.values := by
  have grown (start : EffectTokens) :
      list.values (tokens.foldl .append start) =
        list.values start ++ tokens.flatMap list.values := by
    induction tokens generalizing start with
    | nil => simp
    | cons first rest ih => simp [ih, values_append]
  refine (grown .none).trans ?_
  cases list <;> rfl

omit [Scalar α] in
private theorem target_ofNode (node : NodeProps α) :
    EffectTarget.ofNode node = if NodeKind.ofNode node = .svg then .content else .box := by
  unfold EffectTarget.ofNode NodeKind.ofNode
  cases node.isVector with
  | true => simp
  | false =>
    simp only [Bool.false_eq_true, if_false]
    repeat' split
    all_goals first | rfl | contradiction

private theorem values_ofOwnShadow (list : ShadowList) (node : NodeProps α) (shadow : Shadow α) :
    list.values (.ofOwnShadow (.ofNode node) (NodeKind.ofNode node == .text) shadow) =
      list.drawn (NodeKind.ofNode node) false [shadow] := by
  rw [target_ofNode]
  cases NodeKind.ofNode node <;> cases inner : shadow.inner <;> cases list <;>
    simp [EffectTokens.ofOwnShadow, drawn, of?, inner, values, token, EffectTokens.box,
      EffectTokens.text, EffectTokens.filter, EffectTokens.none]

private theorem values_ofInheritedShadow (list : ShadowList) (node : NodeProps α)
    (shadow : Shadow α) :
    list.values (.ofInheritedShadow (.ofNode node) (NodeKind.ofNode node == .text) shadow) =
      list.drawn (NodeKind.ofNode node) true [shadow] := by
  rw [target_ofNode]
  cases NodeKind.ofNode node <;> cases inner : shadow.inner <;> cases list <;>
    simp [EffectTokens.ofInheritedShadow, drawn, of?, inner, values, token, EffectTokens.box,
      EffectTokens.filter, EffectTokens.none]

private theorem flatMap_drawn (list : ShadowList) (kind : NodeKind) (isInherited : Bool)
    (shadows : List (Shadow α)) :
    shadows.flatMap (fun shadow => list.drawn kind isInherited [shadow]) =
      list.drawn kind isInherited shadows := by
  induction shadows with
  | nil => rfl
  | cons shadow rest ih =>
    rw [List.flatMap_cons, ih]
    simp only [drawn, List.filter_cons, List.filter_nil]
    split <;> rfl

/-- In each list stand the own shadows of a box, then a stroke or a blur, then the inherited
shadows. -/
theorem values_boxTokens (list : ShadowList) (node : NodeProps α) (paints : Bool)
    (effects : EffectSet α) (strokeShadows : List String) (inherited : List (Shadow α)) :
    list.values
        (boxTokens node (NodeKind.ofNode node) paints effects strokeShadows inherited) =
      list.drawn (NodeKind.ofNode node) false effects.shadows ++
        list.between strokeShadows effects.layerBlur ++
        if paints then list.drawn (NodeKind.ofNode node) true inherited else [] := by
  have own : list.values ((EffectTokens.ofEffects (.ofNode node) (NodeKind.ofNode node == .text)
      effects).append { EffectTokens.none with boxShadows := strokeShadows }) =
      list.drawn (NodeKind.ofNode node) false effects.shadows ++
        list.between strokeShadows effects.layerBlur := by
    rw [values_append, EffectTokens.ofEffects, values_append, values_join, List.flatMap_map,
      List.append_assoc]
    simp only [values_ofOwnShadow, flatMap_drawn]
    cases list <;> simp [values, between, EffectTokens.none]
  cases paints with
  | false => simpa [boxTokens] using own
  | true =>
    simp only [boxTokens, EffectTokens.inherit, if_true, values_append, values_join,
      List.flatMap_map, values_ofInheritedShadow, flatMap_drawn]
    rw [← values_append, own]

/-! ### Declarations of a box -/

/-- The declaration of a list of tokens; none is left out. -/
def listed (list : ShadowList) (tokens : List String) : Option String :=
  if tokens.isEmpty then none
  else some (String.intercalate (String.singleton list.separator) tokens)

theorem property_mem (list : ShadowList) : list.property ∈ effectProperties := by
  cases list <;> decide

private theorem lookup_listDeclaration (name separator : String) (tokens : List String)
    (property : String) :
    (EffectTokens.listDeclaration name separator tokens).lookup property =
      if property = name ∧ tokens.isEmpty = false then some (separator.intercalate tokens)
      else none := by
  rw [EffectTokens.listDeclaration]
  cases tokens with
  | nil => simp
  | cons token rest =>
    by_cases same : property = name
    · simp [same]
    · have differs : (property == name) = false := by simpa using same
      simp [List.lookup_cons, same, differs]

/-- The tokens of a list are what its property declares. -/
theorem get?_css (list : ShadowList) (tokens : EffectTokens) :
    tokens.css.get? list.property = list.listed (list.values tokens) := by
  have shorter (name separator : String) (tokens : List String) :
      (Css.names (EffectTokens.listDeclaration name separator tokens)).Sublist [name] := by
    rw [EffectTokens.listDeclaration]
    split <;> simp [Css.names]
  -- The names are part of a list without repetitions, so each is looked up on its own.
  have distinct : (Css.names (EffectTokens.listDeclaration "box-shadow" "," tokens.boxShadows ++
      EffectTokens.listDeclaration "text-shadow" "," tokens.textShadows ++
      EffectTokens.listDeclaration "filter" " " tokens.filters ++
      EffectTokens.listDeclaration "backdrop-filter" " " tokens.backdropFilters ++
      EffectTokens.listDeclaration "-webkit-backdrop-filter" " "
        tokens.backdropFilters)).Nodup := by
    simp only [Css.names, List.map_append]
    refine List.Nodup.sublist (((((shorter _ _ _).append (shorter _ _ _)).append
      (shorter _ _ _)).append (shorter _ _ _)).append (shorter _ _ _)) ?_
    decide
  rw [EffectTokens.css, get?_ofList distinct]
  simp only [List.lookup_append, lookup_listDeclaration]
  cases list <;>
    simp [property, listed, values, separator]

end ShadowList

/-! ### Tokens are whole -/

open Css

/-- A colour is written as a function. -/
theorem Paint.isCall_colorCss {color : Color α} {opacity : α} {text : String}
    (written : colorCss color opacity = .ok text) : IsCall text.toList := by
  -- The arguments are words with commas between them.
  have word {text : List Char} (word : IsWord text) :
      ∀ c ∈ text, isWordChar c = true ∨ c = ',' := fun c member => .inl (word c member)
  have comma : ∀ c ∈ [','], isWordChar c = true ∨ c = ',' := by simp
  have channels (r g b : Int) : ∀ c ∈ (toString r).toList ++ [','] ++ (toString g).toList ++ [','] ++
      (toString b).toList, isWordChar c = true ∨ c = ',' := by
    simp only [List.forall_mem_append]
    exact ⟨⟨⟨⟨word (isWord_int r), comma⟩, word (isWord_int g)⟩, comma⟩, word (isWord_int b)⟩
  cases colorCss_cases written with
  | @full r g b => exact ⟨"rgb".toList, _, by decide, by decide, channels r g b, by simp⟩
  | @sheer r g b =>
    have alpha := word (isWord_number (color.a * opacity) (show 2 ≠ 0 by decide))
    exact ⟨"rgba".toList, _, by decide, by decide,
      List.forall_mem_append.mpr ⟨List.forall_mem_append.mpr ⟨channels r g b, comma⟩, alpha⟩,
      by simp⟩

theorem Paint.isCall_black : IsCall "rgb(0,0,0)".toList := by
  have black : ∀ c ∈ "0,0,0".toList, isWordChar c = true ∨ c = ',' := by
    simp
    decide
  exact ⟨"rgb".toList, "0,0,0".toList, by decide, by decide, black, by simp⟩

/-- The colour of a cast shadow is written as a function. -/
theorem isCall_shadowOf {effect : Effect α} {shadow : Shadow α}
    (cast : shadowOf effect = .ok shadow) : IsCall shadow.color.toList := by
  unfold shadowOf at cast
  split at cast
  · obtain ⟨color, written, cast⟩ := Except.bind_eq_ok_iff.mp cast
    cases cast
    exact Paint.isCall_colorCss written
  · cases cast
    exact Paint.isCall_black

namespace Shadow

variable {shadow : Shadow α}

/-- The offset and the blur of a shadow, with the blank after them. -/
def offsets (shadow : Shadow α) : List Char :=
  (px shadow.x).toList ++
    ([' '] ++ (px shadow.y).toList ++ [' '] ++ (px shadow.blur).toList ++ [' '])

private theorem phrase_px (value : α) : IsPhrase (px value).toList := (isWord_px value).phrase

private theorem phrase_offsets (shadow : Shadow α) : IsPhrase shadow.offsets :=
  (phrase_px _).append ((((isPhrase_blank.append (phrase_px _)).append isPhrase_blank).append
    (phrase_px _)).append isPhrase_blank)

private theorem closes_append {back : List Char} (front : List Char)
    (closes : ∃ inner, back = inner ++ [')']) : ∃ inner, front ++ back = inner ++ [')'] := by
  obtain ⟨inner, rfl⟩ := closes
  exact ⟨front ++ inner, by simp⟩

/-- A phrase before a colour is one value of a list with commas. -/
theorem isClosedValue_phrase {phrase color : List Char} (words : IsPhrase phrase)
    (starts : Starts phrase) (call : IsCall color) : IsClosedValue ',' (phrase ++ color) :=
  (words.held_comma.append (call.held rfl)).isClosedValue (starts.append color)
    (closes_append phrase call.closes)

theorem isClosedValue_textToken (call : IsCall shadow.color.toList) :
    IsClosedValue ',' shadow.textToken.toList := by
  have text : shadow.textToken.toList = shadow.offsets ++ shadow.color.toList := by
    simp [textToken, offsets, toString]
  rw [text]
  exact isClosedValue_phrase (phrase_offsets shadow) (starts_px _ _) call

theorem isClosedValue_boxToken (call : IsCall shadow.color.toList) :
    IsClosedValue ',' shadow.boxToken.toList := by
  have lengths : IsPhrase (shadow.offsets ++ ((px shadow.spread).toList ++ [' '])) :=
    (phrase_offsets shadow).append ((phrase_px _).append isPhrase_blank)
  cases inner : shadow.inner with
  | false =>
    have text : shadow.boxToken.toList =
        shadow.offsets ++ ((px shadow.spread).toList ++ [' ']) ++ shadow.color.toList := by
      simp [boxToken, offsets, inner, toString]
    rw [text]
    exact isClosedValue_phrase lengths ((starts_px _ _).append _) call
  | true =>
    have inset : IsWord "inset".toList := by decide
    have text : shadow.boxToken.toList = "inset".toList ++ ([' '] ++
        (shadow.offsets ++ ((px shadow.spread).toList ++ [' ']))) ++ shadow.color.toList := by
      simp [boxToken, offsets, inner, toString]
    rw [text]
    exact isClosedValue_phrase (inset.phrase.append (isPhrase_blank.append lengths))
      ((inset.starts (by decide)).append _) call

theorem isClosedValue_dropToken (call : IsCall shadow.color.toList) :
    IsClosedValue ' ' shadow.dropToken.toList := by
  have name : IsWord "drop-shadow".toList := by decide
  have text : shadow.dropToken.toList =
      "drop-shadow".toList ++ ('(' :: (shadow.offsets ++ shadow.color.toList) ++ [')']) := by
    change ("drop-shadow(" ++ px shadow.x ++ " " ++ px shadow.y ++ " " ++ px shadow.blur ++ " " ++
      shadow.color ++ ")").toList = _
    simp [offsets]
  -- The blanks of the offsets are between the parentheses, where they do not separate.
  have inside : Held ' ' 1 (shadow.offsets ++ shadow.color.toList) :=
    (phrase_offsets shadow).held_inside.append (call.held rfl).mono
  rw [text]
  exact ((name.held rfl).append (inside.parens rfl)).isClosedValue
    ((name.starts (by decide)).append _)
    (closes_append _ ⟨'(' :: (shadow.offsets ++ shadow.color.toList), rfl⟩)

end Shadow

theorem isCall_blurToken {radius : α} {token : String}
    (member : token ∈ EffectTokens.blurToken radius) : IsCall token.toList := by
  rw [EffectTokens.blurToken] at member
  split at member
  · obtain rfl := List.mem_singleton.mp member
    exact ⟨"blur".toList, (px (radius / 2.0)).toList, by decide, by decide,
      fun c member => .inl (isWord_px _ c member), by simp [toString]⟩
  · contradiction

/-- The token is a box shadow without offset and blur that lies inside the box. -/
def IsInsetStroke (α : Type) [Scalar α] (token : String) : Prop :=
  ∃ (width : α) (color : String), IsCall color.toList ∧ token = s!"inset 0 0 0 {px width} {color}"

theorem IsInsetStroke.isClosedValue {token : String} (stroke : IsInsetStroke α token) :
    IsClosedValue ',' token.toList := by
  obtain ⟨width, color, call, rfl⟩ := stroke
  have inset : IsWord "inset".toList := by decide
  have zeros : IsPhrase " 0 0 0 ".toList := by simp [IsPhrase]; decide
  have text : (s!"inset 0 0 0 {px width} {color}").toList =
      "inset".toList ++ (" 0 0 0 ".toList ++ ((px width).toList ++ [' '])) ++ color.toList := by
    simp [toString]
  rw [text]
  exact Shadow.isClosedValue_phrase (inset.phrase.append (zeros.append
    ((isWord_px width).phrase.append isPhrase_blank))) ((inset.starts (by decide)).append _) call

namespace ShadowList

/-- The bag declares the tokens of a list, and what it declares is split into them again. Without
tokens there is no declaration. -/
structure Declared (list : ShadowList) (bag : Css.Declarations) (tokens : List String) : Prop where
  value : bag.get? list.property = list.listed tokens
  split : ∀ text ∈ bag.get? list.property,
    splitTopLevel list.separator text.toList = tokens.map String.toList

theorem declared_of_closed {list : ShadowList} {bag : Css.Declarations} {tokens : List String}
    (value : bag.get? list.property = list.listed tokens)
    (closed : ∀ token ∈ tokens, IsClosedValue list.separator token.toList) :
    list.Declared bag tokens := by
  refine ⟨value, fun text found => ?_⟩
  rw [value, listed] at found
  split at found
  · cases found
  · cases found
    rw [String.toList_intercalate, String.toList_singleton]
    refine splitTopLevel_intercalate (by cases list <;> rfl) ?_
    simpa using closed

/-- The tokens of shadows are values of their list. -/
theorem isClosedValue_of_mem_drawn {list : ShadowList} {kind : NodeKind} {isInherited : Bool}
    {shadows : List (Shadow α)} (colored : ∀ shadow ∈ shadows, IsCall shadow.color.toList)
    {token : String} (member : token ∈ list.drawn kind isInherited shadows) :
    IsClosedValue list.separator token.toList := by
  obtain ⟨shadow, here, rfl⟩ := List.mem_map.mp member
  have call := colored shadow (List.mem_of_mem_filter here)
  cases list with
  | box => exact Shadow.isClosedValue_boxToken call
  | text => exact Shadow.isClosedValue_textToken call
  | filter => exact Shadow.isClosedValue_dropToken call

theorem isClosedValue_of_mem_between {list : ShadowList} {strokeShadows : List String}
    {layerBlur : α} (strokes : ∀ token ∈ strokeShadows, IsInsetStroke α token) {token : String}
    (member : token ∈ list.between strokeShadows layerBlur) :
    IsClosedValue list.separator token.toList := by
  cases list with
  | box => exact (strokes token member).isClosedValue
  | text => cases member
  | filter => exact (isCall_blurToken member).isClosedValue rfl

end ShadowList

/-! ### All tokens -/

namespace EffectTokens

variable {P : String → Prop}

/-- The tokens of all lists have the property. -/
def All (P : String → Prop) (tokens : EffectTokens) : Prop :=
  ∀ token ∈ tokens.boxShadows ++ tokens.textShadows ++ tokens.filters ++ tokens.backdropFilters,
    P token

private theorem all_none : none.All P := by simp [All, none]

private theorem All.append {first second : EffectTokens} (one : first.All P)
    (other : second.All P) : (first.append second).All P := by
  simp only [All, EffectTokens.append, List.mem_append] at one other ⊢
  grind

private theorem all_join {tokens : List EffectTokens} (each : ∀ entry ∈ tokens, entry.All P) :
    (join tokens).All P := by
  have folded {start : EffectTokens} (all : start.All P) : (tokens.foldl append start).All P := by
    induction tokens generalizing start with
    | nil => exact all
    | cons first rest ih =>
      obtain ⟨here, later⟩ := List.forall_mem_cons.mp each
      exact ih later (all.append here)
  exact folded all_none

/-- A shadow makes one of three tokens or none, whether it is inherited or not. -/
private theorem all_ofShadow (target : EffectTarget) (isText : Bool) {shadow : Shadow α}
    (drawn : P shadow.boxToken ∧ P shadow.textToken ∧ P shadow.dropToken) :
    (ofOwnShadow target isText shadow).All P ∧ (ofInheritedShadow target isText shadow).All P := by
  have boxed : (box shadow.boxToken).All P := by simpa [All, box, none] using drawn.1
  have written : (text shadow.textToken).All P := by simpa [All, text, none] using drawn.2.1
  have dropped : (filter shadow.dropToken).All P := by simpa [All, filter, none] using drawn.2.2
  constructor
  · unfold ofOwnShadow
    split
    · split
      · exact boxed
      · exact dropped
    · split
      · split
        · exact all_none
        · exact written
      · exact boxed
  · unfold ofInheritedShadow
    split
    · split
      · exact all_none
      · exact boxed
    · split
      · exact dropped
      · exact boxed

/-- The tokens of a box are those of its shadows, of its stroke and of its blurs. -/
theorem all_boxTokens (node : NodeProps α) (kind : NodeKind) (paints : Bool)
    {effects : EffectSet α} {strokeShadows : List String} {inherited : List (Shadow α)}
    (own : ∀ shadow ∈ effects.shadows,
      P shadow.boxToken ∧ P shadow.textToken ∧ P shadow.dropToken)
    (handed : ∀ shadow ∈ inherited, P shadow.boxToken ∧ P shadow.textToken ∧ P shadow.dropToken)
    (strokes : ∀ token ∈ strokeShadows, P token)
    (blurs : ∀ radius : α, ∀ token ∈ blurToken radius, P token) :
    (boxTokens node kind paints effects strokeShadows inherited).All P := by
  have started : (((ofEffects (.ofNode node) (kind == .text) effects).append
      { none with boxShadows := strokeShadows }) : EffectTokens).All P := by
    refine .append (.append (all_join ?_) ?_) ?_
    · exact List.forall_mem_map.mpr fun shadow member => (all_ofShadow _ _ (own shadow member)).1
    · simp only [All, none, List.nil_append, List.forall_mem_append]
      exact ⟨blurs _, blurs _⟩
    · simpa [All, none] using strokes
  rw [boxTokens]
  dsimp only
  split
  · exact started.append (all_join (List.forall_mem_map.mpr fun shadow member =>
      (all_ofShadow _ _ (handed shadow member)).2))
  · exact started

end EffectTokens

/-! ### Strokes among the shadows -/

/-- A solid stroke has the colour of a paint. -/
theorem isCall_solid {node : NodeProps α} {spec : StrokeSpec α} {color : String}
    (found : StrokeSpec.ofNode node = .ok (some spec)) (solid : spec.paint = .solid color) :
    IsCall color.toList := by
  cases StrokeSpec.found_ofNode found with
  | solid _ _ written =>
    cases solid
    exact Paint.isCall_colorCss written
  | ring => cases solid

/-- A box has one stroke at most among its shadows. -/
theorem boxShadows_cases {node : NodeProps α} {shadows : List (Shadow α)} {stroke : StrokeCss}
    (drawn : StrokeCss.ofNode node shadows = .ok stroke) :
    stroke.boxShadows = [] ∨ ∃ token, stroke.boxShadows = [token] ∧ IsInsetStroke α token := by
  rcases StrokeCss.ofNode_cases drawn with ⟨-, rfl⟩ | ⟨spec, found, drawn⟩
  · exact .inl rfl
  cases drawn with
  | weightless => exact .inl rfl
  | hidden => exact .inl rfl
  | vector => exact .inl rfl
  | glyphs _ _ solid =>
    rw [StrokeSpec.textStroke, solid]
    exact .inl rfl
  | box _ _ _ boxed =>
    cases boxed with
    | ring => exact .inl rfl
    | dashes => exact .inl rfl
    | border => exact .inl rfl
    | native solid =>
      rw [StrokeSpec.nativeStroke]
      cases spec.align with
      | inside => exact .inr ⟨_, rfl, _, _, isCall_solid found solid, rfl⟩
      | center => exact .inl rfl
      | outside => exact .inl rfl

/-- Without a visible stroke paint there is no stroke. -/
theorem boxShadows_bare {node : NodeProps α} {shadows : List (Shadow α)} {stroke : StrokeCss}
    (bare : node.style.strokes.any (·.visible) = false)
    (drawn : StrokeCss.ofNode node shadows = .ok stroke) : stroke.boxShadows = [] := by
  have none : node.style.strokePaint? = .none := by
    simpa [Style.strokePaint?, List.find?_eq_none] using bare
  rcases StrokeCss.ofNode_cases drawn with ⟨-, rfl⟩ | ⟨spec, found, -⟩
  · rfl
  · cases StrokeSpec.found_ofNode found with
    | solid first => simp [none] at first
    | ring first => simp [none] at first

end Artboard
