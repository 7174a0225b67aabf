import Artboard.Proofs.Classes.Utility
import Artboard.Proofs.Scene.SettledParts

/-!
# Settled declarations of a scene

Everything that the boxes and the texts of a scene declare closes what it opens,
where that holds of what the nodes of its composition name freely.
-/
namespace Artboard

open Css Css.Declarations Typography

variable {α : Type} [Scalar α]

/-! ### Boxes -/

private theorem settled_textBox (text : TextData α) : (textBox text).css.Settled := by
  have looked {table : List (String × String)} {word value : String}
      (each : ∀ entry ∈ table, Css.Settled entry.2) (found : table.lookup word = some value) :
      Css.Settled value := each _ (Classes.mem_of_lookup found)
  unfold textBox
  dsimp only
  refine settled_ofList ?_
  simp only [List.forall_mem_append]
  refine ⟨⟨⟨?_, ?_⟩, ?_⟩, ?_⟩
  · rw [whiteSpace]
    split
    · simp only [List.forall_mem_cons, List.not_mem_nil, false_imp_iff, forall_true_iff, and_true]
      exact ⟨.of (by decide) (by decide), .of (by decide) (by decide),
        .of (by decide) (by decide)⟩
    · split <;> simpa using Declaration.Settled.of (by decide) (by decide)
  · split
    next align found =>
      have settled : Css.Settled align := looked (by decide) found
      simpa using Declaration.Settled.of (by decide) settled
    · simp
  · rw [verticalDeclarations.eq_def]
    split
    · simp
    next align found =>
      have settled : Css.Settled align := looked (by decide) found
      split
      · rw [List.forall_mem_cons, List.forall_mem_singleton]
        exact ⟨.of (by decide) (by decide), .of (by decide) settled⟩
      · rw [List.forall_mem_cons, List.forall_mem_cons, List.forall_mem_singleton]
        exact ⟨.of (by decide) (by decide), .of (by decide) (by decide),
          .of (by decide) settled⟩
  · split
    · simp
    · simpa using Declaration.Settled.of (by decide) (settled_px _)

private theorem settled_radiusDeclarations (kind : NodeKind) (node : NodeProps α) :
    (radiusDeclarations kind node).Settled := by
  rw [radiusDeclarations]
  split
  · refine settled_ofList ?_
    rw [List.forall_mem_cons, List.forall_mem_singleton]
    exact ⟨.of (by decide) (by decide), .of (by decide) (by decide)⟩
  · exact Paint.settled_radiusCss _

private theorem settled_opacityDeclarations (opacity : α) :
    ∀ declaration ∈ opacityDeclarations opacity, declaration.Settled := by
  rw [opacityDeclarations]
  split
  · simp
  · simpa using Declaration.Settled.of (by decide) (settled_number _ (by decide))

omit [Scalar α] in
private theorem settled_blendDeclarations {template : String} {node : NodeProps α}
    (settled : node.Settled template) :
    ∀ declaration ∈ blendDeclarations node.style.blendMode, declaration.Settled := by
  rw [blendDeclarations]
  split
  · simp
  · simpa using Declaration.Settled.of (by decide) settled.blending

private theorem settled_style {template : String} {node : NodeProps α} {kind : NodeKind}
    {isHolder : Bool} {inherited : List (Shadow α)} {style : BoxStyle}
    (settled : node.Settled template)
    (handed : ∀ shadow ∈ inherited, IsCall shadow.color.toList)
    (styled : BoxStyle.ofNode template node kind isHolder inherited = .ok style) :
    style.css.Settled := by
  obtain ⟨background, declared, stroke, painted, known, drawn, rfl⟩ := BoxStyle.ofNode_cases styled
  have behind : background.Settled := Paint.settled_background settled (boxBackground_cases painted)
  have own : ∀ shadow ∈ (if paintsInherited kind isHolder then declared
      else declared.withoutShadows).shadows, Css.Settled shadow.color := by
    split
    · obtain ⟨shadows, visible, rfl⟩ := Style.effectSet_eq_ok_iff.mp known
      exact fun shadow member => (Style.isCall_visibleShadows visible shadow member).settled
    · simp [EffectSet.withoutShadows]
  obtain ⟨stroked, strokes⟩ := settled_strokeCss drawn
  have tokens : (boxTokens node kind (paintsInherited kind isHolder)
      (if paintsInherited kind isHolder then declared else declared.withoutShadows)
      stroke.boxShadows inherited).Settled :=
    EffectTokens.settled_boxTokens own (fun shadow member => (handed shadow member).settled) strokes
  have plain := ((((behind.update tokens.css).update stroked).update
    (settled_radiusDeclarations kind node)).setAll
      (settled_opacityDeclarations node.style.opacity)).setAll (settled_blendDeclarations settled)
  rw [BoxStyle.ofParts]
  dsimp only
  split
  next text found =>
    split at found
    · obtain ⟨data, -, rfl⟩ := Option.map_eq_some_iff.mp found
      exact plain.update (settled_textBox data)
    · contradiction
  · exact plain

private theorem Entry.Carries.settled {entry : Entry α} {css : Css.Declarations}
    (carries : entry.Carries css) : css.Settled := by
  intro declaration member
  obtain ⟨style, ⟨position, overlaps⟩ | ⟨total, index, ordered⟩⟩ := carries.cases declaration member
  · rw [StackStyle.overlapCss] at overlaps
    split at overlaps
    · obtain rfl := List.mem_singleton.mp overlaps
      refine .of ?_ (settled_px _)
      split <;> decide
    · cases overlaps
  · rw [StackStyle.orderCss] at ordered
    split at ordered
    · obtain rfl := List.mem_singleton.mp ordered
      exact .of (by decide) (settled_int (Int.ofNat _))
    · cases ordered

private theorem settled_maskBoxCss {template : String} {mask : NodeProps α}
    {itemCss css : Css.Declarations} (settled : mask.Settled template) (item : itemCss.Settled)
    (styled : maskBoxCss template mask itemCss = .ok css) : css.Settled := by
  obtain ⟨image, painted, styled⟩ := Except.bind_eq_ok_iff.mp styled
  cases styled
  refine ((Settled.set ?_ (.of (by decide) (by decide))).update
    (Paint.settled_maskCss settled painted)).update item
  split
  · exact (Paint.settled_radiusCss _).set (.of (by decide) (by decide))
  · exact Paint.settled_radiusCss _

/-- The declarations and the layout of the box are settled. -/
structure SceneBox.Settled (box : SceneBox α) : Prop where
  declarations : box.declarations.Settled
  layout : box.layout.Settled

theorem settled_of_compiledAs {template : String} {root : Affine α} {entry : Entry α}
    {box : SceneBox α} (lawful : entry.Lawful) (settled : entry.node.props.Settled template)
    (compiled : CompiledAs template root entry box) : box.Settled := by
  cases compiled with
  | node alone placed returned =>
    obtain ⟨-, layout, style, content, computed, styled, -, rfl⟩ := compileBox_cases returned
    exact ⟨placed.itemCss.settled.update (settled_style settled (placed.isCall_inherited lawful)
      styled), Layout.settled_compute settled.lengths computed⟩
  | group grouped placed inverted known styled =>
    exact ⟨settled_maskBoxCss settled placed.itemCss.settled styled,
      Layout.settled_maskLayout _ _ _⟩

/-! ### Texts -/

/-- A segment may declare words and colours, and its family of fonts. -/
structure Says (segment : TextSegment α) (declaration : Declaration) : Prop where
  name : IsWord declaration.1.toList
  value : IsWord declaration.2.toList ∨ IsCall declaration.2.toList ∨
    ∃ font ∈ segment.fontName, declaration.2 = fontStack font.family

section Segments

variable (segment : TextSegment α)

omit [Scalar α] in
variable {segment} in
private theorem Says.word {name value : String} (named : IsWord name.toList)
    (word : IsWord value.toList) : Says segment (name, value) := ⟨named, .inl word⟩

private theorem isWord_measure (value : α) {unit : String} (known : IsWord unit.toList) :
    IsWord (number value 2 ++ unit).toList := by
  rw [String.toList_append]
  exact (isWord_number value (by decide)).append known

private theorem says_fonts : ∀ declaration ∈ fontDeclarations segment, Says segment declaration := by
  simp only [fontDeclarations, List.forall_mem_append]
  refine ⟨⟨?size, ?family⟩, ?weight⟩
  case size =>
    split
    · exact List.forall_mem_singleton.mpr (.word (by decide) (isWord_px _))
    · exact List.forall_mem_nil _
  case family =>
    split
    next font known =>
      refine List.forall_mem_append.mpr ⟨?_, ?_⟩
      · exact List.forall_mem_singleton.mpr
          ⟨(by decide : IsWord "font-family".toList), .inr (.inr ⟨font, known, rfl⟩)⟩
      · split
        · exact List.forall_mem_singleton.mpr (.word (by decide) (by decide))
        · exact List.forall_mem_nil _
    · exact List.forall_mem_nil _
  case weight =>
    split
    · exact List.forall_mem_singleton.mpr (.word (by decide) (isWord_int _))
    · exact List.forall_mem_nil _

private theorem says_spacing (spacing : Option (LetterSpacing α)) :
    ∀ declaration ∈ spacingDeclarations spacing, Says segment declaration := by
  unfold spacingDeclarations
  split
  · exact List.forall_mem_nil _
  next letters =>
    cases unit : letters.unit <;> simp only [] <;> split
    · exact List.forall_mem_nil _
    · exact List.forall_mem_singleton.mpr (.word (by decide) (isWord_measure _ (by decide)))
    · exact List.forall_mem_nil _
    · exact List.forall_mem_singleton.mpr (.word (by decide) (isWord_measure _ (by decide)))

private theorem says_lineHeight (lineHeight : Option (LineHeight α)) :
    ∀ declaration ∈ lineHeightDeclarations lineHeight, Says segment declaration := by
  unfold lineHeightDeclarations
  split
  · exact List.forall_mem_singleton.mpr (.word (by decide) (isWord_px _))
  · split
    · exact List.forall_mem_singleton.mpr (.word (by decide) (isWord_measure _ (by decide)))
    · exact List.forall_mem_nil _
  · exact List.forall_mem_nil _

private theorem says_color {color : String} (colored : textColor segment.fills = .ok color) :
    Says segment ("color", color) := by
  unfold textColor at colored
  dsimp only at colored
  split at colored
  · exact ⟨(by decide : IsWord "color".toList), .inr (.inl (Paint.isCall_colorCss colored))⟩
  · cases colored
    exact .word (by decide) (by decide)

omit [Scalar α] in
private theorem says_lookup {name : String} (named : IsWord name.toList)
    {table : List (String × String)} (each : ∀ entry ∈ table, IsWord entry.2.toList)
    (word : Option String) :
    ∀ declaration ∈ lookupDeclaration name table word, Says segment declaration := by
  unfold lookupDeclaration
  split
  next value found =>
    exact List.forall_mem_singleton.mpr (.word named (each _ (Classes.mem_of_lookup found)))
  · exact List.forall_mem_nil _

end Segments

/-- What a segment declares are words and colours, apart from its family of fonts. -/
theorem segmentCss_cases {segment : TextSegment α} {bag : Css.Declarations}
    (styled : segmentCss segment = .ok bag) :
    ∀ declaration ∈ bag.toList, Says segment declaration := by
  obtain ⟨color, colored, styled⟩ := Except.bind_eq_ok_iff.mp styled
  cases styled
  intro declaration member
  replace member := mem_of_mem_ofList member
  simp only [List.mem_append, List.mem_singleton] at member
  rcases member with ((((font | spacing) | height) | rfl) | decoration) | transform
  · exact says_fonts segment declaration font
  · exact says_spacing segment _ declaration spacing
  · exact says_lineHeight segment _ declaration height
  · exact says_color segment colored
  · exact says_lookup segment (by decide) (by decide) _ declaration decoration
  · exact says_lookup segment (by decide) (by decide) _ declaration transform

/-- A character of words, or a mark between them. -/
def isStyleChar (c : Char) : Bool :=
  isWordChar c || c = '\'' || c = '(' || c = ')' || c = ',' || c = ':' || c = ';' || c = ' '

/-- The characters of a style are printed with one byte each. -/
theorem bounds_of_isStyleChar {c : Char} (style : isStyleChar c = true) :
    32 ≤ c.toNat ∧ c.toNat ≤ 126 := by
  simp only [isStyleChar, Bool.or_eq_true, decide_eq_true_eq] at style
  rcases style with ((((((word | rfl) | rfl) | rfl) | rfl) | rfl) | rfl) | rfl
  · have bounds := bounds_of_isWordChar word
    omega
  all_goals decide

private theorem isStyleChar_of_isWordChar {c : Char} (word : isWordChar c = true) :
    isStyleChar c = true := by
  simp [isStyleChar, word]

private theorem mem_fontStack {family : String} {c : Char}
    (member : c ∈ (fontStack family).toList) : isStyleChar c = true ∨ c ∈ family.toList := by
  have around (text : List Char) (each : text.all isStyleChar = true) (here : c ∈ text) :
      isStyleChar c = true := List.all_eq_true.mp each c here
  rw [fontStack] at member
  split at member
  · simp only [String.toList_append, List.mem_append] at member
    rcases member with (opening | named) | closing
    · exact .inl (around _ (by decide) opening)
    · exact .inr named
    · exact .inl (around _ (by decide) closing)
  · simp only [String.toList_append, List.mem_append] at member
    rcases member with named | closing
    · exact .inr named
    · exact .inl (around _ (by decide) closing)

private theorem isStyleChar_of_isCall {text : List Char} (call : IsCall text) {c : Char}
    (member : c ∈ text) : isStyleChar c = true := by
  obtain ⟨name, arguments, word, -, listed, rfl⟩ := call
  simp only [List.mem_append, List.mem_cons, List.not_mem_nil, or_false] at member
  rcases member with named | (rfl | inside) | rfl
  · exact isStyleChar_of_isWordChar (word c named)
  · rfl
  · rcases listed c inside with word | rfl
    · exact isStyleChar_of_isWordChar word
    · rfl
  · rfl

/-- The style of a segment is made of words, a few marks and the family of its font. -/
theorem mem_serialize_segmentCss {segment : TextSegment α} {bag : Css.Declarations}
    (styled : segmentCss segment = .ok bag) {c : Char} (member : c ∈ bag.serialize.toList) :
    isStyleChar c = true ∨ ∃ font ∈ segment.fontName, c ∈ font.family.toList := by
  obtain ⟨declaration, declared, here⟩ := mem_serialize.mp member
  obtain ⟨word, value⟩ := segmentCss_cases styled declaration declared
  rw [serializeDeclaration] at here
  simp only [String.toList_append, List.mem_append] at here
  rcases here with ((named | colon) | valued) | ended
  · exact .inl (isStyleChar_of_isWordChar (word c named))
  · obtain rfl : c = ':' := List.mem_singleton.mp colon
    exact .inl rfl
  · rcases value with word | call | ⟨font, known, same⟩
    · exact .inl (isStyleChar_of_isWordChar (word c valued))
    · exact .inl (isStyleChar_of_isCall call valued)
    · rw [same] at valued
      exact (mem_fontStack valued).imp_right fun inside => ⟨font, known, inside⟩
  · obtain rfl : c = ';' := List.mem_singleton.mp ended
    exact .inl rfl

theorem settled_segmentCss {segment : TextSegment α} {bag : Css.Declarations}
    (families : ∀ font ∈ segment.fontName, Css.Settled (fontStack font.family))
    (styled : segmentCss segment = .ok bag) : bag.Settled := by
  intro declaration member
  obtain ⟨word, value⟩ := segmentCss_cases styled declaration member
  refine ⟨word, ?_⟩
  rcases value with word | call | ⟨font, known, same⟩
  · exact word.settled
  · exact call.settled
  · rw [same]
    exact families font known

end Artboard
