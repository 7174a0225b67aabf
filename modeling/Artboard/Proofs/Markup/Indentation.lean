import Artboard.Markup.Indent
import Mathlib.Data.List.Basic

/-!
# Indentation leaves no trace

Writing elements changes them: blank texts and tails are filled with line breaks.
What an earlier run filled in is blank, so that a later one fills in its own, and
the markup is the same as without the earlier run. Nothing that shows is changed,
and nothing inside a text box.
-/
namespace Artboard.Markup

open Text

variable {unit space inner text tail : List Char} {level depth : Int}

/-! ### Blank text -/

theorem allBlank_lineBreak (blank : allBlank unit = true) (level : Int) :
    allBlank (lineBreak unit level) = true := by
  have newline : isBlank '\n' = true := by decide
  have units : allBlank (indentation unit level) = true := by
    simp only [indentation, allBlank, List.all_flatten, List.all_replicate]
    split
    · rfl
    · exact blank
  simpa [lineBreak, allBlank, newline] using units

theorem fillBlank_of_shows (shows : allBlank text = false) : fillBlank space text = text := by
  rw [fillBlank, shows]
  rfl

theorem fillBlank_self (space text : List Char) :
    fillBlank space (fillBlank space text) = fillBlank space text := by
  unfold fillBlank
  split
  · exact ite_self space
  · rfl

/-- What blanks were filled with is filled again. -/
theorem fillBlank_fillBlank (blank : allBlank inner = true) (space text : List Char) :
    fillBlank space (fillBlank inner text) = fillBlank space text := by
  cases known : allBlank text with
  | true => simp [fillBlank, known, blank]
  | false =>
    have kept : fillBlank inner text = text := fillBlank_of_shows known
    rw [kept]

namespace Element

/-! ### Tails -/

@[simp] theorem head_tail_withTail (tail : List Char) (element : Element) :
    (element.withTail tail).head.tail = tail := by
  cases element
  rfl

@[simp] theorem withTail_withTail (tail other : List Char) (element : Element) :
    (element.withTail other).withTail tail = element.withTail tail := by
  cases element
  rfl

theorem fillTail_eq (space : List Char) (element : Element) :
    element.fillTail space = element.withTail (fillBlank space element.head.tail) := by
  cases element
  rfl

/-- What indentation makes of a tree, apart from its tail. -/
def indentInside (unit : List Char) (level : Int) : Element → Element
  | mk head children =>
    if children.isEmpty || head.keepsSpace then mk head children
    else
      mk { head with text := fillBlank (lineBreak unit (level + 1)) head.text }
        (fillTails (lineBreak unit (level + 1)) (lineBreak unit level)
          (indentAll unit (level + 1) children))

theorem indent_eq (unit : List Char) (level : Int) (element : Element) :
    element.indent unit level = (element.indentInside unit level).withTail
      (if level = 0 then element.head.tail
        else fillBlank (lineBreak unit level) element.head.tail) := by
  obtain ⟨head, children⟩ := element
  have keeps (tail : List Char) : { head with tail }.keepsSpace = head.keepsSpace := rfl
  rw [indent, indentInside, Element.head]
  by_cases root : level = 0
  · simp only [root, if_true]
    split <;> rfl
  · simp only [root, if_false, keeps]
    split <;> rfl

theorem indent_withTail (element : Element) :
    ((element.withTail space).indent unit level).withTail tail =
      (element.indent unit level).withTail tail := by
  have inside : ((element.withTail space).indentInside unit level).withTail tail =
      (element.indentInside unit level).withTail tail := by
    obtain ⟨head, children⟩ := element
    have keeps : { head with tail := space }.keepsSpace = head.keepsSpace := rfl
    rw [withTail, indentInside, indentInside, keeps]
    split <;> rfl
  rw [indent_eq, indent_eq, withTail_withTail, withTail_withTail, inside]

/-- A line break that fills the tail anyway is filled in once. -/
theorem fillTail_indent (unit : List Char) (level : Int) (element : Element) :
    (element.indent unit level).fillTail (lineBreak unit level) =
      (element.indent unit level).withTail (fillBlank (lineBreak unit level) element.head.tail) := by
  rw [fillTail_eq, indent_eq, head_tail_withTail, withTail_withTail, withTail_withTail]
  split
  · rfl
  · rw [fillBlank_self]

/-! ### Children -/

theorem indentAll_eq_map (unit : List Char) (level : Int) (children : List Element) :
    indentAll unit level children = children.map (indent unit level) := by
  induction children with
  | nil => rfl
  | cons child rest ih => rw [indentAll, ih, List.map_cons]

theorem fillTails_cons (between last : List Char) (child : Element) {rest : List Element}
    (more : rest ≠ []) :
    fillTails between last (child :: rest) =
      child.fillTail between :: fillTails between last rest := by
  obtain ⟨next, others, rfl⟩ := List.exists_cons_of_ne_nil more
  rfl

@[simp] theorem length_fillTails (between last : List Char) (children : List Element) :
    (fillTails between last children).length = children.length := by
  induction children with
  | nil => rfl
  | cons child rest ih =>
    by_cases single : rest = []
    · subst single
      rfl
    · rw [fillTails_cons between last child single, List.length_cons, ih, List.length_cons]

/-- Filling tails changes blank tails only. -/
theorem getElem?_fillTails (between last : List Char) {children : List Element} {index : Nat}
    {child : Element} (found : children[index]? = some child) :
    ∃ tail, (fillTails between last children)[index]? = some (child.withTail tail) ∧
      (allBlank child.head.tail = false → tail = child.head.tail) := by
  induction children generalizing index with
  | nil => simp at found
  | cons first rest ih =>
    by_cases single : rest = []
    · subst single
      obtain ⟨rfl, rfl⟩ : index = 0 ∧ first = child := by
        cases index with
        | zero => simpa using found
        | succ => simp at found
      refine ⟨fillBlank last (fillBlank between first.head.tail), ?_, fun shows => ?_⟩
      · simp [fillTails, fillTail_eq]
      · rw [fillBlank_of_shows shows, fillBlank_of_shows shows]
    · rw [fillTails_cons between last first single]
      cases index with
      | zero =>
        obtain rfl : first = child := by simpa using found
        exact ⟨_, by rw [List.getElem?_cons_zero, fillTail_eq], fillBlank_of_shows⟩
      | succ => exact ih (by simpa using found)

/-! ### An earlier run -/

variable {before between last : List Char}

theorem fillBlank_tail_indent (blank : allBlank before = true) (depth : Int) (space : List Char)
    (element : Element) :
    fillBlank space (element.indent before depth).head.tail =
      fillBlank space element.head.tail := by
  rw [indent_eq, head_tail_withTail]
  split
  · rfl
  · rw [fillBlank_fillBlank (allBlank_lineBreak blank depth)]

/-- An indented tree is no leaf and no text box if it was none, so that it is indented again, and
its children with it. -/
theorem indentInside_again (blank : allBlank before = true) (unit : List Char) (depth level : Int)
    (head : Head) {children : List Element}
    (again : fillTails (lineBreak unit (level + 1)) (lineBreak unit level)
        (indentAll unit (level + 1) (fillTails (lineBreak before (depth + 1))
          (lineBreak before depth) (indentAll before (depth + 1) children))) =
      fillTails (lineBreak unit (level + 1)) (lineBreak unit level)
        (indentAll unit (level + 1) children)) :
    ((mk head children).indentInside before depth).indentInside unit level =
      (mk head children).indentInside unit level := by
  by_cases closed : (children.isEmpty || head.keepsSpace) = true
  · simp only [indentInside, closed, if_true]
  · have opened (text : List Char) : ((fillTails (lineBreak before (depth + 1))
        (lineBreak before depth) (indentAll before (depth + 1) children)).isEmpty ||
          { head with text }.keepsSpace) = (children.isEmpty || head.keepsSpace) := by
      have keeps : { head with text }.keepsSpace = head.keepsSpace := rfl
      rw [keeps, Bool.eq_iff_iff]
      simp [← List.length_eq_zero_iff, indentAll_eq_map]
    simp only [indentInside, closed, opened, Bool.false_eq_true, if_false, again,
      fillBlank_fillBlank (allBlank_lineBreak blank (depth + 1))]

/-- Children with tails that were filled with blanks are filled and indented as if they had not
been, each one if it is so by itself. -/
theorem fillTails_again (blank : allBlank before = true) (inner : allBlank between = true)
    (outer : allBlank last = true) (unit space : List Char) (depth level : Int)
    {children : List Element}
    (each : ∀ child ∈ children, ∀ tail,
      ((child.indent before depth).indent unit level).withTail tail =
        (child.indent unit level).withTail tail) :
    fillTails (lineBreak unit level) space
        (indentAll unit level (fillTails between last (indentAll before depth children))) =
      fillTails (lineBreak unit level) space (indentAll unit level children) := by
  induction children with
  | nil => rfl
  | cons child rest ih =>
    obtain ⟨here, later⟩ := List.forall_mem_cons.mp each
    have again {tail : List Char} (same : fillBlank (lineBreak unit level) tail =
          fillBlank (lineBreak unit level) child.head.tail) :
        (((child.indent before depth).withTail tail).indent unit level).fillTail
            (lineBreak unit level) =
          (child.indent unit level).fillTail (lineBreak unit level) := by
      rw [fillTail_indent, fillTail_indent, indent_withTail, head_tail_withTail, same, here]
    have first : fillBlank (lineBreak unit level)
        (fillBlank between (child.indent before depth).head.tail) =
          fillBlank (lineBreak unit level) child.head.tail := by
      rw [fillBlank_fillBlank inner, fillBlank_tail_indent blank]
    -- The last child gets its tail from the element around it, each other one from its neighbours.
    by_cases single : rest = []
    · subst single
      simp only [indentAll, fillTails, fillTail_eq _ (child.indent before depth), fillTail_eq last,
        withTail_withTail, head_tail_withTail]
      rw [again (by rw [fillBlank_fillBlank outer, first])]
    · have indented {unit : List Char} {level : Int} {children : List Element}
          (some : children ≠ []) : indentAll unit level children ≠ [] := by
        simpa [indentAll_eq_map] using some
      have filled : fillTails between last (indentAll before depth rest) ≠ [] := by
        rw [← List.length_pos_iff, length_fillTails, List.length_pos_iff]
        exact indented single
      rw [indentAll, fillTails_cons _ _ _ (indented single), indentAll, indentAll,
        fillTails_cons _ _ _ (indented filled), fillTails_cons _ _ _ (indented single), ih later,
        fillTail_eq between, again first]

/-- Apart from its tail, a tree that was indented with blanks is indented as if it had not been. -/
theorem indent_indent (blank : allBlank before = true) (unit : List Char) :
    (element : Element) → ∀ (depth level : Int) (tail : List Char),
      ((element.indent before depth).indent unit level).withTail tail =
        (element.indent unit level).withTail tail
  | .mk head children, depth, level, tail => by
    have each (child : Element) (_ : child ∈ children) :=
      indent_indent blank unit child (depth + 1) (level + 1)
    have again := fillTails_again blank (allBlank_lineBreak blank (depth + 1))
      (allBlank_lineBreak blank depth) unit (lineBreak unit level) (depth + 1) (level + 1) each
    rw [indent_eq before, indent_withTail, indent_eq, indent_eq, withTail_withTail,
      withTail_withTail, indentInside_again blank unit depth level head again]

/-! ### What is kept -/

/-- The element that a path of child numbers leads to. -/
def at? : Element → List Nat → Option Element
  | element, [] => some element
  | .mk _ children, index :: path => children[index]?.bind (at? · path)

/-- What writing keeps of an element: all but a blank text in front of children. Within a text box
everything is kept. -/
structure Keeps (before after : Element) : Prop where
  name : after.head.name = before.head.name
  attributes : after.head.attributes = before.head.attributes
  count : after.children.length = before.children.length
  text : allBlank before.head.text = false ∨ before.children = [] →
    after.head.text = before.head.text
  inside : before.head.keepsSpace = true →
    after.head.text = before.head.text ∧ after.children = before.children

variable {first second third : Element}

theorem Keeps.refl (element : Element) : element.Keeps element :=
  ⟨rfl, rfl, rfl, fun _ => rfl, fun _ => ⟨rfl, rfl⟩⟩

theorem Keeps.trans (early : first.Keeps second) (late : second.Keeps third) :
    first.Keeps third where
  name := late.name.trans early.name
  attributes := late.attributes.trans early.attributes
  count := late.count.trans early.count
  text := fun shows => by
    have same := early.text shows
    rw [← same]
    refine late.text (shows.imp (fun visible => by rwa [same]) fun leaf => ?_)
    rw [← List.length_eq_zero_iff, early.count, leaf]
    rfl
  inside := fun box => by
    have still : second.head.keepsSpace = true := by
      rw [← box]
      simp only [Head.keepsSpace, Head.classes, Head.attribute?, early.name, early.attributes]
    obtain ⟨text, children⟩ := early.inside box
    rw [← text, ← children]
    exact late.inside still

theorem keeps_withTail (tail : List Char) (element : Element) :
    element.Keeps (element.withTail tail) := by
  cases element
  exact ⟨rfl, rfl, rfl, fun _ => rfl, fun _ => ⟨rfl, rfl⟩⟩

theorem keeps_indent (unit : List Char) (level : Int) (element : Element) :
    element.Keeps (element.indent unit level) := by
  suffices inside : element.Keeps (element.indentInside unit level) by
    rw [indent_eq]
    exact inside.trans (keeps_withTail _ _)
  obtain ⟨head, children⟩ := element
  rw [indentInside]
  split
  · exact .refl _
  next opened =>
    obtain ⟨inhabited, loose⟩ : children ≠ [] ∧ head.keepsSpace = false := by simpa using opened
    refine ⟨rfl, rfl, by simp [Element.children, indentAll_eq_map], fun shows => ?_, fun box => ?_⟩
    · exact fillBlank_of_shows (shows.resolve_right inhabited)
    · simp [Element.head, loose] at box

/-- Writing keeps each element, and each tail but a blank one and those of the outermost
elements. -/
theorem at?_indent (unit : List Char) (path : List Nat) (level : Int) (tail : List Char)
    {element before : Element} (found : element.at? path = some before) :
    ∃ after, ((element.indent unit level).withTail tail).at? path = some after ∧
      before.Keeps after ∧
      (path ≠ [] → allBlank before.head.tail = false → after.head.tail = before.head.tail) := by
  induction path generalizing element level tail with
  | nil =>
    obtain rfl : element = before := by simpa [at?] using found
    refine ⟨(element.indent unit level).withTail tail, by rw [at?], ?_, fun inner => absurd rfl inner⟩
    exact (keeps_indent unit level element).trans (keeps_withTail _ _)
  | cons index path ih =>
    obtain ⟨head, children⟩ := element
    rw [at?] at found
    obtain ⟨child, here, deeper⟩ := Option.bind_eq_some_iff.mp found
    rw [indent_eq, withTail_withTail, indentInside]
    split
    · exact ⟨before, by rw [withTail, at?, found], .refl _, fun _ _ => rfl⟩
    · have indented : (indentAll unit (level + 1) children)[index]? =
          some (child.indent unit (level + 1)) := by
        rw [indentAll_eq_map, List.getElem?_map, here, Option.map_some]
      obtain ⟨filled, same, kept⟩ :=
        getElem?_fillTails (lineBreak unit (level + 1)) (lineBreak unit level) indented
      obtain ⟨after, lies, keeps, tails⟩ := ih (level + 1) filled deeper
      refine ⟨after, by rw [withTail, at?, same]; exact lies, keeps, fun _ shows => ?_⟩
      cases path with
      | cons next path => exact tails (List.cons_ne_nil _ _) shows
      | nil =>
        -- The element is the child, whose tail its parent has filled as well.
        obtain rfl : child = before := by simpa [at?] using deeper
        have own : (child.indent unit (level + 1)).head.tail = child.head.tail := by
          rw [indent_eq, head_tail_withTail, fillBlank_of_shows shows, ite_self]
        rw [at?] at lies
        cases lies
        rw [head_tail_withTail, kept (by rwa [own]), own]

end Element

/-! ### Runs -/

/-- An element as it stands after it was written: indented, and without the text behind it. -/
def Element.printed (unit : List Char) (level : Int) (element : Element) : Element :=
  (element.indent unit level).withTail []

/-- A forest as it stands after it was written with these indentations and levels, one after the
other. -/
def printedAll (runs : List (List Char × Int)) (forest : List Element) : List Element :=
  runs.foldl (fun forest run => forest.map (Element.printed run.1 run.2)) forest

theorem serialize_eq (unit : List Char) (level : Int) (forest : List Element) :
    serialize unit level forest = List.intercalate ['\n']
      ((forest.map (Element.printed unit level)).map fun element =>
        indentation unit level ++ element.html) := by
  rw [serialize, List.map_map]
  rfl

/-- An element that was written with blanks before is written as if it had not been. -/
theorem printed_printed {before : List Char} (blank : allBlank before = true) (unit : List Char)
    (depth level : Int) (element : Element) :
    (element.printed before depth).printed unit level = element.printed unit level := by
  rw [Element.printed, Element.printed, Element.indent_withTail, Element.indent_indent blank,
    Element.printed]

theorem map_printed_printedAll (unit : List Char) (level : Int) {runs : List (List Char × Int)}
    (blank : ∀ run ∈ runs, allBlank run.1 = true) (forest : List Element) :
    (printedAll runs forest).map (Element.printed unit level) =
      forest.map (Element.printed unit level) := by
  induction runs generalizing forest with
  | nil => rfl
  | cons run runs ih =>
    obtain ⟨here, later⟩ := List.forall_mem_cons.mp blank
    rw [printedAll, List.foldl_cons]
    refine (ih later _).trans ?_
    rw [List.map_map]
    exact List.map_congr_left fun element _ => printed_printed here unit run.2 level element

/-- Any number of runs keeps every element of a forest. -/
theorem keeps_printedAll (runs : List (List Char × Int)) {forest : List Element} {index : Nat}
    {path : List Nat} {before : Element}
    (found : forest[index]?.bind (Element.at? · path) = some before) :
    ∃ after, (printedAll runs forest)[index]?.bind (Element.at? · path) = some after ∧
      before.Keeps after ∧
      (path ≠ [] → allBlank before.head.tail = false → after.head.tail = before.head.tail) := by
  induction runs generalizing forest before with
  | nil => exact ⟨before, found, .refl _, fun _ _ => rfl⟩
  | cons run runs ih =>
    obtain ⟨element, here, deeper⟩ := Option.bind_eq_some_iff.mp found
    obtain ⟨middle, lies, early, tail⟩ := Element.at?_indent run.1 path run.2 [] deeper
    have further : (forest.map (Element.printed run.1 run.2))[index]?.bind (Element.at? · path) =
        some middle := by
      rw [List.getElem?_map, here]
      exact lies
    obtain ⟨after, last, late, others⟩ := ih further
    refine ⟨after, last, early.trans late, fun inner shows => ?_⟩
    have same := tail inner shows
    rw [← same]
    exact others inner (by rwa [same])

/-- Elements that were written with blanks before, any number of times, have the same markup as if
they had not been. No run changes a text or an inner tail that shows, a text without children behind
it, or anything inside a text box. -/
theorem printing_leaves_no_trace {runs : List (List Char × Int)}
    (blank : ∀ run ∈ runs, allBlank run.1 = true) (unit : List Char) (level : Int)
    (forest : List Element) :
    serialize unit level (printedAll runs forest) = serialize unit level forest ∧
      serialize unit level forest = List.intercalate ['\n']
        ((printedAll (runs ++ [(unit, level)]) forest).map fun element =>
          indentation unit level ++ element.html) ∧
      ∀ (index : Nat) path before, forest[index]?.bind (Element.at? · path) = some before →
        ∃ after,
          (printedAll (runs ++ [(unit, level)]) forest)[index]?.bind (Element.at? · path) =
            some after ∧
          before.Keeps after ∧
          (path ≠ [] → allBlank before.head.tail = false → after.head.tail = before.head.tail) := by
  have same := map_printed_printedAll unit level blank forest
  have last : printedAll (runs ++ [(unit, level)]) forest =
      forest.map (Element.printed unit level) := by
    rw [← same, printedAll, List.foldl_append]
    rfl
  refine ⟨?_, ?_, fun index path before found => keeps_printedAll _ found⟩
  · rw [serialize_eq, serialize_eq, same]
  · rw [last, serialize_eq]

/-- A box with a text box, a text behind that and an empty box. -/
private def noteBox : Element :=
  .mk ⟨.plain "div", [], " ".toList, "gone".toList⟩
    [.mk ⟨.plain "p", [(.plain "class", "note text")], " a ".toList, "kept".toList⟩
        [.mk ⟨.plain "b", [], "b".toList, []⟩ [], .plain "br" [] []],
      .plain "i" [] [], .mk ⟨.plain "u", [], "\t".toList, []⟩ []]

/-- The box was written with tabs three levels down, and without indentation above the outermost
level. -/
theorem note_box_leaves_no_trace :
    (∀ run ∈ [("\t".toList, (3 : Int)), ([], -1)], allBlank run.1 = true) ∧
      serialize "  ".toList 0 (printedAll [("\t".toList, 3), ([], -1)] [noteBox]) =
        serialize "  ".toList 0 [noteBox] ∧
      serialize "  ".toList 0 [noteBox] =
        ("<div>\n  <p class=\"note text\"> a <b>b</b><br></p>kept" ++
          "<i></i>\n  <u>\t</u>\n</div>").toList := by
  have blank : ∀ run ∈ [("\t".toList, (3 : Int)), ([], -1)], allBlank run.1 = true := by decide
  exact ⟨blank, (printing_leaves_no_trace blank "  ".toList 0 [noteBox]).1, by decide +kernel⟩

end Artboard.Markup
