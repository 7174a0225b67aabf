import Artboard.Text.Blank
import Artboard.Text.Lines

/-!
# Indented lines

A text that is split into lines and joined again with an indentation is the text
with a line feed and the indentation in place of each line boundary. Parts without
a line boundary stay as they are, whatever they mean, and no part changes in more
than blanks.
-/
namespace Artboard.Text

theorem isBlank_of_isLineBoundary {c : Char} (boundary : isLineBoundary c = true) :
    isBlank c = true := by
  simp only [isLineBoundary, Bool.or_eq_true, decide_eq_true_eq] at boundary
  rcases boundary with ((((((((rfl | rfl) | rfl) | rfl) | rfl) | rfl) | rfl) | rfl) | rfl) | rfl <;>
    decide

theorem unbroken_of_all {text : List Char} (all : (text.all fun c => !isLineBoundary c) = true) :
    ∀ c ∈ text, isLineBoundary c = false := by
  simpa using all

/-- A line with characters begins here. -/
def opensLine (rest : List Char) : Bool :=
  match rest with
  | [] => false
  | c :: _ => !isLineBoundary c

/-- What stands for a character in front of others: for a line boundary a line feed with the
indentation of the line that it opens. -/
def reflowedChar (start : List Char) (c : Char) (rest : List Char) : List Char :=
  if isLineBoundary c then
    if c = '\r' ∧ rest.head? = some '\n' then []
    else '\n' :: if opensLine rest then start else []
  else [c]

/-- The text with its lines indented, apart from the first one. -/
def reflowed (start : List Char) : List Char → List Char
  | [] => []
  | c :: rest => reflowedChar start c rest ++ reflowed start rest

/-- Lines with an indentation where they have characters. -/
def joined (start : List Char) (lines : List (List Char)) : List Char :=
  ['\n'].intercalate (lines.map fun line => if line.isEmpty then [] else start ++ line)

variable {start : List Char}

private theorem joined_cons (line : List Char) {more : List (List Char)} (inhabited : more ≠ []) :
    joined start (line :: more) =
      (if line.isEmpty then [] else start ++ line) ++ '\n' :: joined start more := by
  obtain ⟨next, rest, rfl⟩ := List.exists_cons_of_ne_nil inhabited
  simp [joined, List.intercalate_cons_cons]

private theorem linesFrom_ne_nil {current text : List Char} (inhabited : text ≠ []) :
    linesFrom current text ≠ [] := by
  fun_induction linesFrom current text with
  | case1 => exact absurd rfl inhabited
  | case2 => exact List.cons_ne_nil _ _
  | case3 => exact List.cons_ne_nil _ _
  | case4 => exact List.cons_ne_nil _ _
  | case5 current c rest _ _ ih =>
    cases rest with
    | nil => exact List.cons_ne_nil (c :: current).reverse []
    | cons next rest => exact ih (by simp)

/-- Behind a line boundary that is not the last character another line begins. -/
private theorem joined_boundary (current rest : List Char) (inhabited : rest ≠ [])
    (later : joined start (linesFrom [] rest) =
      (if ([] : List Char).isEmpty && !opensLine rest then [] else start) ++ [].reverse ++
        reflowed start rest) :
    joined start (current.reverse :: linesFrom [] rest) =
      (if current.isEmpty then [] else start) ++ current.reverse ++
        '\n' :: ((if opensLine rest then start else []) ++ reflowed start rest) := by
  rw [joined_cons _ (linesFrom_ne_nil inhabited), later]
  cases current <;> cases opensLine rest <;> simp

/-- The lines from an open one on, joined again. -/
private theorem joined_linesFrom (current text : List Char)
    (ended : ∀ c ∈ text.getLast?, isLineBoundary c = false) :
    joined start (linesFrom current text) =
      (if current.isEmpty && !opensLine text then [] else start) ++ current.reverse ++
        reflowed start text := by
  fun_induction linesFrom current text with
  | case1 current none =>
    obtain rfl := List.isEmpty_iff.mp none
    rfl
  | case2 current some =>
    have inhabited : current ≠ [] := by simpa using some
    simp [joined, inhabited, reflowed]
  | case3 current rest ih =>
    have inhabited : rest ≠ [] := by
      rintro rfl
      cases ended '\n' rfl
    have later : ∀ c ∈ rest.getLast?, isLineBoundary c = false := by
      simpa [List.getLast?_cons, List.getLast?_eq_some_getLast inhabited] using ended
    rw [joined_boundary _ _ inhabited (ih later)]
    -- The carriage return goes with the line feed.
    have feed : isLineBoundary '\n' = true := rfl
    have carriage : isLineBoundary '\r' = true := rfl
    have pair : reflowed start ('\r' :: '\n' :: rest) =
        '\n' :: ((if opensLine rest then start else []) ++ reflowed start rest) := by
      simp [reflowed, reflowedChar, feed, carriage]
    simp [pair, opensLine, carriage]
  | case4 current c rest other boundary ih =>
    have inhabited : rest ≠ [] := by
      rintro rfl
      simp [boundary] at ended
    have later : ∀ c ∈ rest.getLast?, isLineBoundary c = false := by
      simpa [List.getLast?_cons, List.getLast?_eq_some_getLast inhabited] using ended
    rw [joined_boundary _ _ inhabited (ih later)]
    have single : ¬ (c = '\r' ∧ rest.head? = some '\n') := by
      rintro ⟨rfl, next⟩
      obtain ⟨more, rfl⟩ := List.head?_eq_some_iff.mp next
      exact other more rfl rfl
    simp [reflowed, reflowedChar, boundary, single, opensLine]
  | case5 current c rest other inside ih =>
    have later : ∀ c ∈ rest.getLast?, isLineBoundary c = false := by
      cases rest with
      | nil => simp
      | cons next more => simpa [List.getLast?_cons_cons] using ended
    rw [ih later]
    simp [reflowed, reflowedChar, inside, opensLine]

/-- The lines of a text that neither starts nor ends with a line boundary, joined again. -/
theorem joined_lines {text : List Char} (opens : opensLine text = true)
    (ended : ∀ c ∈ text.getLast?, isLineBoundary c = false) :
    joined start (lines text) = start ++ reflowed start text := by
  rw [lines, joined_linesFrom [] text ended, opens]
  simp

/-- An indented text has no line boundaries but line feeds. -/
theorem eq_lineFeed_of_mem_reflowed (indents : ∀ c ∈ start, isLineBoundary c = false)
    {text : List Char} {c : Char} (member : c ∈ reflowed start text)
    (boundary : isLineBoundary c = true) : c = '\n' := by
  induction text with
  | nil => cases member
  | cons first text ih =>
    rcases List.mem_append.mp member with here | later
    · unfold reflowedChar at here
      split at here
      · split at here
        · cases here
        · rcases List.mem_cons.mp here with feed | inside
          · exact feed
          · split at inside
            · rw [indents c inside] at boundary
              cases boundary
            · cases inside
      next other =>
        obtain rfl := List.mem_singleton.mp here
        exact absurd boundary other
    · exact ih later

/-! ### Parts of a text -/

/-- The second text is the first one but for blanks, and the same where the first has no line
boundary. -/
structure Reflows (text result : List Char) : Prop where
  unbroken : (∀ c ∈ text, isLineBoundary c = false) → result = text
  shown : result.filter (!isBlank ·) = text.filter (!isBlank ·)

/-- How a part of a text is written: line boundaries and blanks as they are, and nothing as a line
boundary. -/
structure KeepsLines (write : Char → List Char) : Prop where
  blank : ∀ c, isBlank c = true → write c = [c]
  inside : ∀ c, isLineBoundary c = false → ∀ d ∈ write c, isLineBoundary d = false

private theorem filter_blank {text : List Char} (blank : allBlank text = true) :
    text.filter (!isBlank ·) = [] := by
  rw [allBlank, List.all_eq_true] at blank
  exact List.filter_eq_nil_iff.mpr fun c member => by simp [blank c member]

private theorem flatMap_blank {write : Char → List Char} (keeps : KeepsLines write)
    {text : List Char} (blank : allBlank text = true) : text.flatMap write = text := by
  rw [allBlank, List.all_eq_true] at blank
  induction text with
  | nil => rfl
  | cons c text ih =>
    obtain ⟨here, blank⟩ := List.forall_mem_cons.mp blank
    rw [List.flatMap_cons, keeps.blank c here, ih blank]
    rfl

private theorem allBlank_reflowedChar (indents : allBlank start = true) {c : Char}
    (boundary : isLineBoundary c = true) (rest : List Char) :
    allBlank (reflowedChar start c rest) = true := by
  have feed : isBlank '\n' = true := rfl
  rw [reflowedChar, if_pos boundary]
  split
  · rfl
  · rw [allBlank, List.all_cons, feed, Bool.true_and]
    split
    · exact indents
    · rfl

theorem reflowed_append_unbroken {text : List Char}
    (unbroken : ∀ c ∈ text, isLineBoundary c = false) (rest : List Char) :
    reflowed start (text ++ rest) = text ++ reflowed start rest := by
  induction text with
  | nil => rfl
  | cons c text ih =>
    obtain ⟨here, unbroken⟩ := List.forall_mem_cons.mp unbroken
    simp [reflowed, reflowedChar, here, ih unbroken]

/-- What is written for a text is reflowed as what is written for another one. -/
theorem exists_reflows {write : Char → List Char} (keeps : KeepsLines write)
    (indents : allBlank start = true) (text rest : List Char) :
    ∃ result, Reflows text result ∧
      reflowed start (text.flatMap write ++ rest) = result.flatMap write ++ reflowed start rest := by
  induction text with
  | nil => exact ⟨[], ⟨fun _ => rfl, rfl⟩, rfl⟩
  | cons c text ih =>
    obtain ⟨result, reflows, same⟩ := ih
    cases boundary : isLineBoundary c with
    | false =>
      refine ⟨c :: result, ⟨fun unbroken => ?_, ?_⟩, ?_⟩
      · rw [reflows.unbroken (List.forall_mem_cons.mp unbroken).2]
      · rw [List.filter_cons, List.filter_cons, reflows.shown]
      · rw [List.flatMap_cons, List.append_assoc,
          reflowed_append_unbroken (keeps.inside c boundary), same, List.flatMap_cons,
          List.append_assoc]
    | true =>
      have blank := isBlank_of_isLineBoundary boundary
      have filled := allBlank_reflowedChar indents boundary (text.flatMap write ++ rest)
      refine ⟨reflowedChar start c (text.flatMap write ++ rest) ++ result, ⟨fun unbroken => ?_, ?_⟩,
        ?_⟩
      · rw [unbroken c (.head _)] at boundary
        cases boundary
      · rw [List.filter_append, filter_blank filled, List.filter_cons_of_neg (by simp [blank]),
          reflows.shown, List.nil_append]
      · rw [List.flatMap_cons, keeps.blank c blank, List.flatMap_append, flatMap_blank keeps filled,
          List.append_assoc, List.append_assoc, ← same]
        rfl

end Artboard.Text
