import Artboard.Proofs.Css.Bag
import Artboard.Proofs.Css.ValueList

/-!
# Reading a declaration list

A style attribute is read back by splitting it at the semicolons outside quotes
and parentheses, and each part at its first colon. What a bag is written as is
read as the bag again where its values are settled: they close every quote and
parenthesis that they open, close no other, and have no semicolon outside these.
-/
namespace Artboard.Css

open Nesting

/-- The texts of a declaration list, of which `read` is the open one, last character first. -/
def declarationTexts (nesting : Nesting) (read : List Char) : List Char → List (List Char)
  | [] => if read.isEmpty then [] else [read.reverse]
  | c :: rest =>
    if c = ';' ∧ nesting = outside then read.reverse :: declarationTexts outside [] rest
    else declarationTexts (nesting.next c) (c :: read) rest

/-- A name up to the first colon, and the value behind it. -/
def declarationOfText (text : List Char) : Declaration :=
  (String.ofList (text.takeWhile (· != ':')), String.ofList ((text.dropWhile (· != ':')).drop 1))

/-- The declarations of a list as it is written in a style attribute. -/
def readDeclarations (text : String) : List Declaration :=
  (declarationTexts outside [] text.toList).map declarationOfText

/-! ### Settled texts -/

/-- Behind the next character, which neither ends a declaration nor closes what is not open. -/
def Nesting.keep? (nesting : Nesting) (c : Char) : Option Nesting :=
  if nesting = outside ∧ (c = ';' ∨ c = ')') then none else some (nesting.next c)

/-- What is kept is kept character by character. -/
theorem Nesting.foldlM_keep?_cons {nesting after : Nesting} {c : Char} {rest : List Char} :
    (c :: rest).foldlM keep? nesting = some after ↔
      ¬ (nesting = outside ∧ (c = ';' ∨ c = ')')) ∧
        rest.foldlM keep? (nesting.next c) = some after := by
  rw [List.foldlM_cons, keep?]
  split
  next ends => simp [ends]
  next free => simp [free]

/-- The text stays within one value, and what comes after it stands where the text did. -/
def SettledChars (text : List Char) : Prop := text.foldlM keep? outside = some outside

instance (text : List Char) : Decidable (SettledChars text) :=
  inferInstanceAs (Decidable (_ = _))

abbrev Settled (text : String) : Prop := SettledChars text.toList

namespace SettledChars

variable {text rest : List Char} {c : Char}

theorem nil : SettledChars [] := rfl

theorem append (first : SettledChars text) (second : SettledChars rest) :
    SettledChars (text ++ rest) := by
  rw [SettledChars, List.foldlM_append, first]
  exact second

theorem of_literal (literal : ∀ c ∈ text, isLiteral c = true ∧ c ≠ ';') : SettledChars text := by
  induction text with
  | nil => exact nil
  | cons c rest ih =>
    obtain ⟨⟨here, kept⟩, literal⟩ := List.forall_mem_cons.mp literal
    have other : c ≠ ')' := (isLiteral_iff.mp here).2.2.2
    refine foldlM_keep?_cons.mpr ⟨by simp [kept, other], ?_⟩
    rw [outside, next_literal here]
    exact ih literal

/-- What is kept outside is kept deeper inside as well. -/
private theorem keep?_deeper {nesting after : Nesting} (kept : nesting.keep? c = some after)
    (more : Nat) :
    (⟨nesting.depth + more, nesting.quote⟩ : Nesting).keep? c =
      some ⟨after.depth + more, after.quote⟩ := by
  obtain ⟨depth, quote⟩ := nesting
  rw [keep?] at kept
  split at kept
  · cases kept
  next free =>
    cases kept
    have still : ¬ ((⟨depth + more, quote⟩ : Nesting) = outside ∧ (c = ';' ∨ c = ')')) := by
      rintro ⟨same, ends⟩
      simp only [outside, mk.injEq] at same
      exact free ⟨by simp [outside, show depth = 0 by omega, same.2], ends⟩
    rw [keep?, if_neg still]
    cases quote with
    | some quote => simp [next]
    | none =>
      -- A parenthesis that is closed was opened, so that the depth does not stop at zero.
      have open_ : c = ')' → depth ≠ 0 := by
        rintro rfl rfl
        exact free ⟨rfl, .inr rfl⟩
      simp only [next]
      split
      · rfl
      split
      · simp only [Option.some.injEq, mk.injEq, and_true]
        omega
      split
      next closes =>
        have := open_ closes
        simp only [Option.some.injEq, mk.injEq, and_true]
        omega
      · rfl

theorem deeper (settled : SettledChars text) (depth : Nat) :
    text.foldlM keep? ⟨depth, none⟩ = some ⟨depth, none⟩ := by
  have lifted : ∀ {nesting after : Nesting}, text.foldlM keep? nesting = some after →
      text.foldlM keep? ⟨nesting.depth + depth, nesting.quote⟩ =
        some ⟨after.depth + depth, after.quote⟩ := by
    clear settled
    induction text with
    | nil => rintro nesting after ⟨⟩; rfl
    | cons c rest ih =>
      intro nesting after kept
      rw [List.foldlM_cons] at kept ⊢
      obtain ⟨between, here, kept⟩ := Option.bind_eq_some_iff.mp kept
      rw [keep?_deeper here]
      exact ih kept
  simpa [outside] using lifted settled

theorem parens (settled : SettledChars text) : SettledChars ('(' :: text ++ [')']) := by
  have opens : outside.keep? '(' = some ⟨1, none⟩ := rfl
  have closes : (⟨1, none⟩ : Nesting).keep? ')' = some outside := rfl
  rw [SettledChars, List.cons_append, List.foldlM_cons, opens, Option.bind_eq_bind,
    Option.bind_some, List.foldlM_append, settled.deeper 1]
  simp [closes]

/-- A quote holds everything but itself. -/
theorem quoted (apart : '\'' ∉ text) : SettledChars ('\'' :: text ++ ['\'']) := by
  have held : text.foldlM keep? ⟨0, some '\''⟩ = some ⟨0, some '\''⟩ := by
    induction text with
    | nil => rfl
    | cons c rest ih =>
      simp only [List.mem_cons, not_or] at apart
      have kept : (⟨0, some '\''⟩ : Nesting).keep? c = some ⟨0, some '\''⟩ := by
        simp [keep?, outside, next, Ne.symm apart.1]
      rw [List.foldlM_cons, kept]
      exact ih apart.2
  have opens : outside.keep? '\'' = some ⟨0, some '\''⟩ := rfl
  have closes : (⟨0, some '\''⟩ : Nesting).keep? '\'' = some outside := rfl
  rw [SettledChars, List.cons_append, List.foldlM_cons, opens, Option.bind_eq_bind,
    Option.bind_some, List.foldlM_append, held]
  simp [closes]

end SettledChars

theorem IsWord.settled {text : List Char} (word : IsWord text) : SettledChars text :=
  .of_literal fun c member => ⟨isLiteral_of_isWordChar (word c member), by
    rintro rfl
    cases word ';' member⟩

theorem IsCall.settled {text : List Char} (call : IsCall text) : SettledChars text := by
  obtain ⟨name, arguments, word, -, listed, rfl⟩ := call
  refine word.settled.append (SettledChars.parens (.of_literal fun c member => ?_))
  rcases listed c member with word | rfl
  · exact ⟨isLiteral_of_isWordChar word, by rintro rfl; cases word⟩
  · exact ⟨rfl, by decide⟩

theorem Settled.append {first second : String} (one : Settled first) (other : Settled second) :
    Settled (first ++ second) := by
  rw [Settled, String.toList_append]
  exact SettledChars.append one other

theorem SettledChars.intercalate {separator : List Char} (between : SettledChars separator)
    {texts : List (List Char)} (each : ∀ text ∈ texts, SettledChars text) :
    SettledChars (separator.intercalate texts) :=
  intercalate_closed .nil SettledChars.append between each

theorem settled_intercalate {separator : String} (between : Settled separator)
    {texts : List String} (each : ∀ text ∈ texts, Settled text) :
    Settled (String.intercalate separator texts) := by
  rw [Settled, String.toList_intercalate]
  exact SettledChars.intercalate between (List.forall_mem_map.mpr each)

/-- The text has one parenthesis open at its end. -/
def Opens (text : String) : Prop := text.toList.foldlM keep? outside = some ⟨1, none⟩

instance (text : String) : Decidable (Opens text) := inferInstanceAs (Decidable (_ = _))

theorem Opens.append {first second : String} (opens : Opens first) (settled : Settled second) :
    Opens (first ++ second) := by
  rw [Opens, String.toList_append, List.foldlM_append, opens]
  exact SettledChars.deeper settled 1

/-- The text closes the parenthesis that is open before it. -/
def Closes (text : String) : Prop := text.toList.foldlM keep? ⟨1, none⟩ = some outside

instance (text : String) : Decidable (Closes text) := inferInstanceAs (Decidable (_ = _))

theorem Opens.close {first second : String} (opens : Opens first) (closes : Closes second) :
    Settled (first ++ second) := by
  rw [Settled, SettledChars, String.toList_append, List.foldlM_append, opens]
  exact closes

/-! ### Settled bags -/

/-- The name is a word and the value is settled. -/
def Declaration.Settled (declaration : Declaration) : Prop :=
  IsWord declaration.1.toList ∧ Css.Settled declaration.2

theorem Declaration.Settled.of {name value : String} (word : IsWord name.toList)
    (settled : Css.Settled value) : Declaration.Settled (name, value) := ⟨word, settled⟩

namespace Declarations

/-- Every declaration of the bag is settled. -/
def Settled (bag : Declarations) : Prop := ∀ declaration ∈ bag.toList, declaration.Settled

theorem settled_empty : empty.Settled := nofun

theorem Settled.setAll {bag : Declarations} {declarations : List Declaration}
    (settled : bag.Settled) (each : ∀ declaration ∈ declarations, declaration.Settled) :
    (bag.setAll declarations).Settled := fun declaration member =>
  (mem_of_mem_setAll bag member).elim (settled declaration) (each declaration)

theorem settled_ofList {declarations : List Declaration}
    (each : ∀ declaration ∈ declarations, declaration.Settled) : (ofList declarations).Settled :=
  settled_empty.setAll each

theorem Settled.update {bag other : Declarations} (settled : bag.Settled)
    (others : other.Settled) : (bag.update other).Settled :=
  settled.setAll others

theorem Settled.set {bag : Declarations} {name value : String} (settled : bag.Settled)
    (declared : Declaration.Settled (name, value)) : (bag.set name value).Settled :=
  settled.setAll (List.forall_mem_singleton.mpr declared)

theorem Settled.filter {bag : Declarations} (settled : bag.Settled) (keep : String → Bool) :
    (bag.filter keep).Settled :=
  fun declaration member => settled declaration (List.mem_of_mem_filter member)

theorem Settled.get? {bag : Declarations} (settled : bag.Settled) {name value : String}
    (found : bag.get? name = some value) : Declaration.Settled (name, value) :=
  settled _ (get?_eq_some_iff.mp found)

theorem Settled.appendList {bag : Declarations} {name value separator : String}
    (settled : bag.Settled) (between : Css.Settled separator)
    (declared : Declaration.Settled (name, value)) :
    (bag.appendList name value separator).Settled := by
  unfold Declarations.appendList
  split
  next current found =>
    have before := settled.get? found
    split
    · exact settled.set declared
    · exact settled.set ⟨declared.1, (before.2.append between).append declared.2⟩
  · exact settled.set declared

end Declarations

/-! ### Reading back -/

private theorem declarationTexts_settled {text rest read : List Char} {nesting after : Nesting}
    (kept : text.foldlM keep? nesting = some after) :
    declarationTexts nesting read (text ++ rest) =
      declarationTexts after (text.reverse ++ read) rest := by
  induction text generalizing nesting read with
  | nil => cases kept; rfl
  | cons c text ih =>
    obtain ⟨free, kept⟩ := foldlM_keep?_cons.mp kept
    have goes : ¬ (c = ';' ∧ nesting = outside) := fun ends => free ⟨ends.2, .inl ends.1⟩
    rw [List.cons_append, declarationTexts, if_neg goes, ih kept]
    simp

private theorem declarationOfText_settled {declaration : Declaration}
    (settled : declaration.Settled) :
    declarationOfText (declaration.1.toList ++ ':' :: declaration.2.toList) = declaration := by
  have named : ∀ c ∈ declaration.1.toList, (c != ':') = true := by
    intro c member
    have word := settled.1 c member
    rw [bne_iff_ne]
    rintro rfl
    cases word
  rw [declarationOfText, List.takeWhile_append_of_pos named, List.dropWhile_append_of_pos named]
  simp

/-- A bag with settled values is read back from what it is written as. -/
theorem readDeclarations_serialize {bag : Declarations} (settled : bag.Settled) :
    readDeclarations bag.serialize = bag.toList := by
  have written : ∀ declarations : List Declaration,
      (∀ declaration ∈ declarations, declaration.Settled) →
      (declarationTexts outside [] (String.join
        (declarations.map Declarations.serializeDeclaration)).toList).map declarationOfText =
          declarations := by
    intro declarations each
    induction declarations with
    | nil => rfl
    | cons first rest ih =>
      obtain ⟨here, later⟩ := List.forall_mem_cons.mp each
      have colon : SettledChars [':'] := by decide
      -- Name, colon and value are one settled text, and the semicolon behind it ends it.
      have whole : SettledChars (first.1.toList ++ ':' :: first.2.toList) :=
        here.1.settled.append (colon.append here.2)
      have text : (String.join ((first :: rest).map Declarations.serializeDeclaration)).toList =
          (first.1.toList ++ ':' :: first.2.toList) ++
            ';' :: (String.join (rest.map Declarations.serializeDeclaration)).toList := by
        simp [Declarations.serializeDeclaration, String.join_cons]
      rw [text, declarationTexts_settled whole, declarationTexts, if_pos ⟨rfl, rfl⟩,
        List.map_cons, ih later, List.append_nil, List.reverse_reverse,
        declarationOfText_settled here]
  exact written bag.toList settled

/-! ### Parts of a settled list -/

/-- What is kept stands where every text does. -/
private theorem foldl_of_keep? {text : List Char} {nesting after : Nesting}
    (kept : text.foldlM keep? nesting = some after) : text.foldl next nesting = after := by
  induction text generalizing nesting with
  | nil =>
    cases kept
    rfl
  | cons c rest ih => exact ih (foldlM_keep?_cons.mp kept).2

/-- Blanks are kept everywhere. -/
private theorem keep?_blanks {space : List Char} {nesting : Nesting} (marked : nesting.Marked)
    (blank : Text.allBlank space = true) : space.foldlM keep? nesting = some nesting := by
  induction space with
  | nil => rfl
  | cons c rest ih =>
    obtain ⟨here, later⟩ := List.forall_mem_cons.mp (List.all_eq_true.mp blank)
    have apart : ¬ (nesting = outside ∧ (c = ';' ∨ c = ')')) := by
      rintro ⟨-, rfl | rfl⟩ <;> cases here
    refine foldlM_keep?_cons.mpr ⟨apart, ?_⟩
    rw [next_isBlank marked here]
    exact ih (List.all_eq_true.mpr later)

/-- What is trimmed off a settled text has opened nothing and closed nothing. -/
theorem SettledChars.trim {text : List Char} (settled : SettledChars text) :
    SettledChars (Text.trim text) := by
  obtain ⟨before, after, first, last, whole⟩ := Text.exists_trim text
  rw [SettledChars, whole, List.foldlM_append, keep?_blanks marked_outside first,
    Option.bind_eq_bind, Option.bind_some, List.foldlM_append] at settled
  obtain ⟨nesting, kept, behind⟩ := Option.bind_eq_some_iff.mp settled
  have marked : nesting.Marked := foldl_of_keep? kept ▸ marked_nestingAfter _
  rw [keep?_blanks marked last] at behind
  exact kept.trans behind

/-- The values of a settled list are settled. -/
theorem settled_of_mem_splitTopLevel {separator : Char} (ends : isLiteral separator = true)
    {text part : List Char} (settled : SettledChars text)
    (member : part ∈ splitTopLevel separator text) : SettledChars part := by
  have ended {current : List Char} (read : SettledChars current.reverse) (nesting : Nesting) :
      ∀ part ∈ (SplitState.at nesting current).part?, SettledChars part := by
    intro part found
    rw [part_at] at found
    split at found
    · cases found
    · cases found
      exact read.trim
  have parts : ∀ (text current : List Char) (nesting : Nesting),
      current.reverse.foldlM keep? outside = some nesting →
      text.foldlM keep? nesting = some outside →
      ∀ part ∈ splitFrom separator (.at nesting current) text, SettledChars part := by
    intro text
    induction text with
    | nil =>
      intro current nesting read rest part member
      cases rest
      exact ended read outside part (by simpa [splitFrom] using member)
    | cons c rest ih =>
      intro current nesting read kept part member
      obtain ⟨free, kept⟩ := foldlM_keep?_cons.mp kept
      rw [splitFrom_cons ends] at member
      split at member
      next stops =>
        -- Behind a separator the list is read from the start.
        obtain ⟨rfl, separates⟩ := stops
        have literal := isLiteral_of_isSeparator ends separates
        rw [outside, next_literal literal] at kept
        rcases List.mem_append.mp member with open_ | later
        · exact ended read outside part (by simpa using open_)
        · exact ih [] outside rfl kept part later
      next =>
        refine ih (c :: current) _ ?_ kept part member
        rw [List.reverse_cons, List.foldlM_append, read]
        exact foldlM_keep?_cons.mpr ⟨free, rfl⟩
  exact parts text [] outside rfl settled part member

end Artboard.Css
