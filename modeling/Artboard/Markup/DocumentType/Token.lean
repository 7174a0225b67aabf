import Artboard.Markup.Lexical

/-!
# Tokens of a document type

A document type is read as tokens with gaps between them. Most tokens must be
followed by a gap or by a mark that cannot belong to them.
-/
namespace Artboard.Markup.DocumentType

/-- The words by what may stand where they stand. -/
inductive WordKind where
  | name
  | prefixed
  /-- A word that is no name, since it starts like the rest of one or has stray colons. -/
  | other
deriving DecidableEq

/-- The marks between the parts of a group. -/
inductive Connector where
  | sequence
  | choice
deriving DecidableEq

inductive Token where
  /-- The start of a declaration with its keyword. -/
  | declaration (keyword : String)
  | close
  | openSubset
  | closeSubset
  | openGroup
  /-- The end of a group with the sign that tells how often it occurs. -/
  | closeGroup (sign : Option Char)
  | connector (kind : Connector)
  | word (kind : WordKind) (text : String)
  /-- A name with a sign that tells how often it occurs. -/
  | counted (name : String)
  /-- A word after a number sign. -/
  | keyword (name : String)
  | literal (text : List Char)
  /-- A reference to a parameter. -/
  | parameter
  | percent
  /-- A comment or an instruction. -/
  | remark

/-- A gap or one of some marks follows. -/
def isFollowedBy (marks : String) (text : Rest) : Bool :=
  match text with
  | c :: _ => isGap c || marks.toList.contains c
  | [] => false

def guardFollowed (marks : String) (token : Token) (rest : Rest) : Option (Token × Rest) :=
  if isFollowedBy marks rest then some (token, rest) else none

def wordKind (text : List Char) : WordKind :=
  if (text.head?.map isNameStart).getD false then
    match text.count ':' with
    | 0 => .name
    | 1 => if text.getLast? = some ':' then .other else .prefixed
    | _ => .other
  else .other

def occurrenceSigns : List Char := ['?', '*', '+']

/-- A word, with the sign after it. -/
def word (text : Rest) : Option (Token × Rest) :=
  let found := text.takeWhile fun c => isNameChar c || c == ':'
  let rest := text.drop found.length
  let kind := wordKind found
  if found.isEmpty then none
  else
    match rest with
    | c :: after =>
      if occurrenceSigns.contains c then
        if kind = .other then none else some (.counted (String.ofList found), after)
      else guardFollowed ">),|[%" (.word kind (String.ofList found)) rest
    | [] => none

/-- A text between quotes, from behind the opening one. -/
def literal (quote : Char) (text : Rest) : Option (Token × Rest) :=
  let found := text.takeWhile (· != quote)
  if found.all isDocumentChar then
    guardFollowed ">%[" (.literal found) (text.drop (found.length + 1))
  else none

def closeGroup (text : Rest) : Option (Token × Rest) :=
  match text with
  | c :: rest =>
    if occurrenceSigns.contains c then some (.closeGroup (some c), rest)
    else guardFollowed ">,|)" (.closeGroup none) text
  | [] => none

/-- A reference to a parameter, or the sign alone, from behind the sign. -/
def parameter (text : Rest) : Option (Token × Rest) :=
  match simpleName text with
  | some (_, rest) => (after? ";" rest).map fun rest => (.parameter, rest)
  | none => guardFollowed "%" .percent text

/-- The start of a declaration from behind the exclamation mark. -/
def declaration (text : Rest) : Option (Token × Rest) :=
  let found := text.takeWhile fun c => c.isAlpha || c == '_'
  if found.isEmpty then none
  else guardFollowed "" (.declaration (String.ofList found)) (text.drop found.length)

/-- The token that a text starts with. -/
def token? (text : Rest) : Option (Token × Rest) :=
  match text with
  | '"' :: rest => literal '"' rest
  | '\'' :: rest => literal '\'' rest
  | '<' :: '!' :: '-' :: _ => (skipRemark text).map fun rest => (.remark, rest)
  | '<' :: '?' :: _ => (skipRemark text).map fun rest => (.remark, rest)
  | '<' :: '!' :: rest => declaration rest
  | '>' :: rest => some (.close, rest)
  | '[' :: rest => some (.openSubset, rest)
  | ']' :: ']' :: '>' :: _ => none
  | ']' :: rest => some (.closeSubset, rest)
  | '(' :: rest => some (.openGroup, rest)
  | ')' :: rest => closeGroup rest
  | ',' :: rest => some (.connector .sequence, rest)
  | '|' :: rest => some (.connector .choice, rest)
  | '#' :: rest => do
    let (name, rest) ← simpleName rest
    guardFollowed ")>%|" (.keyword (String.ofList name)) rest
  | '%' :: rest => parameter rest
  | _ => word text

/-- The tokens up to the bracket that closes the document type; brackets of declarations within the
subset do not count. -/
def tokens : Nat → Bool → Rest → Option (List Token × Rest)
  | 0, _, _ => none
  | fuel + 1, inSubset, text => do
    let (token, rest) ← token? (skipGaps text)
    let more (inSubset : Bool) : Option (List Token × Rest) :=
      (tokens fuel inSubset rest).map fun (more, rest) => (token :: more, rest)
    match token with
    | .close => if inSubset then more true else some ([.close], rest)
    | .openSubset => more true
    | .closeSubset => more false
    | _ => more inSubset

end Artboard.Markup.DocumentType
