import Artboard.Text.DecimalDigit

/-!
# Arguments of the command

An argument is a word or a flag. The value of a flag follows it as a word or is
attached to it, and the name of a long flag may be cut short as long as it fits
only one. After a lone double hyphen all arguments are words.
-/
namespace Artboard.CommandLine

inductive Flag where
  | help
  | output
  | withoutOverlay
  | logLevel
deriving DecidableEq, Repr

namespace Flag

def takesValue : Flag → Bool
  | output => true
  | logLevel => true
  | _ => false

def longNames : List (String × Flag) :=
  [("--help", help), ("--output", output), ("--no-debug", withoutOverlay),
   ("--log-level", logLevel)]

def shortNames : List (String × Flag) := [("-h", help), ("-o", output)]

def ofName? (name : String) : Option Flag := (shortNames ++ longNames).lookup name

end Flag

inductive Token where
  | word (text : String)
  | flag (flag : Flag) (attached : Option String)
  /-- The flag for help with further short flags behind it. -/
  | helpCluster (letters : List Char)
  | separator
  | unknown
  | ambiguous
deriving DecidableEq, Repr

/-- An optional fraction after digits. -/
def isFraction (text : List Char) : Bool :=
  match text with
  | '.' :: digits => !digits.isEmpty && digits.all Text.isDecimalDigit
  | _ => false

/-- A number with a minus sign is a word. -/
def isNegativeNumber (text : List Char) : Bool :=
  match text with
  | '-' :: rest =>
    let fraction := rest.dropWhile Text.isDecimalDigit
    (fraction.isEmpty && !rest.isEmpty) || isFraction fraction
  | _ => false

/-- What precedes the first equals sign, and what follows it. -/
def splitAttached (text : List Char) : String × Option String :=
  match text.dropWhile (· != '=') with
  | _ :: value => (String.ofList (text.takeWhile (· != '=')), some (String.ofList value))
  | [] => (String.ofList text, none)

/-- The long flags whose names start with a text. -/
def longFlags (start : String) : List Flag :=
  (Flag.longNames.filter fun entry => start.toList.isPrefixOf entry.1.toList).map Prod.snd

namespace Token

/-- Text that starts with a hyphen and is no flag. -/
def ofOther (text : List Char) : Token :=
  if isNegativeNumber text || text.contains ' ' then .word (String.ofList text) else .unknown

/-- A flag whose name is not written out. -/
def ofPartial (text : List Char) : Token :=
  match text with
  | '-' :: '-' :: _ =>
    let (name, attached) := splitAttached text
    match longFlags name with
    | [] => ofOther text
    | [found] => .flag found attached
    | _ => .ambiguous
  | first :: second :: value =>
    match Flag.shortNames.lookup (String.ofList [first, second]) with
    | some .help => .helpCluster value
    | some found => .flag found (some (String.ofList value))
    | none => ofOther text
  | _ => ofOther text

def ofArgument (argument : String) : Token :=
  let text := argument.toList
  if text.head? ≠ some '-' ∨ text = ['-'] then .word argument
  else
    match Flag.ofName? argument, splitAttached text with
    | some found, _ => .flag found none
    | none, (name, some value) =>
      match Flag.ofName? name with
      | some found => .flag found (some value)
      | none => ofPartial text
    | none, (_, none) => ofPartial text

def ofArguments : List String → List Token
  | [] => []
  | argument :: rest =>
    if argument = "--" then .separator :: rest.map .word
    else ofArgument argument :: ofArguments rest

end Token

structure Options where
  input : String
  output : Option String
  withoutOverlay : Bool
  logLevel : Option String
deriving DecidableEq, Repr

/-- Why the arguments give no options. -/
inductive Refusal where
  | helpWanted
  | misused
deriving DecidableEq, Repr

/-- Options before the input is known; `excess` tells that an argument has no use. -/
structure Draft where
  input : Option String
  output : Option String
  withoutOverlay : Bool
  logLevel : Option String
  excess : Bool

/-- What short flags behind the flag for help lead to. Help wins unless they are misused: no flag
has a hyphen in its name or a value behind help, and a value must come after `o`. -/
def refusalOfCluster (valueFollows : Bool) : List Char → Refusal
  | [] => .helpWanted
  | '-' :: _ => .misused
  | 'h' :: '=' :: _ => .misused
  | 'h' :: rest => refusalOfCluster valueFollows rest
  | ['o'] => if valueFollows then .helpWanted else .misused
  | _ => .helpWanted

def startsWithWord : List Token → Bool
  | .word _ :: _ => true
  | _ => false

namespace Draft

def empty : Draft := ⟨none, none, false, none, false⟩

def setValue (draft : Draft) (flag : Flag) (value : String) : Draft :=
  match flag with
  | .output => { draft with output := some value }
  | .logLevel => { draft with logLevel := some value }
  | _ => draft

/-- The first word is the input. -/
def addWord (draft : Draft) (text : String) : Draft :=
  match draft.input with
  | none => { draft with input := some text }
  | some _ => { draft with excess := true }

def finish (draft : Draft) : Except Refusal Options :=
  match draft.input, draft.excess with
  | some input, false =>
    .ok { input, output := draft.output, withoutOverlay := draft.withoutOverlay
          logLevel := draft.logLevel }
  | _, _ => .error .misused

/-- Reads tokens; a separator has its place before the input or right after it. -/
def read (draft : Draft) : List Token → Except Refusal Options
  | [] => draft.finish
  | .word text :: .separator :: rest => read (draft.addWord text) rest
  | .word text :: rest => read (draft.addWord text) rest
  | .separator :: rest => read { draft with excess := draft.excess || draft.input.isSome } rest
  | .unknown :: rest => read { draft with excess := true } rest
  | .ambiguous :: _ => .error .misused
  | .flag flag (some value) :: rest =>
    if flag.takesValue then read (draft.setValue flag value) rest else .error .misused
  | .flag .help none :: _ => .error .helpWanted
  | .helpCluster letters :: rest => .error (refusalOfCluster (startsWithWord rest) letters)
  | .flag .withoutOverlay none :: rest => read { draft with withoutOverlay := true } rest
  | .flag flag none :: .word value :: rest => read (draft.setValue flag value) rest
  | .flag _ none :: _ => .error .misused

end Draft

/-- The options that arguments give. -/
def Options.ofArguments (arguments : List String) : Except Refusal Options :=
  let tokens := Token.ofArguments arguments
  if tokens.contains .ambiguous then .error .misused else Draft.empty.read tokens

end Artboard.CommandLine
