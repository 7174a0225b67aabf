import Artboard.CommandLine.Options
import Artboard.Design.Reader
import Artboard.Document.Page
import Artboard.Json.Reader
import Artboard.Storage.Tree

/-!
# Jobs of the command

A job reads one composition and writes the files of its document into a
directory. Settings, arguments, logging level and input are looked at in this
order, and the first that fails stops the job. The directory is made before the
composition is drawn.
-/
namespace Artboard.CommandLine

open Storage

/-- Why a job stops. -/
inductive Stop where
  | settings (found : List Schema.Issue)
  | refused (cause : Refusal)
  | unknownLevel (name : String)
  | missingInput (path : Path)
  /-- The input is a root, beside which nothing can be named. -/
  | namelessInput (path : Path)
  | storage (fault : StorageFault)
  | unreadable (cause : Json.ReadError)
  /-- A text of the output cannot be encoded. -/
  | unencodable (cause : Text.EncodingError)
  | invalid (found : List Schema.Issue)
  | fault (cause : Fault)

namespace Stop

/-- What there is to say about it, for the causes that are told in one sentence. -/
def message? : Stop → Option String
  | unknownLevel name => some s!"Unknown level: {Text.quotedText name}"
  | missingInput path => some s!"Input JSON not found: {path.text}"
  | namelessInput path =>
    some s!"PosixPath({Text.quotedText path.text}) has an empty name"
  | storage found => some found.message
  | unreadable .malformed => none
  | unreadable cause => some cause.message
  | unencodable cause => some cause.message
  | fault cause => some cause.message
  | _ => none

def stepText : Schema.Step → String
  | .key name => name
  | .item index => toString index

/-- The places of issues in a document. -/
def placesText (found : List Schema.Issue) : String :=
  String.intercalate ", " (found.map fun issue =>
    String.intercalate "." (issue.path.map stepText))

def usage : String := "usage: artboard [-h] [-o OUTPUT] [--no-debug] [--log-level LEVEL] input"

/-- A sentence for every cause. -/
def description (stop : Stop) : String :=
  match stop with
  | settings found => s!"invalid settings: {placesText found}"
  | refused _ => usage
  | unreadable cause => cause.message
  | invalid found => s!"invalid composition: {placesText found}"
  | other => other.message?.getD ""

/-- Help that was asked for is no failure; misused arguments have a code of their own. -/
def exitCode : Stop → UInt32
  | refused .helpWanted => 0
  | refused .misused => 2
  | _ => 1

end Stop

def logLevels : List String :=
  ["CRITICAL", "FATAL", "ERROR", "WARN", "WARNING", "INFO", "DEBUG", "NOTSET"]

structure Job where
  settings : Settings
  input : Path
  output : Path

namespace Job

/-- The directory beside the input that has its name. -/
def besideInput (input : Path) : Path := input.withName (input.stem ++ "_html")

/-- The directory of the output, from the base; an empty name stands for none. -/
def outputFor (base input : Path) (output : Option String) : Except Stop Path :=
  let text := output.getD ""
  if !text.isEmpty then .ok (base.join (.ofText text))
  else if input.steps.isEmpty then .error (.namelessInput input)
  else .ok (besideInput input)

/-- The job that variables of the environment and arguments describe. -/
def ofArguments (base : Path) (environment : List (String × String)) (arguments : List String) :
    Except Stop Job :=
  match Settings.load [] environment with
  | .invalid issues => .error (.settings issues)
  | .valid settings =>
    match Options.ofArguments arguments with
    | .error cause => .error (.refused cause)
    | .ok options =>
      let level := Text.upperText (options.logLevel.getD settings.logLevel)
      if logLevels.contains level then
        let input := base.join (.ofText options.input)
        (outputFor base input options.output).map fun output =>
          { settings :=
              { settings with debugEnabled := settings.debugEnabled && !options.withoutOverlay }
            input
            output }
      else .error (.unknownLevel level)

/-- The composition in the text of the input. -/
def composition (text : String) : Except Stop (Composition Float) :=
  match Json.read text with
  | .error cause => .error (.unreadable cause)
  | .ok data =>
    match Design.composition data with
    | .valid composition => .ok composition
    | .invalid issues => .error (.invalid issues)

/-- The files of the output and their texts. -/
def files (job : Job) (composition : Composition Float) : Except Stop (List (Path × String)) :=
  match Document.render job.settings (fun _ => none) composition with
  | .ok document =>
    .ok ((document.files job.settings.debugEnabled).map fun file =>
      (job.output.child file.2.1, file.2.2))
  | .error cause => .error (.fault cause)

/-- What is printed in the end. -/
def report (job : Job) : String :=
  let page := job.output.child "index.html"
  s!"Rendered: {page.text}\n"

/-- Work on a tree; what was done before a stop remains. -/
abbrev OnTree := ExceptT Stop (StateM Tree)

def OnTree.change (step : Tree → Except StorageFault Tree) : OnTree Unit := do
  match step (← get) with
  | .ok tree => set tree
  | .error fault => throw (.storage fault)

/-- Writes a text; one that cannot be encoded leaves an empty file. -/
def OnTree.write (path : Path) (text : String) : OnTree Unit := do
  match Text.encodingError? text.toList with
  | none => OnTree.change fun tree => tree.write path text
  | some cause =>
    OnTree.change fun tree => tree.write path ""
    throw (.unencodable cause)

/-- Does a job on a tree. -/
def run (job : Job) : OnTree String := do
  let tree ← get
  match tree.holds job.input with
  | .error fault => throw (.storage fault)
  | .ok there => if !there then throw (.missingInput job.input)
  match tree.read job.input with
  | .error fault => throw (.storage fault)
  | .ok text =>
    match composition text with
    | .error stop => throw stop
    | .ok composition =>
      OnTree.change fun tree => tree.makeDirectory job.output
      match job.files composition with
      | .error stop => throw stop
      | .ok files =>
        files.forM fun file => OnTree.write file.1 file.2
        return job.report

end Job

/-- Runs the command on a tree. -/
def run (base : Path) (environment : List (String × String)) (arguments : List String) :
    Job.OnTree String := do
  match Job.ofArguments base environment arguments with
  | .error stop => throw stop
  | .ok job => job.run

end Artboard.CommandLine
