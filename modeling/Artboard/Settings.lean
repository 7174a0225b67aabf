import Artboard.Schema.Field

/-!
# Settings

What shapes the markup and the stylesheets. A setting is given by name, else by a
variable of the environment, else it has its default.
-/
namespace Artboard

structure Settings where
  /-- How often a pattern of declarations must occur before it becomes a shared class. -/
  sharedClassThreshold : Int
  /-- The selector in front of the rules of shared classes. -/
  classScope : String
  /-- Pixels around the viewport, so that outlines at the edges stay visible. -/
  outlinePadding : Int
  debugEnabled : Bool
  imageUrlTemplate : String
  svgUrlTemplate : String
  logLevel : String

namespace Settings

open Schema

def default : Settings where
  sharedClassThreshold := 2
  classScope := "[data-design-render]"
  outlinePadding := 4
  debugEnabled := true
  imageUrlTemplate := "images/\x7bimage_id\x7d.png"
  svgUrlTemplate := "svgs/\x7bsvg_file\x7d"
  logLevel := "WARNING"

instance : Inhabited Settings := ⟨default⟩

def names : List String :=
  ["shared_class_threshold", "class_scope", "outline_padding", "debug_enabled",
   "image_url_template", "svg_url_template", "log_level"]

/-- Variables of the environment that hold settings start with this word, in any case. -/
def variablePrefix : List Char := "designrender_".toList

/-- The settings among the variables of the environment; of two spellings the later one holds. -/
def ofEnvironment (environment : List (String × String)) : Members :=
  (environment.reverse.filterMap fun (name, value) =>
    let name := Text.lower name.toList
    if variablePrefix.isPrefixOf name then
      some (String.ofList (name.drop variablePrefix.length), Json.string value)
    else none)

def setting {β : Type} (members : Members) (name : String) (read : Json → Checked β)
    (default : β) : Checked β :=
  match members.lookup name with
  | some value => (read value).below (.key name)
  | none => .valid default

/-- An integer that is not below a minimum. -/
def atLeast (minimum : Int) (json : Json) : Checked Int :=
  (int json).andThen fun value => if value < minimum then .fail .belowMinimum else .valid value

/-- Settings by name; a name that occurs twice has its first value. -/
def read (members : Members) : Checked Settings :=
  Settings.mk
    <$> setting members "shared_class_threshold" (atLeast 2) default.sharedClassThreshold
    <*> setting members "class_scope" string default.classScope
    <*> setting members "outline_padding" (atLeast 0) default.outlinePadding
    <*> setting members "debug_enabled" bool default.debugEnabled
    <*> setting members "image_url_template" string default.imageUrlTemplate
    <*> setting members "svg_url_template" string default.svgUrlTemplate
    <*> setting members "log_level" string default.logLevel

/-- Given settings win over those of the environment. -/
def load (given : Members) (environment : List (String × String)) : Checked Settings :=
  read (given ++ ofEnvironment environment)

end Settings

end Artboard
