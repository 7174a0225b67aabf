/-!
# Fixed stylesheets

The rules that every page has, and the rules of the overlay. They are kept as
rules and written with one declaration a line.
-/
namespace Artboard.Document

structure SheetRule where
  selectors : List String
  declarations : List (String × String)

def SheetRule.text (rule : SheetRule) : String :=
  String.intercalate ",\n" rule.selectors ++ " \x7b\n" ++
    String.join (rule.declarations.map fun entry => s!"  {entry.1}: {entry.2};\n") ++ "\x7d\n"

def sheetText (rules : List SheetRule) : String :=
  String.intercalate "\n" (rules.map SheetRule.text)

/-- The shell around a composition, and what all boxes of a kind have in common. -/
def baseRules : List SheetRule :=
  [⟨["html", "body"], [("margin", "0"), ("padding", "0")]⟩,
   ⟨[".viewport"], [("position", "relative"), ("overflow", "hidden")]⟩,
   ⟨[".view-offset"], [("position", "absolute")]⟩,
   ⟨[".composition"], [("position", "relative")]⟩,
   ⟨[".content-layer"], [("position", "absolute"), ("left", "0"), ("top", "0")]⟩,
   ⟨[".frame", ".shape", ".text", ".svg-container", ".mask-container", ".has-wrapper"],
    [("box-sizing", "content-box"), ("margin", "0")]⟩,
   ⟨[".text"], [("word-break", "break-word")]⟩,
   ⟨[".text span"], [("font-kerning", "normal")]⟩,
   ⟨[".svg-container > svg", ".svg-container > img"],
    [("display", "block"), ("width", "100%"), ("height", "100%"), ("overflow", "visible")]⟩]

/-- The outlines of the overlay. -/
def overlayRules : List SheetRule :=
  [⟨[":root"],
    [("--dr-scale", "1"), ("--dr-outline", "rgba(255, 0, 128, 0.85)"),
     ("--dr-svg-stroke", "rgba(0, 128, 255, 0.85)")]⟩,
   ⟨[".debug-box", ".debug-svg"],
    [("outline", "calc(1px / var(--dr-scale)) solid var(--dr-outline)"),
     ("outline-offset", "calc(-1px / var(--dr-scale))"), ("background", "transparent"),
     ("color", "transparent")]⟩,
   ⟨[".debug-svg"], [("outline-style", "dashed")]⟩,
   ⟨[".debug-svg > svg"],
    [("display", "block"), ("width", "100%"), ("height", "100%"), ("overflow", "visible")]⟩,
   ⟨[".debug-box.has-wrapper"], [("outline", "none"), ("pointer-events", "none")]⟩,
   ⟨[".debug-box.has-wrapper > .debug-box"], [("pointer-events", "auto")]⟩]

def baseSheet : String := sheetText baseRules

def overlaySheet : String := sheetText overlayRules

end Artboard.Document
