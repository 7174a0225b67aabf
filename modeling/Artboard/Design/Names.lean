import Artboard.Design.Node

/-!
# Written names

The words that a document uses for the members of each set of choices.
-/
namespace Artboard

def LayoutMode.names : List (String × LayoutMode) :=
  [("NONE", .none), ("HORIZONTAL", .horizontal), ("VERTICAL", .vertical)]

def AxisAlign.names : List (String × AxisAlign) :=
  [("MIN", .min), ("CENTER", .center), ("MAX", .max), ("SPACE_BETWEEN", .spaceBetween),
   ("BASELINE", .baseline), ("STRETCH", .stretch)]

def LayoutAlign.names : List (String × LayoutAlign) :=
  [("INHERIT", .inherit), ("MIN", .min), ("CENTER", .center), ("MAX", .max), ("STRETCH", .stretch)]

def wrapNames : List (String × Bool) := [("NO_WRAP", false), ("WRAP", true)]

def sizingNames : List (String × Bool) := [("FIXED", false), ("AUTO", true)]

def positioningNames : List (String × Bool) := [("AUTO", false), ("ABSOLUTE", true)]

def StrokeAlign.names : List (String × StrokeAlign) :=
  [("INSIDE", .inside), ("CENTER", .center), ("OUTSIDE", .outside)]

def ScaleMode.names : List (String × ScaleMode) :=
  [("FILL", .fill), ("FIT", .fit), ("CROP", .crop), ("TILE", .tile), ("STRETCH", .stretch)]

def EffectKind.names : List (String × EffectKind) :=
  [("LAYER_BLUR", .layerBlur), ("BACKGROUND_BLUR", .backgroundBlur), ("DROP_SHADOW", .dropShadow),
   ("INNER_SHADOW", .innerShadow)]

def GradientKind.names : List (String × GradientKind) :=
  [("GRADIENT_LINEAR", .linear), ("GRADIENT_RADIAL", .radial), ("GRADIENT_ANGULAR", .angular),
   ("GRADIENT_DIAMOND", .diamond)]

def SpacingUnit.names : List (String × SpacingUnit) := [("PIXELS", .pixels), ("PERCENT", .percent)]

def LineHeightUnit.names : List (String × LineHeightUnit) :=
  [("PIXELS", .pixels), ("PERCENT", .percent), ("AUTO", .auto)]

/-- The word for a member of a set of choices. -/
def nameIn {β : Type} [BEq β] (table : List (String × β)) (value : β) : String :=
  ((table.find? fun entry => entry.2 == value).map Prod.fst).getD ""

end Artboard
