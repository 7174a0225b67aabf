/-!
# Half characters

Structured data may hold one half of a surrogate pair, which is no character.
Such a half is kept as a character of a private plane that is set aside for it.
Texts that hold one can be compared and shown, but not encoded.

The characters set aside, from U+10D800 to U+10DFFF, are private ones that a text may
hold itself. There they are taken for halves: such a text is read and compared as
it is, but it counts as one that cannot be encoded.
-/
namespace Artboard.Text

/-- The distance from a half to the character set aside for it. -/
def surrogateOffset : Nat := 0x100000

/-- A code unit that is half of a pair. -/
def isSurrogateUnit (unit : Nat) : Bool := decide (0xD800 ≤ unit) && decide (unit < 0xE000)

def ofSurrogateUnit (unit : Nat) : Char := Char.ofNat (surrogateOffset + unit)

/-- The half that a character stands for. -/
def surrogateUnit? (c : Char) : Option Nat :=
  let unit := c.toNat - surrogateOffset
  if isSurrogateUnit unit then some unit else none

def isSurrogate (c : Char) : Bool := (surrogateUnit? c).isSome

theorem surrogateUnit?_ofSurrogateUnit (unit : Nat) (half : isSurrogateUnit unit = true) :
    surrogateUnit? (ofSurrogateUnit unit) = some unit := by
  have bounds : 0xD800 ≤ unit ∧ unit < 0xE000 := by simpa [isSurrogateUnit] using half
  have valid : (surrogateOffset + unit).isValidChar := Or.inr (by simp only [surrogateOffset]; omega)
  have code : (ofSurrogateUnit unit).toNat = surrogateOffset + unit := by
    rw [ofSurrogateUnit, Char.ofNat, dif_pos valid]
    rfl
  simp [surrogateUnit?, code, half]

/-- A text is made of whole characters. -/
def isWhole (text : String) : Bool := !text.toList.any isSurrogate

/-- The first halves in a text that cannot be encoded, by their positions. -/
structure EncodingError where
  unit : Nat
  first : Nat
  last : Nat
deriving DecidableEq, Repr

def EncodingError.message (error : EncodingError) : String :=
  if error.first = error.last then
    let unit := String.ofList (Nat.toDigits 16 error.unit)
    s!"'utf-8' codec can't encode character '\\u{unit}' in position {error.first}: " ++
      "surrogates not allowed"
  else
    s!"'utf-8' codec can't encode characters in position {error.first}-{error.last}: " ++
      "surrogates not allowed"

def encodingError? (text : List Char) : Option EncodingError :=
  let start := text.takeWhile fun c => !isSurrogate c
  let rest := text.drop start.length
  (rest.head?.bind surrogateUnit?).map fun unit =>
    { unit, first := start.length, last := start.length + (rest.takeWhile isSurrogate).length - 1 }

end Artboard.Text
