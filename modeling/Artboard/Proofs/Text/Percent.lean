import Artboard.Text.Percent

/-!
# Reading percent encoding

Decoding gives the bytes of a text back. A percent sign with two hexadecimal digits
behind it is one byte, and every other character is the bytes of its own.
-/
namespace Artboard.Text

/-- The value of a hexadecimal digit, small or capital. -/
def hexValue? (c : Char) : Option Nat :=
  if c.isDigit then some (c.toNat - '0'.toNat)
  else if 'A' ≤ c ∧ c ≤ 'F' then some (c.toNat - 'A'.toNat + 10)
  else if 'a' ≤ c ∧ c ≤ 'f' then some (c.toNat - 'a'.toNat + 10)
  else none

/-- The byte that two hexadecimal digits stand for. -/
def byteOfDigits? (high low : Char) : Option UInt8 :=
  match hexValue? high, hexValue? low with
  | some sixteens, some ones => some (UInt8.ofNat (16 * sixteens + ones))
  | _, _ => none

/-- The bytes that a text stands for. A percent sign without two digits stands for itself. -/
def percentDecode : List Char → List UInt8
  | [] => []
  | '%' :: high :: low :: rest =>
    match byteOfDigits? high low with
    | some byte => byte :: percentDecode rest
    | none => String.utf8EncodeChar '%' ++ percentDecode (high :: low :: rest)
  | c :: rest => String.utf8EncodeChar c ++ percentDecode rest

/-- The text is a percent sign with the two digits of the byte. -/
private def isByteText (byte : UInt8) : List Char → Bool
  | ['%', high, low] => byteOfDigits? high low == some byte
  | _ => false

private theorem percentDecode_percentByte (byte : UInt8) (rest : List Char) :
    percentDecode (percentByte byte ++ rest) = byte :: percentDecode rest := by
  -- There are so few bytes that each of them is looked at.
  have all : ∀ code < 256,
      isByteText (UInt8.ofNat code) (percentByte (UInt8.ofNat code)) = true := by decide +kernel
  have spelled : isByteText byte (percentByte byte) = true := by
    simpa using all byte.toNat byte.toNat_lt
  revert spelled
  fun_cases isByteText byte (percentByte byte) with
  | case1 high low =>
    intro digits
    simp [percentDecode, eq_of_beq digits]
  | case2 => simp

private theorem percentDecode_bytes (bytes : List UInt8) (rest : List Char) :
    percentDecode (bytes.flatMap percentByte ++ rest) = bytes ++ percentDecode rest := by
  induction bytes with
  | nil => rfl
  | cons byte bytes ih =>
    rw [List.flatMap_cons, List.append_assoc, percentDecode_percentByte, ih, List.cons_append]

/-- An encoded text is decoded into the bytes of the text. -/
theorem percentDecode_percentEncode (text : List Char) :
    percentDecode (percentEncode text) = text.flatMap String.utf8EncodeChar := by
  induction text with
  | nil => rfl
  | cons c rest ih =>
    change percentDecode (percentChar c ++ percentEncode rest) = _
    rw [percentChar, List.flatMap_cons, ← ih]
    split
    next plain =>
      have other : c ≠ '%' := by
        rintro rfl
        cases plain
      simp [percentDecode, other]
    next => exact percentDecode_bytes _ _

/-- An encoded text has no character that could end a quoted text. -/
theorem isUnreserved_of_mem_percentEncode {text : List Char} {c : Char}
    (member : c ∈ percentEncode text) : isUnreserved c = true ∨ c = '%' := by
  have digits : ∀ code < 256, ((percentByte (UInt8.ofNat code)).all fun c =>
      isUnreserved c || c == '%') = true := by decide +kernel
  obtain ⟨own, -, member⟩ := List.mem_flatMap.mp member
  rw [percentChar] at member
  split at member
  next plain =>
    obtain rfl := List.mem_singleton.mp member
    exact .inl plain
  next =>
    obtain ⟨byte, -, member⟩ := List.mem_flatMap.mp member
    have known := List.all_eq_true.mp (digits byte.toNat byte.toNat_lt) c (by simpa using member)
    simpa using known

end Artboard.Text
