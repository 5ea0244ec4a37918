-- SUMMARY: The content of a file as characters and bytes that belong to no character.

/-!
# Symbols of a file

A file should be UTF-8 text and need not be. A symbol is a character, or `none`
for a byte that belongs to no character, so that a reader can tell where in a
document the ill-formed bytes stand.
-/

namespace DexTrail

/-- A character of a file, or `none` for a byte that belongs to none. -/
abbrev Symbol := Option Char

/-- The symbols from a byte position on. -/
def symbolsFrom (bytes : ByteArray) (i : Nat) : List Symbol :=
  if i < bytes.size then
    match bytes.utf8DecodeChar? i with
    | some c => some c :: symbolsFrom bytes (i + c.utf8Size)
    | none => none :: symbolsFrom bytes (i + 1)
  else []
termination_by bytes.size - i
decreasing_by
  · have := c.utf8Size_pos
    omega
  · omega

/-- The symbols of a file. -/
def symbols (bytes : ByteArray) : List Symbol :=
  match String.fromUTF8? bytes with
  | some text => text.toList.map some
  | none => symbolsFrom bytes 0

/-- The symbols of written text are its characters. -/
theorem symbols_toUTF8 (s : String) : symbols s.toUTF8 = s.toList.map some := by
  have h : String.fromUTF8? s.toUTF8 = some s := by
    exact dif_pos s.isValidUTF8
  rw [symbols, h]

end DexTrail
