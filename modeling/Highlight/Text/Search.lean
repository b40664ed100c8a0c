/-!
# Searches of bytes

Some ends are looked for in the bytes of a text and not in its characters. How the bytes are
searched does not matter as long as the first occurrence is found, so a search is a value;
`firstOffset?` is the plain one.
-/

namespace Highlight

/-- A search of bytes: gives the offset of an occurrence of the first list in the second, if it
finds one. -/
abbrev ByteSearch := List UInt8 → List UInt8 → Option Nat

/-- Searches offset by offset, from the first one on. -/
def firstOffset? (pattern : List UInt8) : List UInt8 → Option Nat
  | [] => if pattern.isEmpty then some 0 else none
  | b :: bytes =>
    if pattern.isPrefixOf (b :: bytes) then some 0 else (firstOffset? pattern bytes).map (· + 1)

end Highlight
