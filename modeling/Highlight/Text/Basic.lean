/-!
# Texts and byte offsets

A text is a list of characters. Positions in it are counted in bytes of its UTF-8 form, so a
position may fall inside a character; `Text.from?` tells those positions from the boundaries, and
`Text.slice?` cuts a text at boundaries only.

Main facts:

* `Text.size_append`: sizes add up along concatenation.
* `Text.from?_append`: the text from a boundary behind `s` on is found by looking behind `s` only.
-/

namespace Highlight

/-- A text, as the list of its characters. -/
abbrev Text := List Char

namespace Text

/-- The number of bytes of the UTF-8 form of a text. -/
def size (t : Text) : Nat := t.foldr (fun c n => c.utf8Size + n) 0

/-- The bytes of the UTF-8 form of a text. -/
def bytes (t : Text) : List UInt8 := t.flatMap String.utf8EncodeChar

/-- The text from byte `n` on, if a character starts there or the text ends there. -/
def from? : Text → Nat → Option Text
  | t, 0 => some t
  | [], _ + 1 => none
  | c :: t, n + 1 => if c.utf8Size ≤ n + 1 then from? t (n + 1 - c.utf8Size) else none

/-- The text between two byte offsets, if both are boundaries and they are in order. -/
def slice? (t : Text) (start stop : Nat) : Option Text :=
  match t.from? start, t.from? stop with
  | some rest, some behind =>
    if start ≤ stop then some (rest.take (rest.length - behind.length)) else none
  | _, _ => none

/-- The characters of a text, each with the offset where it begins if the text begins at `n`. -/
def indexedFrom (n : Nat) : Text → List (Nat × Char)
  | [] => []
  | c :: t => (n, c) :: indexedFrom (n + c.utf8Size) t

/-- The characters of a text, each with the byte offset where it begins. -/
def indexed (t : Text) : List (Nat × Char) := indexedFrom 0 t

/-- Divides a text behind the whole characters that fit in its first `n` bytes. -/
def divide : Text → Nat → Text × Text
  | [], _ => ([], [])
  | c :: t, n =>
    if c.utf8Size ≤ n then
      let (front, back) := divide t (n - c.utf8Size)
      (c :: front, back)
    else ([], c :: t)

/-- The decimal numeral of `n`. -/
def decimal (n : Nat) : Text := Nat.toDigits 10 n

/-- The text that some bytes spell in UTF-8, if they spell one. -/
def decode? (bytes : ByteArray) : Option Text := (String.fromUTF8? bytes).map String.toList

/-- The UTF-8 form of a text. -/
def encode (t : Text) : ByteArray := (String.ofList t).toUTF8

@[simp] theorem size_nil : size [] = 0 := rfl

@[simp] theorem size_cons (c : Char) (t : Text) : size (c :: t) = c.utf8Size + size t := rfl

@[simp] theorem size_append (s t : Text) : size (s ++ t) = size s + size t := by
  induction s with
  | nil => simp
  | cons c s ih => rw [List.cons_append, size_cons, size_cons, ih, Nat.add_assoc]

/-- Only the empty text has no bytes. -/
theorem size_eq_zero {t : Text} : size t = 0 ↔ t = [] := by
  cases t with
  | nil => simp
  | cons c t => simpa using fun h => absurd h (Nat.ne_of_gt c.utf8Size_pos)

@[simp] theorem from?_zero (t : Text) : t.from? 0 = some t := by
  cases t <;> rfl

/-- Behind its first character a text is looked at as if it began there. -/
theorem from?_cons (c : Char) (t : Text) (n : Nat) :
    from? (c :: t) (c.utf8Size + n) = t.from? n := by
  obtain ⟨k, hk⟩ : ∃ k, c.utf8Size + n = k + 1 := ⟨c.utf8Size + n - 1, by
    have := c.utf8Size_pos
    omega⟩
  rw [hk, from?, if_pos (by omega), show k + 1 - c.utf8Size = n by omega]

/-- What stands before a boundary does not matter behind it. -/
theorem from?_append (s t : Text) (n : Nat) : from? (s ++ t) (size s + n) = t.from? n := by
  induction s with
  | nil => simp
  | cons c s ih => rw [size_cons, Nat.add_assoc, List.cons_append, from?_cons, ih]

end Text

end Highlight
