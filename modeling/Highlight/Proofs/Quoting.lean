import Highlight.Proofs.Boundary
import Highlight.Text.Quoted

/-!
# Reading quoted texts back

A quoted text is read one character at a time, with a state that says what the characters before
have begun. `unquote_quoted` says that reading undoes quoting, whatever characters are spelled by
their number, and `not_mem_quoted` that a quoted text is one line.
-/

namespace Highlight.Text

/-- What the characters read so far have begun. -/
inductive QuoteState where
  | plain
  /-- Behind a backslash. -/
  | escape
  /-- Behind a backslash and a `u`. -/
  | brace
  /-- Within the braces of a number. -/
  | number (n : Nat)

/-- The character that is spelled by a backslash and another one. -/
def unspell? : Char → Option Char
  | '0' => some '\x00'
  | 't' => some '\t'
  | 'r' => some '\r'
  | 'n' => some '\n'
  | '\\' => some '\\'
  | '"' => some '"'
  | _ => none

/-- The value of a hexadecimal digit. -/
def hexValue? (c : Char) : Option Nat :=
  if c.isDigit then some (c.toNat - '0'.toNat)
  else if 'a' ≤ c ∧ c ≤ 'f' then some (c.toNat - 'a'.toNat + 10)
  else none

/-- Reads a quoted text up to the quote that closes it, which has to be the last character. -/
def unquoteFrom : QuoteState → Text → Option Text
  | _, [] => none
  | .plain, c :: t =>
    if c = '"' then if t.isEmpty then some [] else none
    else if c = '\\' then unquoteFrom .escape t
    else (unquoteFrom .plain t).map (c :: ·)
  | .escape, c :: t =>
    if c = 'u' then unquoteFrom .brace t
    else (unspell? c).bind fun d => (unquoteFrom .plain t).map (d :: ·)
  | .brace, c :: t => if c = '\x7b' then unquoteFrom (.number 0) t else none
  | .number n, c :: t =>
    if c = '\x7d' then
      if n.isValidChar then (unquoteFrom .plain t).map (Char.ofNat n :: ·) else none
    else (hexValue? c).bind fun d => unquoteFrom (.number (16 * n + d)) t

/-- The text that stands quoted. -/
def unquote : Text → Option Text
  | '"' :: t => unquoteFrom .plain t
  | _ => none

/-! ### Hexadecimal numbers -/

/-- A hexadecimal digit is read back. -/
lemma hexValue?_digitChar : ∀ d < 16, hexValue? d.digitChar = some d := by decide

/-- A hexadecimal digit neither closes a number nor ends a line. -/
lemma digitChar_ne : ∀ d < 16, d.digitChar ≠ '\x7d' ∧ d.digitChar ≠ '\n' := by decide

/-- A digit is put behind the number read so far. -/
lemma unquoteFrom_digitChar {d : Nat} (lt : d < 16) (n : Nat) (t : Text) :
    unquoteFrom (.number n) (d.digitChar :: t) = unquoteFrom (.number (16 * n + d)) t := by
  rw [unquoteFrom, if_neg (digitChar_ne d lt).1, hexValue?_digitChar d lt, Option.bind_some]

/-- The digits of a number add up to it. -/
lemma unquoteFrom_toDigits (n : Nat) (t : Text) :
    unquoteFrom (.number 0) (Nat.toDigits 16 n ++ t) = unquoteFrom (.number n) t := by
  induction n using Nat.strongRecOn generalizing t with
  | ind n ih =>
    by_cases small : n < 16
    · rw [Nat.toDigits_of_lt_base small, List.singleton_append, unquoteFrom_digitChar small,
        Nat.mul_zero, Nat.zero_add]
    · have lt : n / 16 < n := by omega
      have last : n % 16 < 16 := by omega
      have sum : 16 * (n / 16) + n % 16 = n := by omega
      rw [Nat.toDigits_of_base_le (by decide) (by omega), List.append_assoc, ih (n / 16) lt,
        List.singleton_append, unquoteFrom_digitChar last, sum]

/-- A hexadecimal number stands on one line. -/
lemma not_mem_toDigits (n : Nat) : '\n' ∉ Nat.toDigits 16 n := by
  induction n using Nat.strongRecOn with
  | ind n ih =>
    by_cases small : n < 16
    · rw [Nat.toDigits_of_lt_base small, List.mem_singleton]
      exact (digitChar_ne n small).2.symm
    · rw [Nat.toDigits_of_base_le (by decide) (by omega), List.mem_append, List.mem_singleton]
      rintro (mem | e)
      · exact ih (n / 16) (by omega) mem
      · exact (digitChar_ne (n % 16) (by omega)).2 e.symm

/-! ### Quoted texts -/

/-- The ways in which a character is spelled. -/
lemma spell_cases (c : Char) :
    (∃ d, spell c = ['\\', d] ∧ unspell? d = some c ∧ d ≠ 'u' ∧ d ≠ '\n') ∨
      spell c = ['\\', 'u', '\x7b'] ++ Nat.toDigits 16 c.toNat ++ ['\x7d'] ∨
      spell c = [c] ∧ c ≠ '"' ∧ c ≠ '\\' ∧ c ≠ '\n' := by
  unfold spell
  split
  · exact .inl ⟨_, rfl, rfl, by decide, by decide⟩
  · exact .inl ⟨_, rfl, rfl, by decide, by decide⟩
  · exact .inl ⟨_, rfl, rfl, by decide, by decide⟩
  · exact .inl ⟨_, rfl, rfl, by decide, by decide⟩
  · exact .inl ⟨_, rfl, rfl, by decide, by decide⟩
  · exact .inl ⟨_, rfl, rfl, by decide, by decide⟩
  · next newline backslash quote =>
    split
    · exact .inr (.inl rfl)
    · exact .inr (.inr ⟨rfl, quote, backslash, newline⟩)

/-- A spelled character is read as that character. -/
lemma unquoteFrom_spell (c : Char) (t : Text) :
    unquoteFrom .plain (spell c ++ t) = (unquoteFrom .plain t).map (c :: ·) := by
  rcases spell_cases c with ⟨d, e, unspelled, ne, -⟩ | e | ⟨e, quote, backslash, -⟩
  · rw [e]
    show unquoteFrom .escape (d :: t) = _
    rw [unquoteFrom, if_neg ne, unspelled, Option.bind_some]
  · have valid : c.toNat.isValidChar := c.valid
    rw [e]
    show unquoteFrom (.number 0) (Nat.toDigits 16 c.toNat ++ ['\x7d'] ++ t) = _
    rw [List.append_assoc, unquoteFrom_toDigits, List.singleton_append, unquoteFrom, if_pos rfl,
      if_pos valid, Char.ofNat_toNat]
  · rw [e, List.singleton_append, unquoteFrom, if_neg quote, if_neg backslash]

/-- A quoted text is read back. -/
lemma unquote_quoted (t : Text) : unquote t.quoted = some t := by
  show unquoteFrom .plain (t.flatMap spell ++ ['"']) = some t
  induction t with
  | nil => rfl
  | cons c t ih => rw [List.flatMap_cons, List.append_assoc, unquoteFrom_spell, ih, Option.map_some]

/-- A quoted text is one line. -/
lemma not_mem_quoted (t : Text) : '\n' ∉ t.quoted := by
  have spelled : ∀ c, '\n' ∉ spell c := by
    intro c mem
    rcases spell_cases c with ⟨d, e, -, -, ne⟩ | e | ⟨e, -, -, ne⟩
    · simp [e, ne.symm] at mem
    · simp [e, not_mem_toDigits] at mem
    · simp [e, ne.symm] at mem
  simp [quoted, spelled]

end Highlight.Text
