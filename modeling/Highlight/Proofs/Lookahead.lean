import Highlight.Proofs.Grammar

/-!
# Lookahead

The rules of the lexical grammar look at the text behind a token, but not far. A token is one of the
same kind where nothing follows it (`Lexical.alone`). Where something does, its first character
decides, and `endsBefore` is the test: `Lexical.endsBefore_of_cons` says that every token passes it,
and `Lexical.cons_of_endsBefore` that nothing else is needed.
-/

namespace Highlight

/-! ### Backslashes at the end -/

/-- The number of backslashes at the end of a text. -/
def escapesAtEnd (t : Text) : Nat := (t.reverse.takeWhile (· == '\\')).length

/-- Whether the last character of a text is a backslash that pairs with no other before it. -/
def endsInEscape (t : Text) : Bool := escapesAtEnd t % 2 == 1

/-- The backslashes at the end of two texts. -/
lemma escapesAtEnd_append (s t : Text) :
    escapesAtEnd (s ++ t) =
      if escapesAtEnd t = t.length then escapesAtEnd s + t.length else escapesAtEnd t := by
  unfold escapesAtEnd
  rw [List.reverse_append, List.takeWhile_append, List.length_reverse]
  split
  · rw [List.length_append, List.length_reverse, Nat.add_comm]
  · rfl

/-- A character that is no backslash adds none. -/
lemma escapesAtEnd_cons {c : Char} (t : Text) (no_escape : c ≠ '\\') :
    escapesAtEnd (c :: t) = escapesAtEnd t := by
  have none : escapesAtEnd [c] = 0 := by simp [escapesAtEnd, no_escape]
  have split := escapesAtEnd_append [c] t
  rw [List.singleton_append, none, Nat.zero_add] at split
  rw [split]
  split_ifs with full
  · exact full.symm
  · rfl

/-- A pair adds two backslashes or none. -/
lemma escapesAtEnd_pair (c : Char) (t : Text) :
    escapesAtEnd ('\\' :: c :: t) % 2 = escapesAtEnd t % 2 := by
  have even : escapesAtEnd ['\\', c] % 2 = 0 := by
    by_cases back : c = '\\'
    · subst back
      rfl
    · simp [escapesAtEnd, back]
  have split := escapesAtEnd_append ['\\', c] t
  rw [List.cons_append, List.singleton_append] at split
  rw [split]
  split_ifs with full
  · omega
  · rfl

/-- The items of a string end in no backslash of their own. -/
lemma StringItems.escapesAtEnd_even {q : Char} {items : Text} (inside : StringItems q items) :
    escapesAtEnd items % 2 = 0 := by
  induction inside with
  | nil => rfl
  | plain _ _ not_escape _ ih =>
    rw [escapesAtEnd_cons _ not_escape]
    exact ih
  | escape _ ih =>
    rw [escapesAtEnd_pair]
    exact ih

/-- The items of a string end in no backslash that escapes, and a lone one behind them does. -/
lemma StringItems.endsInEscape_eq {q : Char} {items : Text} (quote : isQuote q = true)
    (inside : StringItems q items) :
    endsInEscape (q :: items) = false ∧ endsInEscape (q :: items ++ ['\\']) = true := by
  have even : escapesAtEnd (q :: items) % 2 = 0 := by
    rw [escapesAtEnd_cons items (ne_of_isQuote quote).2]
    exact inside.escapesAtEnd_even
  have one : escapesAtEnd (q :: items ++ ['\\']) = escapesAtEnd (q :: items) + 1 :=
    escapesAtEnd_append (q :: items) ['\\']
  constructor
  · simp [endsInEscape, even]
  · rw [endsInEscape, one, beq_iff_eq]
    omega

/-! ### The character behind a token -/

/-- Whether a token that stands alone stays what it is where the character `c` follows it. -/
def endsBefore (kind : Kind) (text : Text) (c : Char) : Bool :=
  match kind with
  | .docstring | .stalled => true
  | .whitespace => !isWhiteSpace c
  | .comment => c == '\n'
  | .number => ¬NumberChar c
  | .ident | .constant | .keyword | .builtin => ¬WordChar c
  -- two quotes and a third one open a docstring
  | .string => text != [c, c]
  | .punct => text != ['.'] || !isDigit c
  | .unterminatedString => c == '\n' && !endsInEscape text
  | .unterminatedDocstring => false

/-- A word can end before what it does not go on with. -/
lemma endsBefore_of_isWord {kind : Kind} (text : Text) (c : Char) (word : kind.isWord = true) :
    endsBefore kind text c = true ↔ ¬WordChar c := by
  revert word
  cases kind <;> simp [Kind.isWord, endsBefore]

/-- What stands behind the first occurrence does not matter to it. -/
lemma FirstBehind.append_iff {α : Type} {pattern front behind : List α} :
    FirstBehind pattern front (front ++ pattern ++ behind) ↔
      FirstBehind pattern front (front ++ pattern) := by
  have here : front ++ pattern <+: front ++ pattern ++ behind := List.prefix_append _ _
  constructor
  · intro h
    exact ⟨List.prefix_refl _, fun front' occurs => h.first front' (occurs.trans here)⟩
  · intro h
    refine ⟨here, fun front' occurs => ?_⟩
    by_contra earlier
    apply earlier
    apply h.first
    -- an earlier occurrence ends earlier, so it is all in front
    refine List.prefix_of_prefix_length_le occurs here ?_
    rw [List.length_append, List.length_append]
    omega

/-- A quote behind the opening one is no item, so it is all there is before the end. -/
lemma StringItems.isPrefix_iff {q : Char} {items : Text} (quote : isQuote q = true)
    (inside : StringItems q items) (t : Text) :
    [q, q, q] <+: q :: items ++ t ↔ items = [] ∧ [q, q] <+: t := by
  rw [List.cons_append, List.cons_prefix_cons]
  constructor
  · rintro ⟨-, pre⟩
    cases inside with
    | nil => exact ⟨rfl, pre⟩
    | plain not_quote => exact absurd (List.cons_prefix_cons.1 pre).1.symm not_quote
    | escape => exact absurd (List.cons_prefix_cons.1 pre).1 (ne_of_isQuote quote).2
  · rintro ⟨rfl, pre⟩
    exact ⟨rfl, pre⟩

/-- A string and the character behind it open a docstring if the string is empty and the character
is its quote. -/
lemma StringItems.triple_iff {q c : Char} {items : Text} (quote : isQuote q = true)
    (inside : StringItems q items) (t : Text) :
    [q, q, q] <+: q :: items ++ [q] ++ c :: t ↔ q :: items ++ [q] = [c, c] := by
  rw [List.append_assoc, inside.isPrefix_iff quote]
  constructor
  · rintro ⟨rfl, pre⟩
    obtain rfl : q = c := (List.cons_prefix_cons.1 (List.cons_prefix_cons.1 pre).2).1
    rfl
  · intro empty
    obtain ⟨rfl, last⟩ := List.cons.inj empty
    exact ⟨List.append_left_eq_self.1 last, List.prefix_append [q, q] t⟩

namespace Lexical

variable {member : Bool} {kind : Kind} {text behind : Text}

/-- A token stays what it is where nothing follows it. -/
lemma alone (rule : Lexical member kind text behind) : Lexical member kind text [] := by
  cases rule with
  | whitespace all _ => exact .whitespace all (by simp)
  | docstring quote first =>
    refine .docstring quote ?_
    rw [List.append_nil]
    exact FirstBehind.append_iff.1 first
  | openDocstring quote not_in => exact .openDocstring quote not_in
  | string quote triple inside =>
    refine .string quote (fun pre => triple ?_) inside
    rw [List.append_nil] at pre
    exact pre.trans (List.prefix_append _ _)
  | brokenString quote triple inside _ =>
    exact .openString quote (fun pre => triple (pre.trans (List.prefix_append _ _))) inside
  | openString quote triple inside => exact .openString quote triple inside
  | openEscape quote triple inside => exact .openEscape quote triple inside
  | number digit all _ => exact .number digit all (by simp)
  | fraction digit all _ => exact .fraction digit all (by simp)
  | word starts digit all _ => exact .word starts digit all (by simp)
  | comment no_newline _ => exact .comment no_newline (by simp)
  | dot _ => exact .dot (by simp)
  | punct white quote digit continues dot hash =>
    exact .punct white quote digit continues dot hash
  | stalled white digit continues starts => exact .stalled white digit continues starts

/-- The character behind a token is one before which it can end. -/
lemma endsBefore_of_cons {c : Char} {t : Text} (rule : Lexical member kind text (c :: t)) :
    endsBefore kind text c = true := by
  cases rule with
  | whitespace _ next => simp [endsBefore, next c rfl]
  | docstring => rfl
  | string quote triple inside =>
    rw [inside.triple_iff quote] at triple
    simpa [endsBefore] using triple
  | brokenString quote triple inside next =>
    obtain rfl : c = '\n' := Option.some.inj next
    simp [endsBefore, (inside.endsInEscape_eq quote).1]
  | number _ _ next => simp [endsBefore, next c rfl]
  | fraction _ _ next => simp [endsBefore, next c rfl]
  | word _ _ _ next =>
    rw [endsBefore_of_isWord _ _ (isWord_ite_wordKind _ _)]
    exact next c rfl
  | comment _ next => simp [endsBefore, next c rfl]
  | dot next => simp [endsBefore, next c rfl]
  | punct _ _ _ _ dot _ => simp [endsBefore, dot]
  | stalled => rfl

/-- A token that stands alone stays what it is before a character where it can end. -/
lemma cons_of_endsBefore {c : Char} (t : Text) (rule : Lexical member kind text [])
    (ends : endsBefore kind text c = true) : Lexical member kind text (c :: t) := by
  cases rule with
  | whitespace all _ => exact .whitespace all (by simpa [endsBefore] using ends)
  | docstring quote first =>
    rw [List.append_nil] at first
    exact .docstring quote (FirstBehind.append_iff.2 first)
  | openDocstring => cases ends
  | @string q items _ quote _ inside =>
    refine .string quote ?_ inside
    rw [inside.triple_iff quote]
    simpa [endsBefore] using ends
  | brokenString _ _ _ next => cases next
  | @openString q items quote _ inside =>
    simp only [endsBefore, Bool.and_eq_true, beq_iff_eq] at ends
    obtain ⟨rfl, -⟩ := ends
    refine .brokenString quote ?_ inside rfl
    rw [inside.isPrefix_iff quote]
    rintro ⟨-, pre⟩
    exact (ne_of_isQuote quote).1 (List.cons_prefix_cons.1 pre).1
  | openEscape quote _ inside =>
    rw [endsBefore, (inside.endsInEscape_eq quote).2, Bool.not_true, Bool.and_false] at ends
    cases ends
  | number digit all _ => exact .number digit all (by simpa [endsBefore] using ends)
  | fraction digit all _ => exact .fraction digit all (by simpa [endsBefore] using ends)
  | word starts digit all _ =>
    rw [endsBefore_of_isWord _ _ (isWord_ite_wordKind _ _)] at ends
    exact .word starts digit all (by simpa using ends)
  | comment no_newline _ => exact .comment no_newline (by simpa [endsBefore] using ends)
  | dot _ => exact .dot (by simpa [endsBefore] using ends)
  | punct white quote digit continues dot hash =>
    exact .punct white quote digit continues dot hash
  | stalled white digit continues starts => exact .stalled white digit continues starts

/-- What follows a token can go on as it likes, if it begins as before. -/
lemma append_behind (rule : Lexical member kind text behind) (ne : behind ≠ []) (t : Text) :
    Lexical member kind text (behind ++ t) := by
  obtain ⟨c, behind, rfl⟩ := List.exists_cons_of_ne_nil ne
  exact rule.alone.cons_of_endsBefore _ rule.endsBefore_of_cons

end Lexical

end Highlight
