import Highlight.Lexis.Listing
import Highlight.Proofs.Quoting
import Highlight.Proofs.Tiling

/-!
# Reading listings back

A listing holds all of a scan: its heading says how many tokens there are, and each of them stands
on a line of its own, from which its kind, its span and its text can be read (`Lexeme.readLine_entry`).
The lines are told apart since none of them holds a newline (`Lexeme.not_mem_entry`).
-/

namespace Highlight

/-! ### Readers -/

/-- Reads the name of a kind at the front of a text, up to a blank. -/
def readKind (t : Text) : Option (Kind × Text) :=
  (Kind.ofName? (String.ofList (t.takeWhile (· != ' ')))).map (·, t.dropWhile (· != ' '))

/-- Reads the decimal numeral at the front of a text. -/
def readNumber (t : Text) : Option (Nat × Text) :=
  let digits := t.takeWhile Char.isDigit
  if digits.isEmpty then none else some (Nat.ofDigitChars 10 digits 0, t.dropWhile Char.isDigit)

/-- Reads a line of a listing, without its end. -/
def readLine (line : Text) : Option Lexeme := do
  let t ← "  ".toList.isPrefixOf? line
  let (kind, t) ← readKind t
  let t ← " @ ".toList.isPrefixOf? t
  let (start, t) ← readNumber t
  let t ← "..".toList.isPrefixOf? t
  let (stop, t) ← readNumber t
  let t ← " ".toList.isPrefixOf? t
  let text ← Text.unquote t
  return ⟨⟨kind, start, stop⟩, text⟩

/-- Cuts a text behind the front of a line into lines, each of which a newline ends. -/
def cutLines (front : Text) : Text → Option (List Text)
  | [] => if front.isEmpty then some [] else none
  | c :: t => if c = '\n' then (cutLines [] t).map (front :: ·) else cutLines (front ++ [c]) t

/-- Reads a listing of a source of the name given. -/
def readListing (label : String) (t : Text) : Option (List Lexeme) := do
  let t ← ("Tokens for '".toList ++ label.toList ++ "' (".toList).isPrefixOf? t
  let (count, t) ← readNumber t
  let t ← " tokens):\n".toList.isPrefixOf? t
  let lines ← cutLines [] t
  let lexemes ← lines.mapM readLine
  if lexemes.length = count then return lexemes else none

/-! ### Lines -/

/-- What stands at the front can be taken away. -/
lemma isPrefixOf?_append (front t : Text) : front.isPrefixOf? (front ++ t) = some t :=
  Text.isPrefixOf?_eq_some.2 rfl

/-- A kind is told by its name. -/
lemma Kind.ofName?_name (k : Kind) : Kind.ofName? k.name = some k := by
  cases k <;> decide

/-- The name of a kind is one word on one line. -/
lemma Kind.not_mem_name (k : Kind) : ' ' ∉ k.name.toList ∧ '\n' ∉ k.name.toList := by
  cases k <;> decide

/-- The name of a kind is read back. -/
lemma readKind_name (k : Kind) (t : Text) :
    readKind (k.name.toList ++ ' ' :: t) = some (k, ' ' :: t) := by
  have name : ∀ c ∈ k.name.toList, (c != ' ') = true := by
    intro c mem
    rw [bne_iff_ne]
    rintro rfl
    exact k.not_mem_name.1 mem
  simp [readKind, List.takeWhile_append_of_pos name, List.dropWhile_append_of_pos name,
    k.ofName?_name]

/-- A numeral is read back where it ends. -/
lemma readNumber_decimal (n : Nat) {c : Char} (next : c.isDigit = false) (t : Text) :
    readNumber (Text.decimal n ++ c :: t) = some (n, c :: t) := by
  have digits : ∀ d ∈ Text.decimal n, d.isDigit = true := fun d mem =>
    Nat.isDigit_of_mem_toDigits (by decide) (by decide) mem
  have ne : Text.decimal n ≠ [] := Nat.toDigits_ne_nil
  have value : Nat.ofDigitChars 10 (Text.decimal n) 0 = n := Nat.ofDigitChars_ten_toDigits
  simp [readNumber, List.takeWhile_append_of_pos digits, List.dropWhile_append_of_pos digits, next,
    ne, value]

/-- A numeral stands on one line. -/
lemma newline_not_mem_decimal (n : Nat) : '\n' ∉ Text.decimal n := fun mem =>
  absurd (Nat.isDigit_of_mem_toDigits (by decide) (by decide) mem) (by decide)

namespace Lexeme

/-- The line of a lexeme without its end. -/
def entry (l : Lexeme) : Text :=
  "  ".toList ++ (l.kind.name.toList ++ (" @ ".toList ++ (Text.decimal l.span.start ++
    ("..".toList ++ (Text.decimal l.span.stop ++ (" ".toList ++ l.text.quoted))))))

/-- The line of a lexeme is its entry and a newline. -/
lemma line_eq (l : Lexeme) : l.line = l.entry ++ ['\n'] := by
  unfold line entry Span.describe
  simp only [List.append_assoc]
  rfl

/-- What is shown of a lexeme stands on one line. -/
lemma not_mem_entry (l : Lexeme) : '\n' ∉ l.entry := by
  unfold entry
  simp [newline_not_mem_decimal, l.kind.not_mem_name.2, l.text.not_mem_quoted]

/-- A lexeme is read back from its line. -/
lemma readLine_entry (l : Lexeme) : readLine l.entry = some l := by
  have kind : ∀ t, readKind (l.kind.name.toList ++ (" @ ".toList ++ t)) =
      some (l.kind, " @ ".toList ++ t) := fun t => readKind_name l.kind _
  have start : ∀ t, readNumber (Text.decimal l.span.start ++ ("..".toList ++ t)) =
      some (l.span.start, "..".toList ++ t) := fun t => readNumber_decimal _ rfl _
  have stop : ∀ t, readNumber (Text.decimal l.span.stop ++ (" ".toList ++ t)) =
      some (l.span.stop, " ".toList ++ t) := fun t => readNumber_decimal _ rfl _
  unfold readLine entry
  simp only [isPrefixOf?_append, kind, start, stop, Text.unquote_quoted,
    Option.bind_eq_bind, Option.bind_some, Option.pure_def]

end Lexeme

/-! ### Listings -/

/-- A line is cut off at its newline. -/
lemma cutLines_append {line : Text} (free : '\n' ∉ line) (front t : Text) :
    cutLines front (line ++ '\n' :: t) = (cutLines [] t).map ((front ++ line) :: ·) := by
  induction line generalizing front with
  | nil => simp [cutLines]
  | cons c line ih =>
    rw [List.mem_cons, not_or] at free
    rw [List.cons_append, cutLines, if_neg (Ne.symm free.1), ih free.2, List.append_assoc]
    rfl

/-- Lines that hold no newline are told apart by those behind them. -/
lemma cutLines_flatMap {lines : List Text} (free : ∀ line ∈ lines, '\n' ∉ line) :
    cutLines [] (lines.flatMap (· ++ ['\n'])) = some lines := by
  induction lines with
  | nil => rfl
  | cons line lines ih =>
    rw [List.forall_mem_cons] at free
    rw [List.flatMap_cons, List.append_assoc, List.singleton_append, cutLines_append free.1,
      ih free.2]
    rfl

namespace Scan

/-- The lines of a listing, without their ends. -/
def entries (s : Scan) : List Text := s.lexemes.map Lexeme.entry

/-- A listing is a heading and an entry on each line. -/
lemma listing_eq (label : String) (s : Scan) :
    s.listing label = s.heading label ++ s.entries.flatMap (· ++ ['\n']) := by
  have line : Lexeme.line = fun l => l.entry ++ ['\n'] := funext Lexeme.line_eq
  rw [listing, entries, List.flatMap_map, line]

/-- An entry stands on one line. -/
lemma not_mem_entries (s : Scan) : ∀ line ∈ s.entries, '\n' ∉ line := by
  intro line mem
  obtain ⟨l, -, rfl⟩ := List.mem_map.1 mem
  exact l.not_mem_entry

/-- Each entry is read back. -/
lemma map_readLine_entries (s : Scan) : s.entries.map readLine = s.lexemes.map some := by
  rw [entries, List.map_map]
  exact List.map_congr_left fun l _ => l.readLine_entry

/-- All entries are read back. -/
lemma mapM_readLine_entries (s : Scan) : s.entries.mapM readLine = some s.lexemes := by
  unfold entries
  induction s.lexemes with
  | nil => rfl
  | cons l lexemes ih =>
    rw [List.map_cons, List.mapM_cons, l.readLine_entry, ih]
    rfl

/-- A listing is read back as the lexemes of the scan. -/
lemma readListing_listing (label : String) (s : Scan) :
    readListing label (s.listing label) = some s.lexemes := by
  have count : ∀ t, readNumber (Text.decimal s.lexemes.length ++ (" tokens):\n".toList ++ t)) =
      some (s.lexemes.length, " tokens):\n".toList ++ t) := by
    intro t
    have blank : " tokens):\n".toList ++ t = ' ' :: ("tokens):\n".toList ++ t) := rfl
    simp only [blank]
    exact readNumber_decimal s.lexemes.length (c := ' ') rfl _
  have lines := cutLines_flatMap s.not_mem_entries
  have parts : s.listing label = ("Tokens for '".toList ++ label.toList ++ "' (".toList) ++
      (Text.decimal s.lexemes.length ++ (" tokens):\n".toList ++
        s.entries.flatMap (· ++ ['\n']))) := by
    rw [listing_eq]
    unfold heading
    rw [List.append_assoc, List.append_assoc]
  unfold readListing
  simp only [parts, isPrefixOf?_append, count, lines, mapM_readLine_entries, Option.bind_eq_bind,
    Option.bind_some, if_true, Option.pure_def]

/-- The heading is a line of its own, but for newlines in the name that it holds. -/
lemma exists_headline (label : String) (s : Scan) :
    ∃ headline, s.heading label = headline ++ ['\n'] ∧
      ('\n' ∈ headline → '\n' ∈ label.toList) := by
  refine ⟨"Tokens for '".toList ++ label.toList ++ "' (".toList ++
    Text.decimal s.lexemes.length ++ " tokens):".toList, ?_, ?_⟩
  · rw [List.append_assoc _ _ ['\n']]
    rfl
  · intro mem
    simpa [newline_not_mem_decimal] using mem

end Scan

/-- Every source is scanned, and the listing of the scan is a heading and one line for each token,
none of which holds a newline. From each line its token is read back with its text, and so are all of
them from the listing. Under one name no two sources have the same listing. -/
theorem readListing_scan (label : String) (source : Text) :
    ∃ s, scan source = .ok s ∧
      (∃ (headline : Text) (lines : List Text),
        s.listing label = headline ++ ['\n'] ++ lines.flatMap (· ++ ['\n']) ∧
        s.heading label = headline ++ ['\n'] ∧
        ('\n' ∈ headline → '\n' ∈ label.toList) ∧
        lines.length = s.tokens.length ∧
        (∀ line ∈ lines, '\n' ∉ line) ∧
        lines.map readLine = s.lexemes.map some) ∧
      readListing label (s.listing label) = some s.lexemes ∧
      ∀ other s', scan other = .ok s' → s'.listing label = s.listing label → other = source := by
  obtain ⟨lexemes, runs, ok⟩ := Cursor.scan_runs source
  refine ⟨_, ok, ?_, Scan.readListing_listing label _, ?_⟩
  · obtain ⟨headline, e, newline⟩ := Scan.exists_headline label ⟨source, lexemes⟩
    refine ⟨headline, Scan.entries ⟨source, lexemes⟩, ?_, e, newline, ?_,
      Scan.not_mem_entries _, Scan.map_readLine_entries _⟩
    · rw [← e, Scan.listing_eq]
    · rw [Scan.entries, Scan.tokens, List.length_map, List.length_map]
  · intro other s' ok' same
    obtain ⟨lexemes', runs', ok''⟩ := Cursor.scan_runs other
    obtain rfl : s' = ⟨other, lexemes'⟩ := Except.ok.inj (ok'.symm.trans ok'')
    have read := Scan.readListing_listing label ⟨other, lexemes'⟩
    rw [same, Scan.readListing_listing] at read
    have e : lexemes = lexemes' := Option.some.inj read
    rw [← runs.flatMap_text, ← runs'.flatMap_text, e]

end Highlight
