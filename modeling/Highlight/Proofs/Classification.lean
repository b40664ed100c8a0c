import Highlight.Proofs.Occurrence
import Highlight.Proofs.Vocabulary

/-!
# Classification of words

A word is looked up in three tables, one after the other, and only if its length and its first
character are those of an entry. None of this shows in the answer: `reserved?_iff_mem_table` says
that the kind of a word is told by the table that it stands in. The tables have no word in common
(`apart_tables`), so that they can be searched in any order.

Length, first character and order of words are those of their bytes (`mayBeReserved_eq_bytes`,
`hasWord_eq_hasBytes`), since the entries are ASCII and no byte of a longer character is.
-/

namespace Highlight

/-- The tables, each with the kind of its words. -/
def tables : List (Array String × Kind) :=
  [(constants, .constant), (keywords, .keyword), (builtins, .builtin)]

/-- Each table is sorted. -/
lemma isSorted_of_mem_tables {entry : Array String × Kind} (mem : entry ∈ tables) :
    IsSorted entry.1 := by
  obtain ⟨sorted_constants, sorted_keywords, sorted_builtins⟩ := isSorted_tables
  simp only [tables, List.mem_cons, List.not_mem_nil, or_false] at mem
  rcases mem with rfl | rfl | rfl
  · exact sorted_constants
  · exact sorted_keywords
  · exact sorted_builtins

/-! ### Words by their bytes -/

/-- Whether a sorted table has an entry with the bytes of `word`. -/
def hasBytes (table : Array String) (word : Text) : Bool :=
  bisect (fun entry => compare (Text.bytes entry.toList) word.bytes) table 0 table.size

/-- Whether a byte is an ASCII letter or an underscore. -/
def isNameByte (b : UInt8) : Bool :=
  (0x41 ≤ b && b ≤ 0x5A) || (0x61 ≤ b && b ≤ 0x7A) || b == 0x5F

namespace Text

/-- Characters are compared by their codes. -/
lemma compare_char (a c : Char) : compare a c = compare a.toNat c.toNat := by
  show compareOfLessAndEq a c = compareOfLessAndEq a.toNat c.toNat
  unfold compareOfLessAndEq
  simp only [Char.toNat_inj]
  rfl

/-- An ASCII character comes before or behind another character as its byte comes before or behind
the first byte of the other. -/
lemma compare_encode {a c : Char} {b : UInt8} {bs : List UInt8} (ascii : a.toNat < 128)
    (e : String.utf8EncodeChar c = b :: bs) :
    compare (UInt8.ofNat a.toNat) b = compare a c := by
  have low : (UInt8.ofNat a.toNat).toNat = a.toNat := by
    rw [UInt8.toNat_ofNat']
    omega
  rw [UInt8.compare_eq_toNat_compare_toNat, low, compare_char]
  by_cases ascii' : c.toNat < 128
  · rw [encode_of_ascii ascii'] at e
    obtain ⟨rfl, -⟩ := List.cons.inj e
    rw [UInt8.toNat_ofNat', Nat.mod_eq_of_lt (by omega)]
  · have high := le_of_mem_encode (Nat.not_lt.1 ascii') b (by rw [e]; exact List.mem_cons_self)
    rw [Nat.compare_eq_lt.2 (by omega), Nat.compare_eq_lt.2 (by omega)]

/-- An ASCII text comes before or behind another text as its bytes do. -/
lemma compare_bytes {p : Text} (ascii : p.IsAscii) (t : Text) :
    compare p.bytes t.bytes = compare p t := by
  induction p generalizing t with
  | nil =>
    cases t with
    | nil => rfl
    | cons c t =>
      obtain ⟨b, bs, e⟩ := List.exists_cons_of_ne_nil (String.utf8EncodeChar_ne_nil (c := c))
      rw [bytes_cons, e]
      rfl
  | cons a p ih =>
    have ascii_a : a.toNat < 128 := ascii a List.mem_cons_self
    have ascii_p : IsAscii p := fun x mem => ascii x (List.mem_cons_of_mem _ mem)
    rw [bytes_cons, encode_of_ascii ascii_a, List.singleton_append]
    cases t with
    | nil => rfl
    | cons c t =>
      obtain ⟨b, bs, e⟩ := List.exists_cons_of_ne_nil (String.utf8EncodeChar_ne_nil (c := c))
      rw [bytes_cons, e, List.cons_append, List.compare_cons_cons, List.compare_cons_cons,
        compare_encode ascii_a e]
      cases same : compare a c with
      | lt => rfl
      | gt => rfl
      | eq =>
        -- equal characters are one byte each, so that the rests are compared
        rw [compare_char, Nat.compare_eq_eq, Char.toNat_inj] at same
        subst same
        rw [encode_of_ascii ascii_a] at e
        obtain ⟨-, rfl⟩ := List.cons.inj e
        exact ih ascii_p t

end Text

/-- All entries of the tables are ASCII. -/
lemma isAscii_of_mem_tables {entry : Array String × Kind} (mem : entry ∈ tables) {word : String}
    (mem_word : word ∈ entry.1) : Text.IsAscii word.toList := by
  have all : (tables.all fun entry => entry.1.toList.all fun word =>
      word.toList.all fun c => Nat.blt c.toNat 128) = true := by decide +kernel
  have ascii := List.all_eq_true.1 (List.all_eq_true.1 all entry mem) word
    (Array.mem_toList_iff.2 mem_word)
  intro c mem_c
  have below := List.all_eq_true.1 ascii c mem_c
  rwa [Nat.blt_eq] at below

/-- A word is found by its bytes if it stands in the table. -/
lemma hasBytes_iff {entry : Array String × Kind} (mem : entry ∈ tables) (word : Text) :
    hasBytes entry.1 word = true ↔ String.ofList word ∈ entry.1 := by
  apply bisect_iff_mem (isSorted_of_mem_tables mem)
  intro word' mem_word
  exact Text.compare_bytes (isAscii_of_mem_tables mem mem_word) word

/-- The tables can be searched by bytes as well as by characters. -/
lemma hasWord_eq_hasBytes {entry : Array String × Kind} (mem : entry ∈ tables) (word : Text) :
    hasWord entry.1 word = hasBytes entry.1 word := by
  rw [Bool.eq_iff_iff, hasBytes_iff mem, hasWord_iff (isSorted_of_mem_tables mem)]

/-- The codes of ASCII letters and of the underscore. -/
def IsNameCode (n : Nat) : Prop := 0x41 ≤ n ∧ n ≤ 0x5A ∨ 0x61 ≤ n ∧ n ≤ 0x7A ∨ n = 0x5F

/-- The bytes of names are those of some codes. -/
lemma isNameByte_iff (b : UInt8) : isNameByte b = true ↔ IsNameCode b.toNat := by
  simp only [isNameByte, IsNameCode, Bool.or_eq_true, Bool.and_eq_true, decide_eq_true_eq,
    beq_iff_eq, UInt8.le_iff_toNat_le, ← UInt8.toNat_inj, UInt8.reduceToNat, or_assoc]

/-- The ASCII characters of names are those of the same codes. -/
lemma isAlpha_or_iff (c : Char) : (c.isAlpha || c == '_') = true ↔ IsNameCode c.toNat := by
  show (decide ('A'.val ≤ c.val ∧ c.val ≤ 'Z'.val) ||
    (decide ('a'.val ≤ c.val) && decide (c.val ≤ 'z'.val)) || c == '_') = true ↔ _
  simp only [IsNameCode, Bool.or_eq_true, Bool.and_eq_true, decide_eq_true_eq, beq_iff_eq,
    ← Char.toNat_inj, or_assoc]
  rfl

/-- The first byte of a character tells whether it is an ASCII letter or an underscore. -/
lemma any_isNameByte_encode (c : Char) :
    (String.utf8EncodeChar c).head?.any isNameByte = (c.isAlpha || c == '_') := by
  obtain ⟨b, bs, e⟩ := List.exists_cons_of_ne_nil (String.utf8EncodeChar_ne_nil (c := c))
  rw [e, List.head?_cons, Option.any_some, Bool.eq_iff_iff, isNameByte_iff, isAlpha_or_iff]
  by_cases ascii : c.toNat < 128
  · rw [Text.encode_of_ascii ascii] at e
    obtain ⟨rfl, -⟩ := List.cons.inj e
    rw [UInt8.toNat_ofNat', Nat.mod_eq_of_lt (by omega)]
  · have high := Text.le_of_mem_encode (Nat.not_lt.1 ascii) b (by rw [e]; exact List.mem_cons_self)
    unfold IsNameCode
    omega

/-- The test before the search looks at the number of bytes and at the first of them. -/
lemma mayBeReserved_eq_bytes (word : Text) :
    mayBeReserved word = (2 ≤ word.bytes.length && word.bytes.length ≤ 12 &&
      word.bytes.head?.any isNameByte) := by
  rw [Text.length_bytes]
  unfold mayBeReserved
  cases word with
  | nil => rfl
  | cons c word =>
    have head : (Text.bytes (c :: word)).head? = (String.utf8EncodeChar c).head? := by
      rw [Text.bytes_cons, List.head?_append_of_ne_nil _ String.utf8EncodeChar_ne_nil]
    rw [head, any_isNameByte_encode]

/-! ### Order of the tables -/

/-- No word stands in two tables. -/
lemma apart_tables : tables.Pairwise fun a b => ∀ word ∈ a.1, word ∉ b.1 := by
  have apart : tables.Pairwise fun a b =>
      (a.1.toList.all fun word => !b.1.toList.contains word) = true := by decide +kernel
  apply apart.imp
  intro a b all word mem mem'
  have absent := List.all_eq_true.1 all word (Array.mem_toList_iff.2 mem)
  simp [mem'] at absent

/-- Where one element at most passes a test, the order of a list does not matter for finding it. -/
lemma find?_of_perm {α : Type} {p : α → Bool} {l l' : List α}
    (apart : l.Pairwise fun a b => p a = true → p b = false) (perm : l'.Perm l) :
    l'.find? p = l.find? p := by
  rw [← List.head?_filter, ← List.head?_filter]
  have kept := perm.filter p
  cases passed : l.filter p with
  | nil =>
    rw [passed] at kept
    rw [List.perm_nil.1 kept]
  | cons a rest =>
    cases rest with
    | nil =>
      rw [passed] at kept
      rw [List.perm_singleton.1 kept]
    | cons b rest =>
      exfalso
      have pass : ∀ c ∈ l.filter p, p c = true := fun c mem => (List.mem_filter.1 mem).2
      have both := apart.filter p
      rw [passed] at pass both
      have fails := List.rel_of_pairwise_cons both List.mem_cons_self (pass a List.mem_cons_self)
      rw [pass b (List.mem_cons_of_mem _ List.mem_cons_self)] at fails
      cases fails

/-- One table at most has a word. -/
lemma apart_hasWord (word : Text) :
    tables.Pairwise fun a b => hasWord a.1 word = true → hasWord b.1 word = false := by
  apply apart_tables.imp_of_mem
  intro a b mem_a mem_b apart has
  rw [hasWord_iff (isSorted_of_mem_tables mem_a)] at has
  rw [Bool.eq_false_iff, Ne, hasWord_iff (isSorted_of_mem_tables mem_b)]
  exact apart _ has

/-- A word has the kind of the first table that has it, whether it passes the test or not. -/
lemma reserved?_eq_find? (word : Text) :
    reserved? word = (tables.find? fun entry => hasWord entry.1 word).map (·.2) := by
  obtain ⟨sorted_constants, sorted_keywords, sorted_builtins⟩ := isSorted_tables
  rw [reserved?_eq, tableKind?, tables]
  simp only [← hasWord_iff sorted_constants, ← hasWord_iff sorted_keywords,
    ← hasWord_iff sorted_builtins, List.find?_cons, List.find?_nil]
  cases hasWord constants word with
  | true => rfl
  | false =>
    cases hasWord keywords word with
    | true => rfl
    | false =>
      cases hasWord builtins word with
      | true => rfl
      | false => rfl

/-- A word has the kind of a table exactly if it stands there. -/
lemma reserved?_eq_some_iff {word : Text} {kind : Kind} :
    reserved? word = some kind ↔
      ∃ table, (table, kind) ∈ tables ∧ String.ofList word ∈ table := by
  rw [reserved?_eq_find?, Option.map_eq_some_iff]
  constructor
  · rintro ⟨⟨table, kind⟩, found, rfl⟩
    have mem := List.mem_of_find?_eq_some found
    have has : hasWord table word = true :=
      List.find?_some (p := fun entry : Array String × Kind => hasWord entry.1 word) found
    exact ⟨table, mem, (hasWord_iff (isSorted_of_mem_tables mem) word).1 has⟩
  · rintro ⟨table, mem, mem_word⟩
    have has := (hasWord_iff (isSorted_of_mem_tables mem) word).2 mem_word
    -- the table may as well be searched first
    obtain ⟨front, behind, split⟩ := List.append_of_mem mem
    have first : ((table, kind) :: (front ++ behind)).Perm tables := by
      rw [split]
      exact List.perm_middle.symm
    refine ⟨(table, kind), ?_, rfl⟩
    rw [← find?_of_perm (apart_hasWord word) first]
    exact List.find?_cons_of_pos has

/-- A word that is not reserved stands in no table. -/
lemma reserved?_eq_none_iff {word : Text} :
    reserved? word = none ↔ ∀ entry ∈ tables, String.ofList word ∉ entry.1 := by
  rw [reserved?_eq_find?, Option.map_eq_none_iff, List.find?_eq_none]
  constructor
  · intro none entry mem mem_word
    exact none entry mem ((hasWord_iff (isSorted_of_mem_tables mem) word).2 mem_word)
  · intro none entry mem has
    exact none entry mem ((hasWord_iff (isSorted_of_mem_tables mem) word).1 has)

/-- The kind of a word is told by the table that it stands in, and there is none if it stands in no
table; it is a name then. That its length and its first byte are tested before, and that the search
goes by halves, loses no entry and lets no other word in. The tables can be searched in any order,
by characters or by bytes. -/
theorem reserved?_iff_mem_table (word : Text) :
    (reserved? word = some .constant ↔ String.ofList word ∈ constants) ∧
    (reserved? word = some .keyword ↔ String.ofList word ∈ keywords) ∧
    (reserved? word = some .builtin ↔ String.ofList word ∈ builtins) ∧
    (reserved? word = none ↔ String.ofList word ∉ constants ∧ String.ofList word ∉ keywords ∧
      String.ofList word ∉ builtins) ∧
    (∀ kind, classify word = kind ↔
      reserved? word = some kind ∨ reserved? word = none ∧ kind = .ident) ∧
    mayBeReserved word = (2 ≤ word.bytes.length && word.bytes.length ≤ 12 &&
      word.bytes.head?.any isNameByte) ∧
    (∀ entry ∈ tables, hasWord entry.1 word = hasBytes entry.1 word ∧
      (hasBytes entry.1 word = true ↔ String.ofList word ∈ entry.1)) ∧
    ∀ order : List (Array String × Kind), order.Perm tables →
      (order.find? fun entry => hasWord entry.1 word).map (·.2) = reserved? word := by
  have constant : reserved? word = some .constant ↔ String.ofList word ∈ constants :=
    reserved?_eq_some_iff.trans (by simp [tables])
  have keyword : reserved? word = some .keyword ↔ String.ofList word ∈ keywords :=
    reserved?_eq_some_iff.trans (by simp [tables])
  have builtin : reserved? word = some .builtin ↔ String.ofList word ∈ builtins :=
    reserved?_eq_some_iff.trans (by simp [tables])
  refine ⟨constant, keyword, builtin, ?_, ?_, mayBeReserved_eq_bytes word, ?_, ?_⟩
  · exact reserved?_eq_none_iff.trans (by simp [tables])
  · intro kind
    rw [classify]
    cases reserved? word with
    | none => simp [eq_comm]
    | some other => simp
  · intro entry mem
    exact ⟨hasWord_eq_hasBytes mem word, hasBytes_iff mem word⟩
  · intro order perm
    rw [reserved?_eq_find?, find?_of_perm (apart_hasWord word) perm]

/-- `print` is the name of a built-in function also where the built-in names are searched first. -/
theorem reserved?_print :
    [(builtins, Kind.builtin), (keywords, .keyword), (constants, .constant)].Perm tables ∧
      ([(builtins, Kind.builtin), (keywords, .keyword), (constants, .constant)].find? fun entry =>
        hasWord entry.1 "print".toList).map (·.2) = some .builtin ∧
      (keywords, Kind.keyword) ∈ tables ∧ hasBytes keywords "print".toList = false := by
  obtain ⟨-, keyword, builtin, -, -, -, searched, ordered⟩ :=
    reserved?_iff_mem_table "print".toList
  have listed : (keywords, Kind.keyword) ∈ tables := by simp [tables]
  have found : String.ofList "print".toList ∈ builtins := by
    rw [String.ofList_toList]
    simp [builtins]
  have perm := List.reverse_perm tables
  refine ⟨perm, ?_, listed, ?_⟩
  · exact (ordered _ perm).trans (builtin.2 found)
  · rw [Bool.eq_false_iff, Ne, (searched _ listed).2, ← keyword, builtin.2 found]
    decide

end Highlight
