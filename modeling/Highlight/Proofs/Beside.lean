import Highlight.Proofs.Batch

/-!
# Markup beside its source

The markup of one of several inputs goes to the path that ends in `.html` behind the input. Where the
input opens a place, this path opens the place beside it (`Workspace.Opens.beside`), so the one tells
the other. An attempt at such an input reads at one place and writes at the other (`Turns`), and the
attempts at several inputs form a row (`Row`), which goes the same where the same files stand
(`Row.congr`).
-/

namespace Highlight

/-! ### Places -/

/-- The place of the markup of what stands at a place. -/
def besidePlace (names : Names) : Names :=
  names.dropLast ++ [names.getLast?.getD [] ++ ".html".toList]

/-- The place beside a file is in the same directory, under a longer name. -/
lemma besidePlace_concat (folder : Names) (last : Text) :
    besidePlace (folder ++ [last]) = folder ++ [last ++ ".html".toList] := by
  rw [besidePlace, List.dropLast_concat, List.getLast?_concat, Option.getD_some]

/-- The path to the markup is longer by what is put behind the name. -/
lemma length_flatten_besidePlace {names : Names} (ne : names ≠ []) :
    (besidePlace names).flatten.length = names.flatten.length + 5 := by
  obtain rfl | ⟨folder, last, rfl⟩ := List.eq_nil_or_concat' names
  · exact absurd rfl ne
  · rw [besidePlace_concat]
    simp [Nat.add_assoc]

/-- The place beside another one has a name. -/
lemma besidePlace_ne_nil (names : Names) : besidePlace names ≠ [] := by
  simp [besidePlace]

/-- A place is not beside itself. -/
lemma besidePlace_ne {names : Names} (ne : names ≠ []) : besidePlace names ≠ names := by
  intro same
  have longer := length_flatten_besidePlace ne
  rw [same] at longer
  omega

/-- The markup of the markup of a file is not put in the place of the file. -/
lemma besidePlace_besidePlace_ne {names : Names} (ne : names ≠ []) :
    besidePlace (besidePlace names) ≠ names := by
  intro same
  have longer := length_flatten_besidePlace ne
  have longest := length_flatten_besidePlace (besidePlace_ne_nil names)
  rw [same] at longest
  omega

/-- A place is beside one other place only. -/
lemma besidePlace_inj {names names' : Names} (ne : names ≠ []) (ne' : names' ≠ [])
    (same : besidePlace names = besidePlace names') : names = names' := by
  obtain rfl | ⟨folder, last, rfl⟩ := List.eq_nil_or_concat' names
  · exact absurd rfl ne
  obtain rfl | ⟨folder', last', rfl⟩ := List.eq_nil_or_concat' names'
  · exact absurd rfl ne'
  rw [besidePlace_concat, besidePlace_concat] at same
  obtain ⟨rfl, lasts⟩ := List.append_inj' same rfl
  rw [List.append_cancel_right (List.cons.inj lasts).1]

/-- What is put behind a path is put behind its last name. -/
lemma exists_splitOn_append (path : Text) :
    ∃ pieces tail, (tail = [] → path = [] ∨ path.getLast? = some '/') ∧
      ∀ ext : Text, '/' ∉ ext → (path ++ ext).splitOn '/' = pieces ++ [tail ++ ext] := by
  by_cases slash : '/' ∈ path
  · -- the last slash is the first one from behind
    obtain ⟨tail, front, reversed, free⟩ :=
      List.eq_append_cons_of_mem (List.mem_reverse.2 slash)
    obtain rfl : path = front.reverse ++ '/' :: tail.reverse := by
      rw [← List.reverse_reverse path, reversed]
      simp
    refine ⟨front.reverse.splitOn '/', tail.reverse, ?_, ?_⟩
    · intro none
      rw [none]
      exact .inr List.getLast?_concat
    · intro ext free'
      have whole : '/' ∉ tail.reverse ++ ext := by simp [free, free']
      rw [List.append_assoc, List.cons_append, List.splitOn_append_cons_self,
        List.splitOn_eq_singleton whole]
  · refine ⟨[], path, .inl, ?_⟩
    intro ext free
    have whole : '/' ∉ path ++ ext := by simp [slash, free]
    rw [List.splitOn_eq_singleton whole, List.nil_append]

/-- What is put behind a path that ends in no slash is put behind the last of its names. -/
lemma Path.exists_names_append {path : Text} (ne : path ≠ [])
    (plain : (Path.ofText path).slashed = false) :
    ∃ front last, ∀ ext : Text, '/' ∉ ext →
      (Path.ofText (path ++ ext)).names = front ++ [last ++ ext] ∧
      (Path.ofText (path ++ ext)).absolute = (Path.ofText path).absolute := by
  obtain ⟨pieces, tail, of_nil, split⟩ := exists_splitOn_append path
  have named : tail ≠ [] := by
    intro none
    cases of_nil none with
    | inl empty => exact ne empty
    | inr slash => simp [Path.ofText, slash] at plain
  refine ⟨pieces.filter (!·.isEmpty), tail, fun ext free => ⟨?_, ?_⟩⟩
  · show ((path ++ ext).splitOn '/').filter _ = _
    rw [split ext free, List.filter_append, List.filter_cons_of_pos (by simp [named]),
      List.filter_nil]
  · show decide ((path ++ ext).head? = some '/') = decide (path.head? = some '/')
    rw [List.head?_append_of_ne_nil path ne]

namespace Workspace

variable {w w' : Workspace}

/-- A path that leads to a name has it as its last one, and the others lead to the directory. -/
lemma locate_name {path : Text} {folder : Names} {last : Text}
    (located : w.locate path = .ok (.name folder last)) :
    path ≠ [] ∧ (Path.ofText path).names.getLast? = some last ∧
      w.enterAll (if (Path.ofText path).absolute then [] else w.home)
        (Path.ofText path).names.dropLast = .ok folder := by
  unfold locate at located
  split at located
  · cases located
  · split at located
    · cases located
    · next ne =>
      split at located
      · cases located
      · unfold follow at located
        split at located
        · cases located
        · next named =>
          split at located
          · next entered =>
            split at located
            · cases located
            · cases located
              exact ⟨ne, named, entered⟩
          · cases located

/-- The path beside an input leads to the place beside it. -/
lemma Opens.beside {input : String} {source target : Names} (opens : w.Opens input.toList source)
    (opens' : w.Opens (besideInput input).toList target) : target = besidePlace source := by
  cases opens with
  | name located plain _ =>
    cases opens' with
    | name located' _ _ =>
      obtain ⟨ne, last, entered⟩ := locate_name located
      obtain ⟨-, last', entered'⟩ := locate_name located'
      obtain ⟨front, tail, append⟩ := Path.exists_names_append ne plain
      have extended : (besideInput input).toList = input.toList ++ ".html".toList :=
        String.toList_append
      obtain ⟨names, -⟩ := append [] List.not_mem_nil
      obtain ⟨names', absolute⟩ := append ".html".toList (by decide)
      rw [List.append_nil, List.append_nil] at names
      rw [extended, names'] at last' entered'
      rw [absolute] at entered'
      rw [names] at last entered
      rw [List.getLast?_concat] at last last'
      rw [List.dropLast_concat] at entered entered'
      cases last
      cases last'
      cases entered.symm.trans entered'
      rw [besidePlace_concat]

/-! ### Conversions beside their inputs -/

/-- The same stands at all places of two workspaces. -/
structure SameFiles (w w' : Workspace) : Prop where
  home : w'.home = w.home
  entries : ∀ names, w'.entry? names = w.entry? names

namespace SameFiles

lemma symm (same : SameFiles w w') : SameFiles w' w :=
  ⟨same.home.symm, fun names => (same.entries names).symm⟩

lemma trans {w'' : Workspace} (same : SameFiles w w') (same' : SameFiles w' w'') :
    SameFiles w w'' :=
  ⟨same'.home.trans same.home, fun names => (same'.entries names).trans (same.entries names)⟩

/-- Where the same files stand, the same directories do. -/
lemma sameFolders (same : SameFiles w w') : SameFolders w w' :=
  ⟨same.home, fun names => by rw [same.entries]⟩

end SameFiles

/-- An input that opens a place, and beside which a file can be written. -/
structure Admits (w : Workspace) (input : String) (place : Names) : Prop where
  opens : w.Opens input.toList place
  accepts : w.Accepts (besideInput input).toList

/-- An input that can be converted, with its place and the scan of the text that stands there. -/
structure Converts (w : Workspace) (input : String) (place : Names) (s : Scan) : Prop extends
    Admits w input place where
  text : ∃ t : Text, w.entry? place = some (.file t.encode) ∧ scan t = .ok s

variable {input : String} {place place' : Names} {s s' : Scan}

/-- No directory stands in the place of the markup. -/
lemma Admits.not_directory (admits : w.Admits input place) :
    w.entry? (besidePlace place) ≠ some .directory := by
  obtain ⟨target, opens, entry⟩ := admits.accepts
  rw [← admits.opens.beside opens]
  exact entry

/-- An input that can be converted can be where the same directories stand. -/
lemma Admits.of_same (admits : w.Admits input place) (same : SameFolders w w') :
    w'.Admits input place :=
  ⟨same.opens.2 admits.opens, same.accepts.2 admits.accepts⟩

/-- An input is converted the same where its source and the directories are the same. -/
lemma Converts.of_same (converts : w.Converts input place s) (same : SameFolders w w')
    (entry : w'.entry? place = w.entry? place) : w'.Converts input place s :=
  ⟨converts.toAdmits.of_same same, entry ▸ converts.text⟩

/-- Inputs that open the same place have the same scan. -/
lemma Converts.scan_unique {input' : String} (converts : w.Converts input place s)
    (converts' : w.Converts input' place s') : s = s' := by
  obtain ⟨t, entry, scanned⟩ := converts.text
  obtain ⟨t', entry', scanned'⟩ := converts'.text
  have same : t.encode = t'.encode := Entry.file.inj (Option.some.inj (entry.symm.trans entry'))
  rw [Text.encode_injective same] at scanned
  exact Except.ok.inj (scanned.symm.trans scanned')

/-- An input is converted from one place, with one scan. -/
lemma Converts.unique (converts : w.Converts input place s)
    (converts' : w.Converts input place' s') : place = place' ∧ s = s' := by
  obtain rfl := converts.opens.unique converts'.opens
  exact ⟨rfl, converts.scan_unique converts'⟩

end Workspace

open Workspace

/-- An attempt at one of several inputs, with the scan if it is converted. -/
inductive Turns (r : Rendering) (w : Workspace) (input : String) :
    Option Scan → Workspace → Prop where
  | converted {place s} :
    w.Converts input place s →
    Turns r w input (some s) (w.put (besidePlace place) (.file (r.render s).encode))
  | failed :
    (∀ place s, ¬ w.Converts input place s) →
    Turns r w input none w

/-- An attempt at one of several inputs reads at one place and writes at another. -/
lemma Job.Ends.turns {r : Rendering} {stdin : ByteArray} {input : String} {w w' : Workspace}
    {outcome : Outcome} (ends : (Job.beside input).Ends r stdin w outcome w') :
    Turns r w input outcome.converted? w' := by
  have not_converts (failed : outcome.isConverted = false) (place : Names) (s : Scan) :
      ¬ w.Converts input place s := by
    intro converts
    obtain ⟨t, entry, -⟩ := converts.text
    have read := platform_read_eq_ok.2 (read_eq_ok.2 ⟨place, converts.opens, entry⟩)
    have feasible : (Job.beside input).Feasible stdin w :=
      ⟨⟨t, .file read⟩, by rintro _ ⟨⟩; exact converts.accepts⟩
    have done := ends.isConverted_iff.2 (Job.succeeds_iff_feasible.2 feasible)
    cases failed.symm.trans done
  cases ends with
  | unread _ => exact .failed (not_converts rfl)
  | unwritten _ _ writes =>
    obtain rfl := writes.eq_of_error
    exact .failed (not_converts rfl)
  | converted reads scanned writes =>
    cases reads with
    | file read =>
      cases writes with
      | file ok =>
        obtain ⟨place, opens, entry⟩ := read_eq_ok.1 (platform_read_eq_ok.1 read)
        obtain ⟨target, opens', free, rfl⟩ := write_eq_ok.1 (platform_write_eq_ok.1 ok)
        obtain rfl := opens.beside opens'
        exact .converted ⟨⟨opens, _, opens', free⟩, _, entry, scanned⟩

namespace Turns

variable {r : Rendering} {w w' v v' : Workspace} {input : String} {result result' : Option Scan}

/-- An attempt makes and removes no directory. -/
lemma sameFolders (turns : Turns r w input result w') : SameFolders w w' := by
  cases turns with
  | converted converts =>
    exact sameFolders_put w _ (besidePlace_ne_nil _) converts.not_directory
  | failed _ => exact .refl w

/-- An input that can be converted is converted. -/
lemma eq_of_converts {place : Names} {s : Scan} (turns : Turns r w input result w')
    (converts : w.Converts input place s) :
    result = some s ∧ w' = w.put (besidePlace place) (.file (r.render s).encode) := by
  cases turns with
  | converted converts' =>
    obtain ⟨rfl, rfl⟩ := converts.unique converts'
    exact ⟨rfl, rfl⟩
  | failed none => exact absurd converts (none _ _)

/-- An attempt has the same result where the same inputs can be converted. -/
lemma result_eq (turns : Turns r w input result w') (turns' : Turns r v input result' v')
    (same : ∀ place s, w.Converts input place s ↔ v.Converts input place s) : result = result' := by
  cases turns with
  | converted converts => exact ((turns'.eq_of_converts ((same _ _).1 converts)).1).symm
  | failed none =>
    cases turns' with
    | converted converts => exact absurd ((same _ _).2 converts) (none _ _)
    | failed _ => rfl

/-- An attempt goes the same where the same files stand. -/
lemma congr (turns : Turns r w input result w') (turns' : Turns r v input result' v')
    (same : SameFiles w v) : result = result' ∧ SameFiles w' v' := by
  cases turns with
  | @converted place s converts =>
    obtain ⟨rfl, rfl⟩ :=
      turns'.eq_of_converts (converts.of_same same.sameFolders (same.entries _))
    refine ⟨rfl, same.home, fun names => ?_⟩
    by_cases here : names = besidePlace place
    · have ne := besidePlace_ne_nil place
      rw [here, entry?_put_self _ _ ne, entry?_put_self _ _ ne]
    · rw [entry?_put_of_ne _ _ here, entry?_put_of_ne _ _ here, same.entries]
  | failed none =>
    cases turns' with
    | converted converts =>
      exact absurd (converts.of_same same.symm.sameFolders (same.symm.entries _)) (none _ _)
    | failed _ => exact ⟨rfl, same⟩

end Turns

/-- Attempts at some inputs, one after the other. -/
inductive Row (r : Rendering) :
    Workspace → List String → List (Option Scan) → Workspace → Prop where
  | nil {w} :
    Row r w [] [] w
  | cons {w w' last input inputs result results} :
    Turns r w input result w' →
    Row r w' inputs results last →
    Row r w (input :: inputs) (result :: results) last

/-- The attempts of a run at several inputs form a row. -/
lemma Batch.row {r : Rendering} {stdin : ByteArray} {w last : Workspace} {attempts : List (Attempt Workspace)}
    {inputs : List String} (batch : Batch r stdin w attempts last)
    (jobs : attempts.map Attempt.job = inputs.map .beside) :
    Row r w inputs (attempts.map (·.outcome.converted?)) last := by
  induction batch generalizing inputs with
  | nil =>
    obtain rfl : inputs = [] := List.map_eq_nil_iff.1 jobs.symm
    exact .nil
  | @cons a attempts last ends batch ih =>
    cases inputs with
    | nil => cases jobs
    | cons input inputs =>
      obtain ⟨job, rest⟩ := List.cons.inj jobs
      rw [job] at ends
      exact .cons ends.turns (ih rest)

namespace Row

variable {r : Rendering} {w v last last' : Workspace} {inputs others : List String}
  {results results' : List (Option Scan)}

/-- A row is made of the rows of two parts of its inputs. -/
lemma append_inv (row : Row r w (inputs ++ others) results last) :
    ∃ mid first second, results = first ++ second ∧ Row r w inputs first mid ∧
      Row r mid others second last := by
  induction inputs generalizing w results with
  | nil => exact ⟨w, [], results, rfl, .nil, row⟩
  | cons input inputs ih =>
    cases row with
    | cons turns row =>
      obtain ⟨mid, first, second, rfl, front, back⟩ := ih row
      exact ⟨mid, _, second, rfl, .cons turns front, back⟩

/-- A row goes the same where the same files stand. -/
lemma congr (row : Row r w inputs results last) (row' : Row r v inputs results' last')
    (same : SameFiles w v) : results = results' ∧ SameFiles last last' := by
  induction row generalizing v results' with
  | nil =>
    cases row' with
    | nil => exact ⟨rfl, same⟩
  | cons turns _ ih =>
    cases row' with
    | cons turns' row' =>
      obtain ⟨rfl, same⟩ := turns.congr turns' same
      obtain ⟨rfl, same⟩ := ih row' same
      exact ⟨rfl, same⟩

/-- What stands beside a place is changed by inputs only that open this place. -/
lemma entry?_besidePlace {place : Names} (row : Row r w inputs results last) (ne : place ≠ [])
    (closed : ∀ input ∈ inputs, ¬ w.Opens input.toList place) :
    last.entry? (besidePlace place) = w.entry? (besidePlace place) := by
  induction row with
  | nil => rfl
  | cons turns _ ih =>
    obtain ⟨closed_head, closed⟩ := List.forall_mem_cons.1 closed
    have same := turns.sameFolders
    rw [ih fun input mem => mt same.opens.1 (closed input mem)]
    cases turns with
    | converted converts =>
      refine entry?_put_of_ne _ _ fun here => closed_head ?_
      rw [besidePlace_inj ne converts.opens.ne_nil here]
      exact converts.opens
    | failed _ => rfl

end Row

end Highlight
