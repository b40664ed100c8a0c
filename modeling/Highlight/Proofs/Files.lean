import Highlight.Command.Host
import Mathlib.Data.List.Basic

/-!
# Files of a workspace

A path opens a place of a workspace (`Workspace.Opens`) if directories lead there and it has the
form of a file's name. What is read is the content at this place, and what is written is put there
(`Workspace.read_eq_ok`, `Workspace.write_eq_ok`).

A write makes and removes no directory, so all paths open what they opened before it
(`SameFolders.opens`). So the content can be read back, and nothing else is changed
(`Workspace.sets_of_write`).

What is shown of runs holds for more than workspaces. For some of it standard output must take all
that is printed (`LawfulPlatform`), and for some a file must be written as a whole or not at all
(`FramedPlatform`).
-/

namespace Highlight

/-- Bytes spell a text if they are its UTF-8 form. -/
lemma Text.decode?_eq_some {bytes : ByteArray} {t : Text} :
    Text.decode? bytes = some t ↔ bytes = t.encode := by
  unfold Text.decode? String.fromUTF8? Text.encode
  constructor
  · intro h
    split at h
    · cases h
      rw [String.ofList_toList]
      rfl
    · cases h
  · rintro rfl
    have valid : (String.ofList t).toUTF8.IsValidUTF8 := (String.ofList t).isValidUTF8
    rw [dif_pos valid, Option.map_some]
    show some (String.ofList t).toList = some t
    rw [String.toList_ofList]

/-- Bytes that spell no text. -/
lemma Text.decode?_eq_none {bytes : ByteArray} :
    Text.decode? bytes = none ↔ ∀ t : Text, bytes ≠ t.encode := by
  rw [Option.eq_none_iff_forall_ne_some]
  exact forall_congr' fun t => not_congr Text.decode?_eq_some

/-- A text is told by its UTF-8 form. -/
lemma Text.encode_injective : Function.Injective Text.encode := by
  intro s t h
  exact Option.some.inj ((Text.decode?_eq_some.2 rfl).symm.trans (Text.decode?_eq_some.2 h))

namespace Workspace

/-! ### Entries -/

/-- Entries at other names do not matter for a lookup. -/
lemma lookup_filter_ne (entries : List (Names × Entry)) {names other : Names} (ne : other ≠ names) :
    (entries.filter (·.1 != names)).lookup other = entries.lookup other := by
  induction entries with
  | nil => rfl
  | cons e entries ih =>
    obtain ⟨place, entry⟩ := e
    by_cases here : place = names
    · rw [List.filter_cons_of_neg (by simp [here]), ih, List.lookup_cons, here,
        beq_eq_false_iff_ne.2 ne]
    · rw [List.filter_cons_of_pos (by simp [here]), List.lookup_cons, List.lookup_cons, ih]

/-- What is put somewhere stands there. -/
lemma entry?_put_self (w : Workspace) {names : Names} (entry : Entry) (ne : names ≠ []) :
    entry? (w.put names entry) names = some entry := by
  unfold entry? put
  rw [if_neg ne, List.lookup_cons_self]

/-- Nothing else is changed by what is put somewhere. -/
lemma entry?_put_of_ne (w : Workspace) {names other : Names} (entry : Entry) (ne : other ≠ names) :
    entry? (w.put names entry) other = w.entry? other := by
  unfold entry? put
  rw [List.lookup_cons, beq_eq_false_iff_ne.2 ne, lookup_filter_ne _ ne]

/-! ### Paths -/

/-- A path that has the form of a file's name and leads to a place through directories. What stands
at the place does not matter. -/
inductive Opens (w : Workspace) (path : Text) : Names → Prop where
  | name {folder last} :
    w.locate path = .ok (.name folder last) →
    (Path.ofText path).slashed = false →
    last.size ≤ longestName →
    Opens w path (folder ++ [last])

/-- A path never opens the root. -/
lemma Opens.ne_nil {w : Workspace} {path : Text} {names : Names} (opens : w.Opens path names) :
    names ≠ [] := by
  cases opens with
  | name _ _ _ => simp

/-- A path opens one place at most. -/
lemma Opens.unique {w : Workspace} {path : Text} {names names' : Names} (opens : w.Opens path names)
    (opens' : w.Opens path names') : names = names' := by
  cases opens with
  | name located _ _ =>
    cases opens' with
    | name located' _ _ =>
      cases located.symm.trans located'
      rfl

/-- The content of a file is read where a path opens it. -/
lemma read_eq_ok {w : Workspace} {path : Text} {content : ByteArray} :
    w.read path = .ok content ↔
      ∃ names, w.Opens path names ∧ w.entry? names = some (.file content) := by
  constructor
  · intro h
    unfold read at h
    split at h
    · cases h
    · cases h
    · next folder last located =>
      split at h
      · cases h
      · next short =>
        split at h
        · cases h
        · cases h
        · next entry =>
          split at h
          · cases h
          · next plain =>
            cases h
            exact ⟨_, .name located (by simpa using plain) (Nat.le_of_not_lt short), entry⟩
  · rintro ⟨_, ⟨located, plain, short⟩, entry⟩
    unfold read
    rw [located]
    dsimp only
    rw [if_neg (Nat.not_lt_of_le short), entry]
    dsimp only
    rw [plain, if_neg Bool.false_ne_true]

/-- What is written becomes the content at the place that a path opens, unless a directory stands
there. -/
lemma write_eq_ok {w w' : Workspace} {path : Text} {content : ByteArray} :
    w.write path content = .ok w' ↔
      ∃ names, w.Opens path names ∧ w.entry? names ≠ some .directory ∧
        w' = w.put names (.file content) := by
  constructor
  · intro h
    unfold write at h
    split at h
    · cases h
    · cases h
    · next folder last located =>
      split at h
      · cases h
      · next plain =>
        split at h
        · cases h
        · next short =>
          split at h
          · cases h
          · next entry =>
            cases h
            exact ⟨_, .name located (by simpa using plain) (Nat.le_of_not_lt short), entry, rfl⟩
  · rintro ⟨_, ⟨located, plain, short⟩, entry, rfl⟩
    unfold write
    rw [located]
    dsimp only
    rw [plain, if_neg Bool.false_ne_true, if_neg (Nat.not_lt_of_le short), if_neg entry]

/-! ### Directories -/

/-- The same directories stand in two workspaces. -/
structure SameFolders (w w' : Workspace) : Prop where
  home : w'.home = w.home
  folders : ∀ names, w'.entry? names = some .directory ↔ w.entry? names = some .directory

namespace SameFolders

variable {w w' : Workspace}

lemma refl (w : Workspace) : SameFolders w w := ⟨rfl, fun _ => .rfl⟩

lemma symm (same : SameFolders w w') : SameFolders w' w :=
  ⟨same.home.symm, fun names => (same.folders names).symm⟩

lemma trans {w'' : Workspace} (same : SameFolders w w') (same' : SameFolders w' w'') :
    SameFolders w w'' :=
  ⟨same'.home.trans same.home, fun names => (same'.folders names).trans (same.folders names)⟩

/-- A directory that is entered is one in both workspaces. -/
lemma enter {folder next : Names} {name : Text} (same : SameFolders w w')
    (ok : w.enter folder name = .ok next) : w'.enter folder name = .ok next := by
  unfold Workspace.enter at ok ⊢
  split at ok
  · next here => rw [if_pos here, ok]
  · next here =>
    rw [if_neg here]
    split at ok
    · next above => rw [if_pos above, ok]
    · next above =>
      rw [if_neg above]
      split at ok
      · cases ok
      · next short =>
        rw [if_neg short]
        split at ok
        · cases ok
        · cases ok
        · next entry => rw [(same.folders _).2 entry, ok]

/-- Directories are entered one after the other the same way. -/
lemma enterAll {names folder next : Names} (same : SameFolders w w')
    (ok : w.enterAll folder names = .ok next) : w'.enterAll folder names = .ok next := by
  induction names generalizing folder with
  | nil => exact ok
  | cons name names ih =>
    rw [Workspace.enterAll] at ok ⊢
    split at ok
    · next entered =>
      rw [same.enter entered]
      exact ih ok
    · cases ok

/-- A path is followed the same way. -/
lemma follow {path : Path} {target : Target} (same : SameFolders w w')
    (ok : w.follow path = .ok target) : w'.follow path = .ok target := by
  unfold Workspace.follow at ok ⊢
  rw [same.home]
  split at ok
  · exact ok
  · split at ok
    · next entered =>
      rw [same.enterAll entered]
      exact ok
    · cases ok

/-- A path that is given as text leads to the same target. -/
lemma locate {path : Text} {target : Target} (same : SameFolders w w')
    (ok : w.locate path = .ok target) : w'.locate path = .ok target := by
  unfold Workspace.locate at ok ⊢
  split at ok
  · cases ok
  · next named =>
    rw [if_neg named]
    split at ok
    · cases ok
    · next some =>
      rw [if_neg some]
      split at ok
      · cases ok
      · next short =>
        rw [if_neg short]
        exact same.follow ok

/-- Paths open the same places where the same directories stand. -/
lemma opens {path : Text} {names : Names} (same : SameFolders w w') :
    w'.Opens path names ↔ w.Opens path names := by
  constructor
  · rintro ⟨located, plain, short⟩
    exact .name (same.symm.locate located) plain short
  · rintro ⟨located, plain, short⟩
    exact .name (same.locate located) plain short

end SameFolders

/-- A file in the place of no directory leaves all directories as they are. -/
lemma sameFolders_put (w : Workspace) {names : Names} (content : ByteArray) (ne : names ≠ [])
    (entry : w.entry? names ≠ some .directory) :
    SameFolders w (w.put names (.file content)) := by
  refine ⟨rfl, fun other => ?_⟩
  by_cases here : other = names
  · subst here
    rw [entry?_put_self w _ ne]
    exact ⟨nofun, fun directory => absurd directory entry⟩
  · rw [entry?_put_of_ne w _ here]

/-- A write makes and removes no directory. -/
lemma sameFolders_of_write {w w' : Workspace} {path : Text} {content : ByteArray}
    (ok : w.write path content = .ok w') : SameFolders w w' := by
  obtain ⟨names, opens, entry, rfl⟩ := write_eq_ok.1 ok
  exact sameFolders_put w content opens.ne_nil entry

/-! ### Writes -/

/-- A path opens a place where no directory stands, so that a file can be written there. -/
def Accepts (w : Workspace) (path : Text) : Prop :=
  ∃ names, w.Opens path names ∧ w.entry? names ≠ some .directory

/-- A write succeeds where a file can be written, whatever the content. -/
lemma exists_write_iff {w : Workspace} {path : Text} (content : ByteArray) :
    (∃ w', w.write path content = .ok w') ↔ w.Accepts path := by
  constructor
  · rintro ⟨w', ok⟩
    obtain ⟨names, opens, entry, -⟩ := write_eq_ok.1 ok
    exact ⟨names, opens, entry⟩
  · rintro ⟨names, opens, entry⟩
    exact ⟨_, write_eq_ok.2 ⟨names, opens, entry, rfl⟩⟩

/-- A file can be written at the same paths where the same directories stand. -/
lemma SameFolders.accepts {w w' : Workspace} {path : Text} (same : SameFolders w w') :
    w'.Accepts path ↔ w.Accepts path :=
  exists_congr fun names => and_congr same.opens (not_congr (same.folders names))

/-- The file that a path opens has a new content, and all else is as it was. -/
structure Sets (w : Workspace) (path : Text) (content : ByteArray) (w' : Workspace) : Prop where
  home : w'.home = w.home
  entry : ∃ names, w.Opens path names ∧ w'.entry? names = some (.file content) ∧
    ∀ other, other ≠ names → w'.entry? other = w.entry? other
  read : w'.read path = .ok content

/-- A write sets the content of one file. -/
lemma sets_of_write {w w' : Workspace} {path : Text} {content : ByteArray}
    (ok : w.write path content = .ok w') : w.Sets path content w' := by
  have same := sameFolders_of_write ok
  obtain ⟨names, opens, -, rfl⟩ := write_eq_ok.1 ok
  have entry := entry?_put_self w (.file content) opens.ne_nil
  refine ⟨same.home, ⟨names, opens, entry, fun other => entry?_put_of_ne w _⟩, ?_⟩
  exact read_eq_ok.2 ⟨names, same.opens.2 opens, entry⟩

/-- What can be read elsewhere can be read as before a write. -/
lemma read_of_write {w w' : Workspace} {path other : Text} {content : ByteArray}
    (ok : w.write path content = .ok w') :
    w'.read other = .ok content ∨
      ∀ found, w'.read other = .ok found ↔ w.read other = .ok found := by
  have same := sameFolders_of_write ok
  obtain ⟨names, opens, -, rfl⟩ := write_eq_ok.1 ok
  by_cases here : w.Opens other names
  · left
    exact read_eq_ok.2 ⟨names, same.opens.2 here, entry?_put_self w _ opens.ne_nil⟩
  · right
    intro found
    rw [read_eq_ok, read_eq_ok]
    refine exists_congr fun place => ?_
    rw [same.opens]
    refine and_congr_right fun opens' => ?_
    have elsewhere : place ≠ names := by
      rintro rfl
      exact here opens'
    rw [entry?_put_of_ne w _ elsewhere]

end Workspace

/-! ### Platforms -/

/-- A platform whose standard output takes all that is printed. -/
class LawfulPlatform (W : Type) [Platform W] : Prop where
  print_eq : ∀ (w : W) (text : Text), Platform.print w text = (.ok (), text)

/-- A platform on which a file is written as a whole or not at all. -/
class FramedPlatform (W : Type) [Platform W] extends LawfulPlatform W where
  /-- A file can be written at a path. -/
  Accepts : W → String → Prop
  /-- The file at a path has a new content, and all else is as it was. -/
  Sets : W → String → ByteArray → W → Prop
  /-- What is written does not matter for whether it can be. -/
  exists_write_iff : ∀ {w : W} {path} content,
    (∃ w', Platform.write w path content = (.ok (), w')) ↔ Accepts w path
  /-- A write sets the content of one file. -/
  sets_of_write : ∀ {w w' : W} {path content},
    Platform.write w path content = (.ok (), w') → Sets w path content w'
  /-- A write that fails changes nothing. -/
  eq_of_write_error : ∀ {w w' : W} {path content cause},
    Platform.write w path content = (.error cause, w') → w' = w
  /-- What was written is read back. -/
  read_of_sets : ∀ {w w' : W} {path content},
    Sets w path content w' → Platform.read w' path = .ok content
  /-- Under other names there is the same file, or what was there before. -/
  frame : ∀ {w w' : W} {path content} other, Platform.write w path content = (.ok (), w') →
    Platform.read w' other = .ok content ∨
      ∀ found, Platform.read w' other = .ok found ↔ Platform.read w other = .ok found

namespace Workspace

variable {w w' : Workspace} {path : String} {content : ByteArray}

/-- The platform tells the faults of the workspace. -/
lemma platform_read_of_error {fault : Fault} (error : w.read path.toList = .error fault) :
    Platform.read w path = .error fault.failure := by
  simp only [Platform.read, error]

/-- The platform reads what the workspace does. -/
lemma platform_read_eq_ok :
    Platform.read w path = .ok content ↔ w.read path.toList = .ok content := by
  cases read : w.read path.toList with
  | ok _ => simp only [Platform.read, read, Except.ok.injEq]
  | error fault =>
    rw [platform_read_of_error read]
    exact iff_of_false (by simp) (by simp)

/-- The platform changes nothing where the workspace finds a fault. -/
lemma platform_write_of_error {fault : Fault} (error : w.write path.toList content = .error fault) :
    Platform.write w path content = (.error fault.failure, w) := by
  simp only [Platform.write, error]

/-- The platform writes what the workspace does. -/
lemma platform_write_eq_ok :
    Platform.write w path content = (.ok (), w') ↔ w.write path.toList content = .ok w' := by
  cases written : w.write path.toList content with
  | ok _ => simp only [Platform.write, written, Prod.mk.injEq, Except.ok.injEq, true_and]
  | error fault =>
    rw [platform_write_of_error written]
    exact iff_of_false (by simp) (by simp)

/-- A write that fails changes nothing. -/
lemma eq_of_platform_write_error {cause : IoFailure}
    (error : Platform.write w path content = (.error cause, w')) : w' = w := by
  cases written : w.write path.toList content with
  | ok _ => cases error.symm.trans (platform_write_eq_ok.2 written)
  | error fault =>
    rw [platform_write_of_error written] at error
    exact (Prod.mk.inj error).2.symm

instance : FramedPlatform Workspace where
  print_eq _ _ := rfl
  Accepts w path := w.Accepts path.toList
  Sets w path content w' := w.Sets path.toList content w'
  exists_write_iff content := by
    simp only [platform_write_eq_ok]
    exact exists_write_iff content
  sets_of_write ok := sets_of_write (platform_write_eq_ok.1 ok)
  eq_of_write_error := eq_of_platform_write_error
  read_of_sets sets := platform_read_eq_ok.2 sets.read
  frame other ok := by
    simp only [platform_read_eq_ok]
    exact read_of_write (platform_write_eq_ok.1 ok)

end Workspace

end Highlight
