import InfixArithmetic.Command.Run

/-!
# Expressions from words and from files

An expression can be given in the words of the command line or in a file.  As long as the
words cannot be taken for options, both ways lead to the same output and exit code, however
the options are spelled and in whatever order they are given.

This does not depend on how the words are read.  It holds of every reader of words that
follows three conventions of command lines, and the reader of the command follows them.

Main results:

- `Command.IsOption`: how options are spelled.
- `Command.Conventions`: what is asked of a reader of words.
- `Command.Word.ofString_eq_operand`: every word that is no option starts the expression.
- `Command.Options.read_treeOption` and `Command.Options.read_pathOption`: what the
  spellings of the two options have in common.
- `Command.conventions_read`: the reader of the command follows the conventions.
- `Command.runWith_words_eq_runWith_file`: words and file give the same outcome, with any
  reader that follows the conventions.
- `Command.run_words_eq_run_file`: the same with the reader of the command.
-/

namespace InfixArithmetic
namespace Command

/-! ## Spelling options -/

/-- The names of the options, which follow two hyphens. -/
def longNames : List String :=
  ["tree", "path", "help", "version"]

/-- The letters of the options, which follow one hyphen. -/
def shortNames : List Char :=
  ['t', 'p', 'h', 'V']

/-- The word is an option: a long name, alone or with a value that need not be allowed, or
at least one of the letters. -/
inductive IsOption : String → Prop where
  | long (name : String) : name ∈ longNames → IsOption ("--" ++ name)
  | valued (name value : String) : name ∈ longNames → IsOption ("--" ++ name ++ "=" ++ value)
  | cluster (letters : List Char) :
      letters ≠ [] → (∀ c ∈ letters, c ∈ shortNames) → IsOption (.ofList ('-' :: letters))

/-- The ways to ask for the tree at most once. -/
def treeSpellings : List (List String) :=
  [[], ["-t"], ["--tree"]]

/-- The ways to name a file. -/
def pathSpellings (path : String) : List (List String) :=
  [["-p", path], ["--path", path], ["--path=" ++ path]]

/-- The conventions of command lines, as far as the words of an expression and the name of a
file depend on them.  How the options may be mixed or combined otherwise, and what is done
about misuse, is left to the reader of the words. -/
structure Conventions (read : List String → Request) : Prop where
  /-- Behind the divider all words belong to the expression. -/
  divider : ∀ flag ∈ treeSpellings, ∀ words,
    read (flag ++ "--" :: words) = .words (!flag.isEmpty) words
  /-- A word that is neither an option nor the divider starts the expression. -/
  operand : ∀ flag ∈ treeSpellings, ∀ word others, ¬ IsOption word → word ≠ "--" →
    read (flag ++ word :: others) = .words (!flag.isEmpty) (word :: others)
  /-- The tree may be asked for before a file is named. -/
  file : ∀ flag ∈ treeSpellings, ∀ path, path ≠ "" → path.toList.head? ≠ some '-' →
    ∀ named ∈ pathSpellings path, read (flag ++ named) = .file (!flag.isEmpty) path
  /-- The tree may be asked for behind the name of a file. -/
  file_swapped : ∀ flag ∈ treeSpellings, ∀ path, path ≠ "" → path.toList.head? ≠ some '-' →
    ∀ named ∈ pathSpellings path, read (named ++ flag) = .file (!flag.isEmpty) path

/-- Options start with a hyphen. -/
theorem IsOption.head?_eq {word : String} (h : IsOption word) : word.toList.head? = some '-' := by
  cases h <;> simp

theorem mem_longNames_of_ofName? {name : String} {flag : Flag}
    (h : Flag.ofName? name = some flag) : name ∈ longNames := by
  unfold Flag.ofName? at h
  split at h <;> first | decide | cases h

theorem mem_shortNames_of_ofLetter? {c : Char} (h : (Flag.ofLetter? c).isSome = true) :
    c ∈ shortNames := by
  unfold Flag.ofLetter? at h
  split at h <;> first | decide | cases h

namespace Word

/-- Behind two hyphens stands an option or the start of the expression. -/
theorem ofLong_eq_operand {name : List Char} (h : ¬ IsOption (.ofList ('-' :: '-' :: name))) :
    Word.ofLong name = .operand := by
  unfold Word.ofLong
  cases hflag : Flag.ofName? (.ofList (name.takeWhile (· != '='))) with
  | none => rfl
  | some flag =>
    have hname := mem_longNames_of_ofName? hflag
    have hsplit : name.takeWhile (· != '=') ++ name.dropWhile (· != '=') = name :=
      List.takeWhile_append_dropWhile
    cases hdrop : name.dropWhile (· != '=') with
    | nil =>
      have hword : String.ofList ('-' :: '-' :: name) =
          "--" ++ .ofList (name.takeWhile (· != '=')) := by
        apply String.toList_injective
        rw [hdrop, List.append_nil] at hsplit
        simp [hsplit]
      rw [hword] at h
      exact absurd (.long _ hname) h
    | cons c value =>
      have hhead := List.head?_dropWhile_not (· != '=') name
      rw [hdrop] at hhead
      obtain rfl : c = '=' := by simpa using hhead
      have hword : String.ofList ('-' :: '-' :: name) =
          "--" ++ .ofList (name.takeWhile (· != '=')) ++ "=" ++ .ofList value := by
        apply String.toList_injective
        rw [hdrop] at hsplit
        simp [hsplit]
      rw [hword] at h
      exact absurd (.valued _ _ hname) h

/-- A word that is neither an option nor the divider starts the expression. -/
theorem ofString_eq_operand {word : String} (hoption : ¬ IsOption word) (hdivider : word ≠ "--") :
    Word.ofString word = .operand := by
  unfold Word.ofString
  split
  next h => exact absurd (String.toList_injective h) hdivider
  next name _ h =>
    apply ofLong_eq_operand
    rwa [← h, String.ofList_toList]
  next letter letters _ _ h =>
    rw [if_neg]
    intro hall
    apply hoption
    rw [← String.ofList_toList (s := word), h]
    refine .cluster _ (List.cons_ne_nil letter letters) fun c hc => ?_
    exact mem_shortNames_of_ofLetter? (List.all_eq_true.mp hall c hc)
  next => rfl

/-- A word without a hyphen in front is no option. -/
theorem ofString_eq_operand_of_head? {word : String} (h : word.toList.head? ≠ some '-') :
    Word.ofString word = .operand := by
  unfold Word.ofString
  split
  next hword => simp [hword] at h
  next hword => simp [hword] at h
  next hword => simp [hword] at h
  next => rfl

/-- The name of a file may follow an equals sign. -/
theorem ofString_path (path : String) :
    Word.ofString ("--path=" ++ path) = .long .path (some path) := by
  have hword : ("--path=" ++ path).toList =
      '-' :: '-' :: (['p', 'a', 't', 'h'] ++ '=' :: path.toList) := by simp
  have hlong : Word.ofLong (['p', 'a', 't', 'h'] ++ '=' :: path.toList) =
      .long .path (some (.ofList path.toList)) := rfl
  rw [Word.ofString, hword]
  simp only [List.cons_append]
  exact hlong.trans (by rw [String.ofList_toList])

end Word

/-! ## Reading options -/

namespace Options

variable {o : Options} {named flag : List String} {path word : String}

/-- Behind the divider all words belong to the expression. -/
theorem read_divider (o : Options) (words : List String) :
    o.read ("--" :: words) = o.request words :=
  rfl

/-- From the first word that is no option on, all words belong to the expression. -/
theorem read_operand (h : Word.ofString word = .operand) (o : Options) (words : List String) :
    o.read (word :: words) = o.request (word :: words) := by
  simp [Options.read, Options.word, h]

/-- The tree option may be given once, in either spelling. -/
theorem read_treeOption (h : flag ∈ treeSpellings) (ho : o.tree = false) (words : List String) :
    o.read (flag ++ words) = Options.read { o with tree := !flag.isEmpty } words := by
  rcases o with ⟨tree, path⟩
  simp only at ho
  subst ho
  simp only [treeSpellings, List.mem_cons, List.not_mem_nil, or_false] at h
  rcases h with rfl | rfl | rfl <;> rfl

/-- A file may be named once, in each spelling. -/
theorem read_pathOption (h : named ∈ pathSpellings path) (hpath : path ≠ "")
    (hhyphen : path.toList.head? ≠ some '-') (ho : o.path = none) (words : List String) :
    o.read (named ++ words) = Options.read { o with path := some path } words := by
  have hset : o.setPath? path = some { o with path := some path } := by
    simp [Options.setPath?, ho, hpath]
  have hvalue : (Word.ofString path).isReserved = false := by
    rw [Word.ofString_eq_operand_of_head? hhyphen]
    rfl
  simp only [pathSpellings, List.mem_cons, List.not_mem_nil, or_false] at h
  rcases h with rfl | rfl | rfl
  · have hword : o.word "-p" (path :: words) = .awaitPath o := rfl
    simp [Options.read, hword, hvalue, hset]
  · have hword : o.word "--path" (path :: words) = .awaitPath o := rfl
    simp [Options.read, hword, hvalue, hset]
  · have hword : o.word ("--path=" ++ path) words = .proceed { o with path := some path } := by
      simp [Options.word, Word.ofString_path, Options.long, hset, Effect.ofOptions?]
    simp [Options.read, hword]

end Options

/-- The reader of the command follows the conventions. -/
theorem conventions_read : Conventions Request.read where
  divider := by
    intro flag hflag words
    rw [Request.read, Options.read_treeOption hflag rfl, Options.read_divider]
    rfl
  operand := by
    intro flag hflag word others hoption hdivider
    rw [Request.read, Options.read_treeOption hflag rfl,
      Options.read_operand (Word.ofString_eq_operand hoption hdivider)]
    rfl
  file := by
    intro flag hflag path hpath hhyphen named hnamed
    rw [Request.read, Options.read_treeOption hflag rfl, ← List.append_nil named,
      Options.read_pathOption hnamed hpath hhyphen rfl]
    rfl
  file_swapped := by
    intro flag hflag path hpath hhyphen named hnamed
    rw [Request.read, Options.read_pathOption hnamed hpath hhyphen rfl, ← List.append_nil flag,
      Options.read_treeOption hflag rfl, List.append_nil]
    rfl

/-! ## Outcomes -/

variable {read : List String → Request} {contents : String → Option ByteArray} {flag named words : List String}
  {path text : String}

/-- The command succeeds exactly if the text can be calculated. -/
theorem exitCode_present_eq_zero_iff (tree : Bool) (text : String) :
    (present tree text).exitCode = 0 ↔ ∃ x, calculate text = .ok x := by
  have hfailure : (1 : UInt32) ≠ 0 := by decide
  cases hread : Expr.ofText text with
  | error fault =>
    cases tree <;> simp [present, answer, calculate, hread, Except.map, Outcome.failure, hfailure]
  | ok e =>
    cases tree <;> simp [present, answer, calculate, hread, Except.map, Outcome.success]

/-- What is shown of a text that cannot be calculated does not depend on what was asked for. -/
theorem present_eq_of_exitCode_ne_zero {tree : Bool} (h : (present tree text).exitCode ≠ 0)
    (other : Bool) : present other text = present tree text := by
  cases hread : Expr.ofText text with
  | error fault =>
    cases tree <;> cases other <;> simp [present, answer, calculate, hread, Except.map]
  | ok e =>
    have hsuccess : (present tree text).exitCode = 0 :=
      (exitCode_present_eq_zero_iff tree text).mpr ⟨e.evaluate, by simp [calculate, hread, Except.map]⟩
    exact absurd hsuccess h

/-- Words that are read as an expression are joined and calculated. -/
theorem runWith_of_words {line words : List String} {tree : Bool}
    (h : read line = .words tree words) (hwords : words ≠ [])
    (contents : String → Option ByteArray) :
    runWith read contents line = present tree (" ".intercalate words) := by
  rcases List.exists_cons_of_ne_nil hwords with ⟨word, others, rfl⟩
  rw [runWith, h]

/-- A file that is named and can be read is calculated. -/
theorem runWith_of_file {line : List String} {tree : Bool} (h : read line = .file tree path)
    (hfile : (contents path).bind String.fromUTF8? = some text) :
    runWith read contents line = present tree text := by
  rw [runWith, h]
  simp only [hfile]

/-- An expression in words and the same expression in a file lead to the same output and exit
code, with every reader of words that follows the conventions. -/
theorem runWith_words_eq_runWith_file (hread : Conventions read) (hflag : flag ∈ treeSpellings)
    (hwords : words ≠ []) (hnamed : named ∈ pathSpellings path) (hpath : path ≠ "")
    (hhyphen : path.toList.head? ≠ some '-')
    (hfile : (contents path).bind String.fromUTF8? = some (" ".intercalate words)) :
    runWith read contents (flag ++ "--" :: words) = runWith read contents (flag ++ named) ∧
    runWith read contents (named ++ flag) = runWith read contents (flag ++ named) ∧
    ((∀ word ∈ words.head?, ¬ IsOption word ∧ word ≠ "--") →
      runWith read contents (flag ++ words) = runWith read contents (flag ++ named)) ∧
    ((runWith read contents (flag ++ named)).exitCode = 0 ↔
      ∃ x, calculate (" ".intercalate words) = .ok x) ∧
    ((runWith read contents (flag ++ named)).exitCode ≠ 0 → ∀ other ∈ treeSpellings,
      (runWith read contents (other ++ named)).output =
        (runWith read contents (flag ++ named)).output) := by
  have hnaming (other : List String) (hother : other ∈ treeSpellings) :
      runWith read contents (other ++ named) =
        present (!other.isEmpty) (" ".intercalate words) :=
    runWith_of_file (hread.file other hother path hpath hhyphen named hnamed) hfile
  have hswapped := hread.file_swapped flag hflag path hpath hhyphen named hnamed
  rw [hnaming flag hflag, runWith_of_file hswapped hfile,
    runWith_of_words (hread.divider flag hflag words) hwords]
  refine ⟨rfl, rfl, ?_, exitCode_present_eq_zero_iff _ _, ?_⟩
  · intro hfirst
    rcases List.exists_cons_of_ne_nil hwords with ⟨word, others, rfl⟩
    have hword := hfirst word rfl
    exact runWith_of_words (hread.operand flag hflag word others hword.1 hword.2) hwords contents
  · intro hfailed other hother
    rw [hnaming other hother, present_eq_of_exitCode_ne_zero hfailed]

/-- An expression in words and the same expression in a file lead to the same output and exit
code.  The divider may be left out if the first word cannot be taken for an option or for the
divider.  The exit code is zero exactly if the expression can be calculated, and if it cannot,
it does not matter whether the tree was asked for. -/
theorem run_words_eq_run_file (hflag : flag ∈ treeSpellings) (hwords : words ≠ [])
    (hnamed : named ∈ pathSpellings path) (hpath : path ≠ "")
    (hhyphen : path.toList.head? ≠ some '-')
    (hfile : (contents path).bind String.fromUTF8? = some (" ".intercalate words)) :
    run contents (flag ++ "--" :: words) = run contents (flag ++ named) ∧
    run contents (named ++ flag) = run contents (flag ++ named) ∧
    ((∀ word ∈ words.head?, ¬ IsOption word ∧ word ≠ "--") →
      run contents (flag ++ words) = run contents (flag ++ named)) ∧
    ((run contents (flag ++ named)).exitCode = 0 ↔
      ∃ x, calculate (" ".intercalate words) = .ok x) ∧
    ((run contents (flag ++ named)).exitCode ≠ 0 → ∀ other ∈ treeSpellings,
      (run contents (other ++ named)).output = (run contents (flag ++ named)).output) :=
  runWith_words_eq_runWith_file conventions_read hflag hwords hnamed hpath hhyphen hfile

/-- A hyphen in the expression is no option, and the tree may be asked for behind the file. -/
theorem run_words_eq_run_file_difference :
    run (fun _ => some "7 - 3".toUTF8) ["-t", "7", "-", "3"] =
        run (fun _ => some "7 - 3".toUTF8) ["--path=sum", "-t"] ∧
      (run (fun _ => some "7 - 3".toUTF8) ["--path=sum", "-t"]).exitCode = 0 := by
  have hnumber : ¬ IsOption "7" := fun h => absurd h.head?_eq (by decide)
  have hfile : (some "7 - 3".toUTF8).bind String.fromUTF8? =
      some (" ".intercalate ["7", "-", "3"]) := by decide +kernel
  obtain ⟨e, hread⟩ : ∃ e, Expr.ofText (" ".intercalate ["7", "-", "3"]) = .ok e := by
    have hok : (Expr.ofText (" ".intercalate ["7", "-", "3"])).isOk = true := by decide +kernel
    cases hread : Expr.ofText (" ".intercalate ["7", "-", "3"]) with
    | error fault =>
      rw [hread] at hok
      cases hok
    | ok e => exact ⟨e, rfl⟩
  have hagree := @run_words_eq_run_file (fun _ => some "7 - 3".toUTF8) ["-t"] ["--path=sum"]
    ["7", "-", "3"] "sum" (by decide) (by decide) (by decide) (by decide) (by decide) hfile
  rw [← List.singleton_append (x := "--path=sum"), hagree.2.1]
  refine ⟨hagree.2.2.1 fun word hword => ?_, hagree.2.2.2.1.mpr ⟨e.evaluate, ?_⟩⟩
  · obtain rfl : "7" = word := by simpa using hword
    exact ⟨hnumber, by decide⟩
  · rw [calculate, hread]
    rfl

end Command
end InfixArithmetic
