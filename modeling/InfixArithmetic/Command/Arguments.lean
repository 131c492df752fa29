/-!
# Command-line words

The words of a command line are options up to the first one that cannot be an
option.  From there on, or after a lone `--`, every word belongs to the
expression, whatever it looks like, because operators look like options.

Main results:

- `Command.Request.read`: what the words of a command line ask for.
-/

namespace InfixArithmetic
namespace Command

/-- The options. -/
inductive Flag where
  | tree
  | path
  | help
  | version
deriving DecidableEq

/-- The option with a one-letter name. -/
def Flag.ofLetter? : Char → Option Flag
  | 't' => some tree
  | 'p' => some path
  | 'h' => some help
  | 'V' => some version
  | _ => none

/-- The option with a long name. -/
def Flag.ofName? : String → Option Flag
  | "tree" => some tree
  | "path" => some path
  | "help" => some help
  | "version" => some version
  | _ => none

/-! ## Single words -/

/-- How a word reads as long as options are allowed. -/
inductive Word where
  /-- Two hyphens, after which no option follows. -/
  | divider
  /-- Two hyphens and the name of an option, perhaps with a value after an
  equals sign. -/
  | long (flag : Flag) (value : Option String)
  /-- One hyphen and the letters of options. -/
  | cluster (letters : List Char)
  /-- Anything else, which starts the expression. -/
  | operand

/-- Two hyphens and a name, cut at the first equals sign. -/
def Word.ofLong (name : List Char) : Word :=
  match Flag.ofName? (String.ofList (name.takeWhile (· != '='))) with
  | none => .operand
  | some flag =>
    match name.dropWhile (· != '=') with
    | [] => .long flag none
    | _ :: value => .long flag (some (String.ofList value))

/-- Reads a word as an option.  One hyphen makes an option only of letters that
all name options, so that a negative number is no option. -/
def Word.ofString (word : String) : Word :=
  match word.toList with
  | ['-', '-'] => .divider
  | '-' :: '-' :: name => Word.ofLong name
  | '-' :: letter :: letters =>
    if (letter :: letters).all fun c => (Flag.ofLetter? c).isSome then
      .cluster (letter :: letters)
    else
      .operand
  | _ => .operand

/-- Whether a word can only be an option or the divider, and so is no value for
the option before it. -/
def Word.isReserved : Word → Bool
  | operand => false
  | _ => true

/-! ## Command lines -/

/-- What a command line asks for. -/
inductive Request where
  /-- The words do not follow the rules. -/
  | misuse
  | help
  | version
  /-- Calculate the expression in a file. -/
  | file (tree : Bool) (path : String)
  /-- Calculate the expression that the words form. -/
  | words (tree : Bool) (words : List String)
deriving DecidableEq

/-- The options met so far. -/
structure Options where
  tree : Bool
  path : Option String

/-- The options before any word is read. -/
def Options.start : Options :=
  ⟨false, none⟩

/-- The tree option may be given once. -/
def Options.setTree? (o : Options) : Option Options :=
  if o.tree then none else some { o with tree := true }

/-- The path option may be given once, with a path that is not empty. -/
def Options.setPath? (o : Options) (path : String) : Option Options :=
  if o.path.isSome || path.isEmpty then none else some { o with path := some path }

/-- The request once the options are known: the expression comes from the file or
from the words, never from both. -/
def Options.request (o : Options) (words : List String) : Request :=
  match o.path, words with
  | none, _ => .words o.tree words
  | some path, [] => .file o.tree path
  | some _, _ :: _ => .misuse

/-- What an option word leads to: more words with these options, a word that is
to be the path, or an answer at once. -/
inductive Effect where
  | proceed (options : Options)
  | awaitPath (options : Options)
  | answer (request : Request)

/-- Goes on with the options, or gives up if there are none. -/
def Effect.ofOptions? : Option Options → Effect
  | some o => .proceed o
  | none => .answer .misuse

/-- The effect of an option with a long name.  Only the path takes a value. -/
def Options.long (o : Options) : Flag → Option String → Effect
  | .tree, none => .ofOptions? o.setTree?
  | .path, none => .awaitPath o
  | .path, some value => .ofOptions? (o.setPath? value)
  | .help, none => .answer .help
  | .version, none => .answer .version
  | _, some _ => .answer .misuse

/-- The effect of a cluster of option letters, from left to right.  All that
follows the letter of the path is the path. -/
def Options.cluster (o : Options) : List Char → Effect
  | [] => .proceed o
  | letter :: letters =>
    match Flag.ofLetter? letter with
    | some .tree =>
      match o.setTree? with
      | some o => o.cluster letters
      | none => .answer .misuse
    | some .path =>
      match letters with
      | [] => .awaitPath o
      | _ :: _ => .ofOptions? (o.setPath? (String.ofList letters))
    | some .help => .answer .help
    | some .version => .answer .version
    | none => .answer .misuse

/-- The effect of a word, given the words after it.  The first word that is no
option starts the expression, and the divider stands before it. -/
def Options.word (o : Options) (word : String) (words : List String) : Effect :=
  match Word.ofString word with
  | .divider => .answer (o.request words)
  | .operand => .answer (o.request (word :: words))
  | .long flag value => o.long flag value
  | .cluster letters => o.cluster letters

/-- Reads the words that follow the given options. -/
def Options.read (o : Options) : List String → Request
  | [] => o.request []
  | word :: words =>
    match o.word word words with
    | .answer request => request
    | .proceed o => o.read words
    | .awaitPath o =>
      match words with
      | [] => .misuse
      | path :: words =>
        if (Word.ofString path).isReserved then .misuse
        else
          match o.setPath? path with
          | some o => o.read words
          | none => .misuse

/-- What the words of a command line ask for. -/
def Request.read (words : List String) : Request :=
  Options.start.read words

end Command
end InfixArithmetic
