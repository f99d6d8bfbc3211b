import BuildLine.Text.Split

/-!
# Options

The words behind a command are options and operands. An option starts with a hyphen and either
stands alone or takes a text, which follows behind an equals sign or as the next word. Two hyphens
end the options. A *form* says which options a command knows, and whether options may come behind
operands.
-/

namespace BuildLine.CommandLine

/-- What an option takes. -/
inductive Takes where
  /-- Nothing. -/
  | nothing
  /-- A text. -/
  | text
  deriving DecidableEq, Repr

/-- The options that a command knows. -/
structure Form where
  /-- The options with what they take. -/
  options : List (String × Takes)
  /-- Options may come behind operands. -/
  mixed : Bool
  deriving Repr

/-- What is wrong with an option. -/
inductive OptionFault where
  /-- There is no such option. -/
  | unknown (name : String)
  /-- The option takes a text, and there is none. -/
  | noText (name : String)
  /-- The option takes nothing, and there is a text. -/
  | givenText (name : String)
  deriving DecidableEq, Repr

/-- The words behind a command, sorted out. -/
structure Filled where
  /-- The options in the order in which they came, with their texts. -/
  options : List (String × String) := []
  /-- The operands. -/
  operands : List String := []
  deriving DecidableEq, Repr

/-- The words with an option before them. -/
def Filled.withOption (name text : String) (f : Filled) : Filled :=
  { f with options := (name, text) :: f.options }

/-- The words with an operand before them. -/
def Filled.withOperand (word : String) (f : Filled) : Filled :=
  { f with operands := word :: f.operands }

namespace Form

/-- A word that starts like an option. -/
def isOption (word : String) : Bool :=
  word.startsWith "-" && word.length > 1

/-- The name of an option and the text behind its equals sign. -/
def split (word : String) : String × Option String :=
  match Text.cutFirst? '=' word.toList with
  | some (name, text) => (String.ofList name, some (String.ofList text))
  | none => (word, none)

/-- The name by which an unknown option is called: an option with one hyphen only is taken for
letters, and the first letter is unknown already. -/
def unknownName (word name : String) : String :=
  if word.startsWith "--" then name else String.ofList (word.toList.take 2)

/-- **Sort out the words behind a command.** -/
def fill (f : Form) : List String → Except OptionFault Filled
  | [] => .ok {}
  | word :: words =>
    if word = "--" then .ok { operands := words }
    else if !isOption word then
      if f.mixed then (fill f words).map (Filled.withOperand word)
      else .ok { operands := word :: words }
    else
      let (name, text) := split word
      match f.options.lookup name, text with
      | none, _ => .error (.unknown (unknownName word name))
      | some .nothing, some _ => .error (.givenText name)
      | some .nothing, none => (fill f words).map (Filled.withOption name "")
      | some .text, some text => (fill f words).map (Filled.withOption name text)
      | some .text, none =>
        match words with
        | [] => .error (.noText name)
        | text :: words => (fill f words).map (Filled.withOption name text)

end Form

namespace Filled

/-- The option was given. -/
def has (f : Filled) (name : String) : Bool :=
  f.options.any fun o => o.1 = name

/-- The text that an option was given last. -/
def text? (f : Filled) (name : String) : Option String :=
  (f.options.filter fun o => o.1 = name).getLast?.map Prod.snd

/-- The one of two options that was given last. -/
def last? (f : Filled) (yes no : String) : Option Bool :=
  (f.options.filter fun o => o.1 = yes || o.1 = no).getLast?.map fun o => o.1 = yes

/-- The names of the options that were given, each once, in the order in which they came first. -/
def names (f : Filled) : List String :=
  (f.options.map Prod.fst).eraseDups

end Filled

end BuildLine.CommandLine
