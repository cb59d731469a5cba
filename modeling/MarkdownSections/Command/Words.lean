import MarkdownSections.Text.Numeral
import MarkdownSections.Json.Basic

/-!
# The words of a command line

A command line is a list of words: options, values of options, and operands. An option starts with a
dash and is known by its whole name; its value is the next word, or what follows an equals sign in
the same word. Behind a double dash all words are operands. Of an option that is given twice, the
last value counts.
-/

set_option autoImplicit false

namespace MarkdownSections.Command

/-- What an option takes. -/
inductive OptionKind where
  /-- A value. -/
  | valued
  /-- Nothing. -/
  | flag
deriving DecidableEq, Repr

/-- The options of a command, by name. -/
abbrev OptionTable := List (String × OptionKind)

/-- Sorted words. -/
structure Words where
  operands : List String := []
  /-- Options with their values, the last one first. -/
  values : List (String × String) := []
  /-- Options without values, the last one first. -/
  flags : List String := []
deriving Repr

namespace Words

/-- Whether a word is an option: a dash and something behind it. -/
def isOption (word : String) : Bool :=
  match word.toList with
  | '-' :: _ :: _ => true
  | _ => false

/-- The name of an option, and the value that is attached to it. -/
def splitValue (word : String) : String × Option String :=
  let name := word.toList.takeWhile (· != '=')
  match word.toList.dropWhile (· != '=') with
  | [] => (String.ofList name, none)
  | _ :: value => (String.ofList name, some (String.ofList value))

/-- Sorts words behind those that are already sorted; none when an option is unknown, lacks its
value or has one that it does not take. -/
def sortFrom? (options : OptionTable) (sorted : Words) : List String → Option Words
  | [] => some sorted
  | word :: rest =>
    if word == "--" then some { sorted with operands := sorted.operands ++ rest }
    else if isOption word then
      let (name, attached) := splitValue word
      match options.lookup name, attached with
      | some .flag, none => sortFrom? options { sorted with flags := name :: sorted.flags } rest
      | some .valued, some value =>
        sortFrom? options { sorted with values := (name, value) :: sorted.values } rest
      | some .valued, none =>
        match rest with
        | [] => none
        | value :: rest =>
          sortFrom? options { sorted with values := (name, value) :: sorted.values } rest
      | _, _ => none
    else sortFrom? options { sorted with operands := sorted.operands ++ [word] } rest

/-- Sorts the words of a command with the given options. -/
def sort? (options : OptionTable) (words : List String) : Option Words :=
  sortFrom? options {} words

/-- Whether an option without a value is given. -/
def has (w : Words) (name : String) : Bool :=
  w.flags.contains name

/-- The value of an option, if it is given. -/
def text? (w : Words) (name : String) : Option String :=
  w.values.lookup name

/-- The value of an option as a whole number, if it is given; none when it is no such number. -/
def readInt? (w : Words) (name : String) : Option (Option Int) :=
  match w.text? name with
  | none => some none
  | some value => (Text.readInt? value.toList).map some

/-- The choice between two opposite options, if one of them is given. -/
def choice? (w : Words) (yes no : String) : Option Bool :=
  (w.flags.find? fun name => name == yes || name == no).map (· == yes)

end Words

end MarkdownSections.Command
