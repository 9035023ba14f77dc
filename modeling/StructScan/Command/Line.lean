/-!
# Command lines

How the words of a command line are read.  Options may stand anywhere; two
dashes end them.  A long option takes its value from the same word after an
equals sign or from the next word; short options can share a word, and the rest
of the word is the value of the first one that takes a value.
-/

namespace StructScan.Command

/-- An option that a command knows. -/
structure Switch where
  /-- The name after two dashes. -/
  long : String
  /-- The letter after one dash. -/
  short : Option Char := none
  takesValue : Bool := false
  deriving DecidableEq, Repr

/-- An option that was given, with its value if it takes one. -/
structure Given where
  long : String
  value : String := ""
  deriving DecidableEq, Repr

/-- The words of a command line: the options that were given and the arguments, both in order. -/
structure Words where
  given : List Given := []
  arguments : List String := []
  deriving DecidableEq, Repr

namespace Words

/-- Puts an option in front. -/
def addGiven (g : Given) (w : Words) : Words :=
  { w with given := g :: w.given }

/-- Puts an argument in front. -/
def addArgument (a : String) (w : Words) : Words :=
  { w with arguments := a :: w.arguments }

/-- Whether an option was given. -/
def has (w : Words) (long : String) : Bool :=
  w.given.any fun g => g.long = long

/-- The last value that was given for an option. -/
def value? (w : Words) (long : String) : Option String :=
  ((w.given.filter fun g => g.long = long).getLast?).map Given.value

end Words

/-- Reads the value of an option from the next word. -/
def valueWord (long : String) (more : List String → Option Words) : List String → Option Words
  | [] => none
  | word :: rest => (more rest).map (Words.addGiven ⟨long, word⟩)

/--
Reads the letters of a word of short options.  The value of an option is the
rest of the word, or the next word if the letter is the last.
-/
def shortOptions (switches : List Switch) (rest : List String)
    (more : List String → Option Words) : List Char → Option Words
  | [] => more rest
  | letter :: letters =>
    match switches.find? fun s => s.short = some letter with
    | none => none
    | some s =>
      if s.takesValue then
        match letters with
        | [] => valueWord s.long more rest
        | _ => (more rest).map (Words.addGiven ⟨s.long, String.ofList letters⟩)
      else (shortOptions switches rest more letters).map (Words.addGiven ⟨s.long, ""⟩)

/-- Reads a long option, whose word may hold a value after an equals sign. -/
def longOption (switches : List Switch) (word : List Char) (rest : List String)
    (more : List String → Option Words) : Option Words :=
  let name := String.ofList (word.takeWhile (· ≠ '='))
  match switches.find? (fun s => s.long = name), word.dropWhile (· ≠ '=') with
  | none, _ => none
  | some s, [] =>
    if s.takesValue then valueWord s.long more rest
    else (more rest).map (Words.addGiven ⟨s.long, ""⟩)
  | some s, _ :: value =>
    if s.takesValue then (more rest).map (Words.addGiven ⟨s.long, String.ofList value⟩)
    else none

/--
Reads the words of a command line; there is no result if they are misused.  The
number bounds the words that are left.
-/
def readWords (switches : List Switch) : Nat → List String → Option Words
  | 0, _ => some {}
  | _ + 1, [] => some {}
  | n + 1, word :: rest =>
    match word.toList with
    | ['-', '-'] => some { arguments := rest }
    | '-' :: '-' :: name => longOption switches name rest (readWords switches n)
    | '-' :: letter :: letters =>
      shortOptions switches rest (readWords switches n) (letter :: letters)
    | _ => (readWords switches n rest).map (Words.addArgument word)

/-- Reads the words of a command line. -/
def words (switches : List Switch) (line : List String) : Option Words :=
  readWords switches (line.length + 1) line

end StructScan.Command
