/-!
Command-line arguments told apart into options and the rest. An option has a long name behind two
hyphens and perhaps a letter behind one. A value follows an equals sign or is the next argument;
letters may be run together, and what follows a letter that takes a value is its value. Two
hyphens by themselves end the options, and one by itself is no option.
-/
namespace RelativeTime.CommandLine

structure OptionSpec where
  name : String
  letter : Option Char
  takesValue : Bool

/-- The options that were given, each with its value if it takes one, and the other arguments. -/
structure Arguments where
  options : List (String × String)
  rest : List String
  deriving DecidableEq

namespace Arguments

def empty : Arguments := ⟨[], []⟩

def has (a : Arguments) (name : String) : Bool :=
  a.options.any (·.1 == name)

/-- The value given last. -/
def last? (a : Arguments) (name : String) : Option String :=
  (a.options.reverse.find? (·.1 == name)).map (·.2)

/-- A run of letters, each the option of its own name. The first that takes a value takes what
remains of the run, or else asks for the next argument. -/
def readLetters (specs : List OptionSpec) : List Char →
    Option (List (String × String) × Option String)
  | [] => some ([], none)
  | c :: cs =>
    match specs.find? (·.letter == some c) with
    | none => none
    | some spec =>
      if spec.takesValue then
        match cs with
        | [] => some ([], some spec.name)
        | _ => some ([(spec.name, String.ofList cs)], none)
      else (readLetters specs cs).map fun (options, wanted) => ((spec.name, "") :: options, wanted)

/-- An argument that is an option: what it gives, and the name of an option whose value has to
follow. -/
def readOption (specs : List OptionSpec) (arg : List Char) :
    Option (List (String × String) × Option String) :=
  let name := arg.takeWhile (· ≠ '=')
  let value := arg.dropWhile (· ≠ '=')
  match specs.find? fun s => ("--" ++ s.name).toList == name with
  | some spec =>
    match spec.takesValue, value with
    | true, [] => some ([], some spec.name)
    | true, _ :: v => some ([(spec.name, String.ofList v)], none)
    | false, [] => some ([(spec.name, "")], none)
    | false, _ :: _ => none
  | none =>
    -- a run of letters has one hyphen, so a long name that is not known is an error
    match arg with
    | '-' :: '-' :: _ => none
    | _ => readLetters specs arg.tail

def isOption (arg : String) : Bool :=
  match arg.toList with
  | '-' :: _ :: _ => true
  | _ => false

/-- All arguments. With `mixed` options may follow the first other argument; without, it and all
behind it are the rest. -/
def read (specs : List OptionSpec) (mixed : Bool) : List String → Option Arguments
  | [] => some empty
  | arg :: args =>
    if arg = "--" then some ⟨[], args⟩
    else if isOption arg then
      match readOption specs arg.toList with
      | none => none
      | some (options, none) =>
        (read specs mixed args).map fun a => { a with options := options ++ a.options }
      | some (options, some wanted) =>
        -- the next argument is the value, whatever it looks like
        match args with
        | [] => none
        | value :: args =>
          (read specs mixed args).map fun a =>
            { a with options := options ++ (wanted, value) :: a.options }
    else if mixed then (read specs mixed args).map fun a => { a with rest := arg :: a.rest }
    else some ⟨[], arg :: args⟩

end Arguments

end RelativeTime.CommandLine
