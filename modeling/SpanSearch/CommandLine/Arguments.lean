/-! The arguments of a command: options with a value, flags, and positional arguments. -/

namespace SpanSearch

/-- The options and flags that are known, and the greatest number of positional arguments. -/
structure ArgumentRules where
  options : List String := []
  flags : List String := []
  most : Option Nat := some 0

/-- Arguments that have been told apart. -/
structure Arguments where
  options : List (String × String) := []
  flags : List String := []
  positional : List String := []
deriving DecidableEq, Inhabited

namespace Arguments

/-- An argument that starts with two dashes: its name, and a value after an equals sign. -/
def long? (argument : String) : Option (String × Option String) :=
  match argument.toList with
  | '-' :: '-' :: text =>
    let name := text.takeWhile (· != '=')
    let value := match text.dropWhile (· != '=') with
      | '=' :: value => some (String.ofList value)
      | _ => none
    some (String.ofList name, value)
  | _ => none

/-- Whether an argument looks like an option; a dash alone does not. -/
def isDashed (argument : String) : Bool :=
  match argument.toList with
  | ['-'] => false
  | '-' :: _ => true
  | _ => false

/-- Adds an option, which may be given once. -/
def addOption (a : Arguments) (name value : String) : Option Arguments :=
  if (a.options.lookup name).isSome then none
  else some { a with options := a.options ++ [(name, value)] }

/-- Adds a flag, which may be given once. -/
def addFlag (a : Arguments) (name : String) : Option Arguments :=
  if a.flags.contains name then none else some { a with flags := a.flags ++ [name] }

/-- Adds positional arguments, as many as there may be. -/
def addPositional (g : ArgumentRules) (a : Arguments) (arguments : List String) : Option Arguments :=
  let positional := a.positional ++ arguments
  if g.most.all (positional.length ≤ ·) then some { a with positional } else none

/-- Tells arguments apart. After two dashes alone, all are positional. -/
def scan (g : ArgumentRules) (a : Arguments) : List String → Option Arguments
  | [] => some a
  | argument :: rest =>
    if argument == "--" then addPositional g a rest
    else match long? argument with
      | some (name, value) =>
        if g.flags.contains name then
          match value with
          | some _ => none
          | none => (addFlag a name).bind (scan g · rest)
        else if g.options.contains name then
          match value, rest with
          | some value, rest => (addOption a name value).bind (scan g · rest)
          | none, value :: rest =>
            if isDashed value then none else (addOption a name value).bind (scan g · rest)
          | none, [] => none
        else none
      | none =>
        if isDashed argument then none
        else (addPositional g a [argument]).bind (scan g · rest)

/-- Whether a flag is given. -/
def flag (a : Arguments) (name : String) : Bool :=
  a.flags.contains name

/-- The value of an option. -/
def option? (a : Arguments) (name : String) : Option String :=
  a.options.lookup name

end Arguments
end SpanSearch
