/-!
Reading command line arguments. An option is long or one letter; it takes a value or none. A value
may be attached to its option or be the next argument, whatever that looks like. Two hyphens end the
options.
-/

set_option autoImplicit false

namespace Formula.Command

inductive Effect (α : Type) where
  | flag (act : α → α)
  | value (act : String → α → α)

structure CommandOption (α : Type) where
  names : List String
  effect : Effect α

variable {α : Type}

def find? (table : List (CommandOption α)) (name : String) : Option (Effect α) :=
  (table.find? fun entry => entry.names.contains name).map (·.effect)

/-- What reading an option leaves: changed settings, and what to do with a value that is still to
come. -/
structure Progress (α : Type) where
  settings : α
  awaiting : Option (String → α → α) := none

/-- Letters behind one hyphen: flags, up to an option that takes the rest as its value. -/
def readLetters (table : List (CommandOption α)) (settings : α) : List Char → Option (Progress α)
  | [] => some { settings }
  | letter :: rest =>
    match find? table (String.ofList ['-', letter]) with
    | none => none
    | some (.flag act) => readLetters table (act settings) rest
    | some (.value act) =>
      if rest.isEmpty then some { settings, awaiting := some act }
      else some { settings := act (String.ofList rest) settings }

def readLong (table : List (CommandOption α)) (settings : α) (text : List Char) :
    Option (Progress α) :=
  let name := text.takeWhile (· ≠ '=')
  let attached := if text.contains '=' then some (text.drop (name.length + 1)) else none
  match find? table (String.ofList name), attached with
  | none, _ => none
  | some (.flag act), none => some { settings := act settings }
  | some (.flag _), some _ => none
  | some (.value act), none => some { settings, awaiting := some act }
  | some (.value act), some value => some { settings := act (String.ofList value) settings }

def readOption (table : List (CommandOption α)) (settings : α) : List Char → Option (Progress α)
  | '-' :: '-' :: rest => readLong table settings ('-' :: '-' :: rest)
  | _ :: letters => readLetters table settings letters
  | [] => none

def isOption (argument : String) : Bool :=
  match argument.toList with
  | '-' :: _ :: _ => true
  | _ => false

/-- The settings after all options, and the other arguments in order. Options may follow other
arguments if they are mixed; otherwise the first other argument ends them. -/
def readArguments (table : List (CommandOption α)) (mixed : Bool) (settings : α)
    (others : List String) : List String → Option (α × List String)
  | [] => some (settings, others.reverse)
  | argument :: rest =>
    if argument = "--" then some (settings, others.reverse ++ rest)
    else if isOption argument then
      match readOption table settings argument.toList, rest with
      | none, _ => none
      | some { settings, awaiting := none }, rest => readArguments table mixed settings others rest
      | some { awaiting := some _, .. }, [] => none
      | some { settings, awaiting := some act }, value :: rest =>
        readArguments table mixed (act value settings) others rest
    else if mixed then readArguments table mixed settings (argument :: others) rest
    else some (settings, others.reverse ++ argument :: rest)

end Formula.Command
