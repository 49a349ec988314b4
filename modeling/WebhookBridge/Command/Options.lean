import WebhookBridge.Number.Decimal
import WebhookBridge.Text.Quoted

/-!
# Options and arguments

A command takes options, each with a value, and arguments. An option's value follows it or is attached with an equals
sign; two hyphens end the options. An option that is given again takes the later value. Values are checked in the order
in which their options first came up, before the arguments.

## Contents

* `ValueForm`, `OptionSpec`, `CommandSpec`: what a command takes;
* `UsageFault`: how a line is misused;
* `Scanned`, `CommandSpec.scan`: the options and operands of a line;
* `OptionValue`, `Scanned.checked`: the values of the options.
-/

namespace WebhookBridge

/-! ## What a command takes -/

/-- The form of an option's value. -/
inductive ValueForm where
  | text
  | number
  | choice (words : List Text)
  deriving DecidableEq, Repr

/-- An option. -/
structure OptionSpec where
  name : Text
  form : ValueForm
  help : Text

/-- A command: its name with those of the commands above it, what it does, its options, how its arguments are written
    in a line of usage, whether options may stand between arguments, and the commands below it. -/
structure CommandSpec where
  name : Text
  summary : Text
  options : List OptionSpec
  arguments : Text
  mixesOptions : Bool
  commands : List (Text × Text)

/-- The option that asks for help. -/
def helpOption : Text := "--help"

/-! ## Misuse -/

/-- How a line is misused. -/
inductive UsageFault where
  | noOption (name : Text)
  | needsValue (option : Text)
  | takesNoValue (option : Text)
  | notANumber (option value : Text)
  | notAChoice (option value : Text) (words : List Text)
  | notJson (option reason : Text)
  | missingArgument (name : Text)
  | extraArguments (arguments : List Text)
  | noFile (argument path : Text)
  | isDirectory (argument path : Text)
  | noCommand (name : Text)
  | missingCommand
  deriving DecidableEq, Repr

namespace UsageFault

/-- The text of a usage fault. -/
def message : UsageFault → Text
  | .noOption name => ("No such option " : Text) ++ name.quoted ++ "."
  | .needsValue option => ("Option " : Text) ++ option.quoted ++ " requires an argument."
  | .takesNoValue option => ("Option " : Text) ++ option.quoted ++ " does not take a value."
  | .notANumber option value =>
    ("Invalid value for " : Text) ++ option.quoted ++ ": " ++ value.quoted ++ " is not a valid float."
  | .notAChoice option value words =>
    ("Invalid value for " : Text) ++ option.quoted ++ ": " ++ value.quoted ++ " is not one of " ++
      Text.join ", " (words.map Text.quoted) ++ "."
  | .notJson option reason => ("Invalid value for " : Text) ++ option ++ ": not valid JSON: " ++ reason
  | .missingArgument name => ("Missing argument " : Text) ++ name.quoted ++ "."
  | .extraArguments arguments =>
    ("Got unexpected extra argument" : Text) ++ (if arguments.length = 1 then "" else "s" : Text) ++ " (" ++
      Text.join " " arguments ++ ")"
  | .noFile argument path =>
    ("Invalid value for " : Text) ++ argument.quoted ++ ": File " ++ path.quoted ++ " does not exist."
  | .isDirectory argument path =>
    ("Invalid value for " : Text) ++ argument.quoted ++ ": File " ++ path.quoted ++ " is a directory."
  | .noCommand name => ("No such command " : Text) ++ name.quoted ++ "."
  | .missingCommand => "Missing command."

/-- Whether the usage of the command is shown with the fault. -/
def showsUsage : UsageFault → Bool
  | .needsValue _ => false
  | .takesNoValue _ => false
  | _ => true

end UsageFault

/-! ## Scanning a line -/

/-- A scanned line: the options with their values in the order in which they came, whether help was asked for, and the
    operands. -/
structure Scanned where
  given : List (Text × Text)
  asksHelp : Bool
  operands : List Text
  deriving DecidableEq, Repr

/-- A line in which nothing has been found yet. -/
def Scanned.empty : Scanned := ⟨[], false, []⟩

/-- Whether a word is written like an option. -/
def looksLikeOption (word : Text) : Bool := word.head? = some (CodePoint.ofChar '-') && 1 < word.length

/-- The name and the attached value of a word that is written like an option. -/
def splitAttached (word : Text) : Text × Option Text :=
  match word.splitFirst? (CodePoint.ofChar '=') with
  | some (name, value) => (name, some value)
  | none => (word, none)

/-- The name under which an unknown option is reported: after one hyphen only the next letter counts. -/
def reportedName (word name : Text) : Text := if (Text.dropPrefix? "--" word).isSome then name else word.take 2

namespace CommandSpec

/-- The option of a name. -/
def option? (spec : CommandSpec) (name : Text) : Option OptionSpec := spec.options.find? fun o => o.name = name

/-- The options and operands of a line, added to those found before. -/
def scan (spec : CommandSpec) : List Text → Scanned → Except UsageFault Scanned
  | [], found => .ok found
  | word :: rest, found =>
    if word = ("--" : Text) then .ok { found with operands := found.operands ++ rest }
    else if looksLikeOption word then
      let (name, attached) := splitAttached word
      if name = helpOption then
        match attached with
        | some _ => .error (.takesNoValue name)
        | none => scan spec rest { found with asksHelp := true }
      else match spec.option? name, attached, rest with
        | none, _, _ => .error (.noOption (reportedName word name))
        | some _, some value, rest => scan spec rest { found with given := found.given ++ [(name, value)] }
        | some _, none, value :: rest => scan spec rest { found with given := found.given ++ [(name, value)] }
        | some _, none, [] => .error (.needsValue name)
    else if spec.mixesOptions then scan spec rest { found with operands := found.operands ++ [word] }
    else .ok { found with operands := found.operands ++ word :: rest }

end CommandSpec

/-! ## Values -/

/-- The value of an option. -/
inductive OptionValue where
  | text (t : Text)
  | number (x : Binary64)
  deriving DecidableEq, Repr

/-- A value in the form that an option takes. A choice is met whatever the case of its letters. -/
def OptionSpec.accept (o : OptionSpec) (value : Text) : Except UsageFault OptionValue :=
  match o.form with
  | .text => .ok (.text value)
  | .number => match readLenientFloat? value with
    | some x => .ok (.number x)
    | none => .error (.notANumber o.name value)
  | .choice words =>
    let folded := Text.toAsciiLower value
    if words.contains folded then .ok (.text folded) else .error (.notAChoice o.name value words)

namespace Scanned

/-- The names of the options that were given, in the order in which they first came up. -/
def names (found : Scanned) : List Text := (found.given.map (·.1)).eraseDups

/-- The last value that was given for an option. -/
def last? (found : Scanned) (name : Text) : Option Text :=
  (found.given.reverse.find? fun (n, _) => n = name).map (·.2)

/-- The checked values of options, by name. -/
def checkNames (spec : CommandSpec) (found : Scanned) : List Text → Except UsageFault (List (Text × OptionValue))
  | [] => .ok []
  | name :: rest =>
    match spec.option? name, found.last? name with
    | some o, some value => do
      let value ← o.accept value
      return (name, value) :: (← checkNames spec found rest)
    | _, _ => checkNames spec found rest

/-- The values of the options that were given. -/
def checked (spec : CommandSpec) (found : Scanned) : Except UsageFault (List (Text × OptionValue)) :=
  checkNames spec found found.names

end Scanned

/-- The text of an option among checked values. -/
def textOf? (values : List (Text × OptionValue)) (name : Text) : Option Text :=
  values.findSome? fun (n, v) => match v with
    | .text t => if n = name then some t else none
    | .number _ => none

/-- The number of an option among checked values. -/
def numberOf? (values : List (Text × OptionValue)) (name : Text) : Option Binary64 :=
  values.findSome? fun (n, v) => match v with
    | .number x => if n = name then some x else none
    | .text _ => none

end WebhookBridge
