import WebhookBridge.Command.Options

/-!
# Help pages

A help page tells how a command is used: a line of usage, what the command does, and lists of its options and commands
in two columns. A first column that is wider than thirty stands on a line of its own.

## Contents

* `CommandSpec.usage`: the line of usage;
* `definitionRows`: a list in two columns;
* `CommandSpec.help`: the whole page;
* `CommandSpec.usageLines`: what is shown with a usage fault.
-/

namespace WebhookBridge

/-- A text of spaces. -/
def spaces (n : Nat) : Text := List.replicate n (CodePoint.ofChar ' ')

/-- The greatest width of a first column. -/
def maxFirstColumn : Nat := 30

/-- The width of the widest of some texts. -/
def widest (texts : List Text) : Nat := (texts.map List.length).foldl max 0

/-- The lines of a list in two columns, which are set in by two. -/
def definitionRows (rows : List (Text × Text)) : List Text :=
  let width := min (widest (rows.map (·.1))) maxFirstColumn
  rows.flatMap fun (first, second) =>
    if first.length ≤ width then [spaces 2 ++ first ++ spaces (width + 2 - first.length) ++ second]
    else [spaces 2 ++ first, spaces (width + 4) ++ second]

/-- An option as it stands in a list. -/
def OptionSpec.label (o : OptionSpec) : Text :=
  o.name ++ " " ++ (match o.form with
    | .text => ("TEXT" : Text)
    | .number => ("FLOAT" : Text)
    | .choice words => ("[" : Text) ++ Text.join "|" words ++ "]")

namespace CommandSpec

/-- The line of usage. -/
def usage (spec : CommandSpec) : Text :=
  ("Usage: " : Text) ++ spec.name ++ " [OPTIONS]" ++
    (if spec.arguments.isEmpty then ([] : Text) else (" " : Text) ++ spec.arguments)

/-- The rows of the list of options. -/
def optionRows (spec : CommandSpec) : List (Text × Text) :=
  spec.options.map (fun o => (o.label, o.help)) ++ [(helpOption, ("Show this message and exit." : Text))]

/-- The lines of the help page. -/
def help (spec : CommandSpec) : List Text :=
  [spec.usage, [], spaces 2 ++ spec.summary, [], ("Options:" : Text)] ++ definitionRows spec.optionRows ++
    (if spec.commands.isEmpty then [] else [[], ("Commands:" : Text)] ++ definitionRows spec.commands)

/-- What is shown with a usage fault. -/
def usageLines (spec : CommandSpec) (fault : UsageFault) : List Text :=
  (if fault.showsUsage then
    [spec.usage, ("Try " : Text) ++ (spec.name ++ " " ++ helpOption).quoted ++ " for help.", []]
  else []) ++ [("Error: " : Text) ++ fault.message]

end CommandSpec

end WebhookBridge
