import WebhookBridge.Json.Display
import WebhookBridge.Json.Strict

/-!
# Validation issues

What a value lacks to be accepted, told in two ways: a summary on one line, and a report of several lines that shows
the values at fault.

## Contents

* `Issue`: one fault with its place and the value at fault;
* `summary`: the faults on one line;
* `report`: the faults on lines of their own, under a title.
-/

namespace WebhookBridge

/-- A step into a value: a key of an object or an index of an array. -/
inductive Step where
  | key (k : Text)
  | index (i : Nat)
  deriving DecidableEq, Repr

/-- The text of a step. -/
def Step.text : Step → Text
  | .key k => k
  | .index i => Text.ofNat i

/-- What is wrong with a value. -/
inductive IssueKind where
  | missing
  | notAString
  | notUnicode
  | notAnArray
  | notAnObject
  | notANumber
  | unparsableNumber
  | notPositive
  | negative
  | malformed (whole : Text) (fault : Json.Strict.Fault)
  deriving DecidableEq, Repr

/-- The short name of a kind of issue. -/
def IssueKind.tag : IssueKind → Text
  | .missing => "missing"
  | .notAString => "string_type"
  | .notUnicode => "string_unicode"
  | .notAnArray => "list_type"
  | .notAnObject => "model_type"
  | .notANumber => "float_type"
  | .unparsableNumber => "float_parsing"
  | .notPositive => "greater_than"
  | .negative => "greater_than_equal"
  | .malformed .. => "json_invalid"

/-- The wording of a kind of issue. -/
def IssueKind.message : IssueKind → Text
  | .missing => "Field required"
  | .notAString => "Input should be a valid string"
  | .notUnicode => "Input should be a valid string, unable to parse raw data as a unicode string"
  | .notAnArray => "Input should be a valid array"
  | .notAnObject => "Input should be an object"
  | .notANumber => "Input should be a valid number"
  | .unparsableNumber => "Input should be a valid number, unable to parse string as a number"
  | .notPositive => "Input should be greater than 0"
  | .negative => "Input should be greater than or equal to 0"
  | .malformed whole fault => ("Invalid JSON: " : Text) ++ fault.message whole

/-- A fault of a value, its place, and the value at fault. -/
structure Issue where
  kind : IssueKind
  place : List Step
  input : Json

/-- The place of an issue, its steps separated by points. -/
def Issue.placeText (i : Issue) : Text := Text.join "." (i.place.map Step.text)

/-- The place and the wording of an issue on one line. -/
def Issue.line (i : Issue) : Text :=
  if i.placeText.isEmpty then i.kind.message else i.placeText ++ ": " ++ i.kind.message

/-- All issues on one line. -/
def summary (issues : List Issue) : Text := Text.join "; " (issues.map Issue.line)

/-- The lines of one issue in a report. -/
def Issue.reportLines (i : Issue) : List Text :=
  (if i.place.isEmpty then [] else [i.placeText]) ++
    [("  " : Text) ++ i.kind.message ++ " [type=" ++ i.kind.tag ++ ", input_value=" ++ cutMiddle i.input.display ++
      ", input_type=" ++ i.input.typeName ++ "]"]

/-- The report on a value that was to be a `title`. -/
def report (title : Text) (issues : List Issue) : Text :=
  Text.join "\n"
    ((Text.ofNat issues.length ++ " validation error" ++ (if issues.length = 1 then "" else "s" : Text) ++ " for " ++
      title) :: issues.flatMap Issue.reportLines)

end WebhookBridge
