import WebhookBridge.Command.Report

/-!
# Single calls and batches

Two commands make calls without a service: one posts a body to a URL, the other posts every request of a file.

## Contents

* `postSpec`, `postCommand`: a single call;
* `batchSpec`, `batchCommand`: a batch from a file.
-/

namespace WebhookBridge

/-- The option for the time limit of outbound calls. -/
def timeoutOption : OptionSpec := ⟨"--timeout", .number, "[default: 10.0]"⟩

/-! ## Single calls -/

/-- The command that makes a single call. -/
def postSpec : CommandSpec where
  name := "webman post"
  summary := "POST a JSON body to URL and print the result."
  options := [⟨"--data", .text, "JSON request body."⟩, timeoutOption]
  arguments := "URL"
  mixesOptions := true
  commands := []

/-- The report of the outcome of a single call. -/
def reportOutcome (o : Outcome) : CommandReport :=
  match o.result with
  | .error e => .payload 1 .inline (.error e.message)
  | .ok answer => .payload 0 .indented (.success answer)

/-- A single call: `data` is a JSON text. -/
def postCommand (world : World) (url data : Text) (timeout : Binary64) : CommandReport :=
  match Json.Lenient.read Json.maxNesting data with
  | .error .tooDeep => .escape (.defect .tooDeep)
  | .error fault => .misuse postSpec (.notJson "--data" (fault.message data))
  | .ok body =>
    let d := dispatchOne world.surroundings.relay (HttpSession.new timeout) ⟨url, body⟩
    let report := match d.outcome with
      | .error defect => CommandReport.escape (.defect defect)
      | .ok o => reportOutcome o
    report.during d.log d.state.sent

/-! ## Batches -/

/-- The command that makes the calls of a file. -/
def batchSpec : CommandSpec where
  name := "webman batch"
  summary := "POST every request in BATCH_FILE concurrently and print the results."
  options := [timeoutOption]
  arguments := "BATCH_FILE"
  mixesOptions := true
  commands := []

/-- The text with every end of a line written as a line feed. -/
def withLineFeeds : Text → Text
  | [] => []
  | c :: rest =>
    if c = CodePoint.ofChar '\r' then
      match rest with
      | d :: more => if d = CodePoint.ofChar '\n' then CodePoint.ofChar '\n' :: withLineFeeds more
        else CodePoint.ofChar '\n' :: withLineFeeds (d :: more)
      | [] => [CodePoint.ofChar '\n']
    else c :: withLineFeeds rest

/-- A path without empty parts and parts that stay in place. -/
def tidyPath (path : Text) : Text :=
  let slash := CodePoint.ofChar '/'
  let parts := (path.splitOn slash).filter fun part => !part.isEmpty && part ≠ (".": Text)
  let body := Text.join [slash] parts
  if path.head? = some slash then slash :: body else if body.isEmpty then "." else body

/-- The calls of a file. -/
def batchCommand (world : World) (path : Text) (content : Octets) (timeout : Binary64) : CommandReport :=
  match Utf8.read false content with
  | .error fault => .escape (.undecodable fault)
  | .ok t => match decodeBatch (withLineFeeds t) with
    | .error issues =>
      .failure (("invalid batch file " : Text) ++ tidyPath path ++ ": " ++ report "BatchRequest" issues)
    | .ok requests =>
      let d := dispatchBatch world.surroundings.relay (HttpSession.new timeout) requests
      let report := match d.outcome with
        | .error defect => CommandReport.escape (.defect defect)
        | .ok result => CommandReport.payload 0 .indented (.batch result)
      report.during d.log d.state.sent

end WebhookBridge
