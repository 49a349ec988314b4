import Mathlib.Data.List.TakeWhile
import WebhookBridge.Proofs.Command.Endings
import WebhookBridge.Proofs.Command.LineEnds
import WebhookBridge.Proofs.Json.Printed
import WebhookBridge.Proofs.Task.Performing

/-!
# Commands and handlers

A single call can be made by a command or by a task, and so can a batch. The two are given their requests in texts that are
read by different readers, and tell what came of the calls in different ways. They agree: they make the same calls, the command
shows the document of the payload that the handler replies with, and a file is invalid exactly if it is no input of a task.

## Contents

* `CommandReport.Prints`, `Payload.document`: a document as the whole output;
* `executeInput`, `decode_executeInput`: the input of a task that names a URL and a body;
* `PostAgrees`, `BatchAgrees`: a report and what is replied;
* `AcceptedByBoth`, `commands_agree`: commands agree with handlers.
-/

namespace WebhookBridge

/-! ## Documents -/

/-- A command that has written a text and the end of its line as its whole output. -/
structure CommandReport.Prints (r : CommandReport) (code : Nat) (t : Text) : Prop where
  exitCode : r.exitCode = some code
  output : r.output = t ++ "\n"
  errors : r.errors = []
  escaped : r.escaped = none

/-- The document of a payload in a layout, if it can be dumped and written. -/
def Payload.document (style : Json.Style) (p : Payload) : Option Text :=
  match p.dump with
  | .ok w => (Json.print style w).toOption
  | .error _ => none

namespace CommandReport

theorem prints_during {r : CommandReport} {log : List LogEvent} {sent : List HttpRequest} {code : Nat} {t : Text} :
    (r.during log sent).Prints code t ↔ r.Prints code t :=
  ⟨fun h => ⟨h.exitCode, h.output, h.errors, h.escaped⟩, fun h => ⟨h.exitCode, h.output, h.errors, h.escaped⟩⟩

theorem prints_atLevel {r : CommandReport} {level : LogLevel} {code : Nat} {t : Text} :
    (r.atLevel level).Prints code t ↔ r.Prints code t :=
  ⟨fun h => ⟨h.exitCode, h.output, h.errors, h.escaped⟩, fun h => ⟨h.exitCode, h.output, h.errors, h.escaped⟩⟩

theorem fails_atLevel {r : CommandReport} {level : LogLevel} {message : Text} :
    (r.atLevel level).Fails message ↔ r.Fails message :=
  ⟨fun h => ⟨h.exitCode, h.output, h.errors, h.escaped, h.sent⟩, fun h => h.atLevel level⟩

theorem not_prints_escape (e : Escape) (code : Nat) (t : Text) : ¬ (escape e).Prints code t := fun h => nomatch h.escaped

theorem prints_page_iff {code code' : Nat} {t t' : Text} : (page code t).Prints code' t' ↔ code = code' ∧ t = t' := by
  constructor
  · intro h
    exact ⟨Option.some.inj h.exitCode, List.append_cancel_right h.output⟩
  · rintro ⟨rfl, rfl⟩
    exact ⟨rfl, rfl, rfl, rfl⟩

/-- **A payload is shown** as its document, if it has one. -/
theorem prints_payload_iff {code code' : Nat} {style : Json.Style} {p : Payload} {t : Text} :
    (payload code style p).Prints code' t ↔ code = code' ∧ p.document style = some t := by
  rw [payload, Payload.document]
  cases p.dump with
  | error fault => simp [not_prints_escape]
  | ok w =>
      dsimp only
      rw [printed]
      cases hprint : Json.print style w with
      | ok shown => simp [prints_page_iff, Except.toOption]
      | error fault => cases fault <;> simp [not_prints_escape, Except.toOption]

/-- A payload is shown, or something escapes. -/
theorem payload_cases (code : Nat) (style : Json.Style) (p : Payload) :
    (∃ t, payload code style p = page code t) ∨ ∃ e, payload code style p = escape e := by
  rw [payload]
  cases p.dump with
  | error fault => exact .inr ⟨_, rfl⟩
  | ok w =>
      dsimp only
      rw [printed]
      cases Json.print style w with
      | ok t => exact .inl ⟨t, rfl⟩
      | error fault => cases fault <;> exact .inr ⟨_, rfl⟩

theorem not_fails_escape (e : Escape) (log : List LogEvent) (sent : List HttpRequest) (message : Text) :
    ¬ ((escape e).during log sent).Fails message := fun h => nomatch h.escaped

/-- What is shown of a success is no failure. -/
theorem not_fails_payload (style : Json.Style) (p : Payload) (log : List LogEvent) (sent : List HttpRequest) (message : Text) :
    ¬ ((payload 0 style p).during log sent).Fails message := by
  rcases payload_cases 0 style p with ⟨t, h⟩ | ⟨e, h⟩
  · rw [h]
    exact fun hfails => nomatch hfails.exitCode
  · rw [h]
    exact not_fails_escape e log sent message

end CommandReport

/-! ## Inputs -/

/-- The input of a task that names a URL, and a body by a JSON text. -/
def executeInput (url data : Text) : Text :=
  ("\x7b\"url\": " : Text) ++ Json.printString url ++ ", \"body\": " ++ data ++ "\x7d"

open Json.Lenient (Placed)

/-- Such an input is laid out like a printed object. -/
theorem executeInput_eq (url data : Text) :
    executeInput url data = Json.Style.inline.bracketed 0 "\x7b" "\x7d"
      [Json.printString "url" ++ Json.Style.inline.colon ++ Json.printString url,
        Json.printString "body" ++ Json.Style.inline.colon ++ data] := by
  have hurl : Json.printString "url" = "\"url\"" := by decide
  have hbody : Json.printString "body" = "\"body\"" := by decide
  rw [hurl, hbody]
  simp only [executeInput, Json.Style.bracketed, Text.join, List.append_assoc]
  rfl

/-- A JSON text stands in such an input for what it denotes. -/
theorem placed_of_readAll {levels : Nat} {t : Text} {v : Json} (h : Json.Lenient.readAll levels t = .ok v) :
    Placed (Json.Lenient.grammar.AtFront levels) t v := by
  obtain ⟨rest, hread, hrest⟩ := Json.Lenient.exists_readValue_of_readAll h
  exact Json.Lenient.placed_of_atFront (Json.Lenient.readValue_ok_iff.1 hread) (List.dropWhile_eq_nil_iff.1 hrest)

theorem readAll_executeInput {url data : Text} {body : Json} (hurl : url.hasSurrogate = false)
    (hdata : Json.Lenient.readAll Json.maxNesting data = .ok body) :
    Json.Lenient.readAll (Json.maxNesting + 1) (executeInput url data) = .ok (.obj [("url", .str url), ("body", body)]) := by
  have hscalar : Placed (Json.Lenient.grammar.AtFront Json.maxNesting) (Json.printString url) (.str url) :=
    Json.Lenient.placed_of_whole (Json.Lenient.atFront_of_scalar (Json.Lenient.scalar_printString hurl))
  have hkeys : [("url" : Text), "body"].Nodup := by decide
  have hparts := List.Forall₂.cons (Json.Lenient.placed_member .inline (k := "url") (by decide) hscalar)
    (.cons (Json.Lenient.placed_member .inline (k := "body") (by decide) (placed_of_readAll hdata)) .nil)
  rw [executeInput_eq]
  exact Json.Lenient.readAll_of_atFront (Json.Lenient.object_bracketed .inline 0 hparts hkeys)

/-- **The request of such an input**, if it has one, names the URL and the body. -/
theorem decode_executeInput {url data : Text} {body : Json} (hurl : url.hasSurrogate = false)
    (hdata : Json.Lenient.read Json.maxNesting data = .ok body) {request : RelayRequest}
    (h : RelayRequest.decode (executeInput url data) = .ok request) : request = ⟨url, body⟩ := by
  obtain ⟨v, hv, hrequest⟩ := Json.bind_eq_ok.1 h
  have hstrict := Json.Strict.readAll_of_read (decodeJson_ok_iff.1 hv).2
  have hlenient := readAll_executeInput hurl (Json.Lenient.readAll_of_read hdata)
  have hmore : Json.Strict.maxNesting + 1 ≤ Json.maxNesting + 1 := by decide
  -- what the strict reader finds, the lenient one finds with as many levels, and with more
  have hsame := Json.Lenient.readAll_extends hmore (executeInput url data) (by rw [hstrict]; simp)
  rw [hlenient, hstrict] at hsame
  cases hsame
  cases hrequest
  rfl

/-! ## Agreement -/

variable (deliver : Delivery)

/-- **A report agrees with what a single call is replied**: it shows an answer or an error as the whole output exactly if that is
    replied. -/
structure PostAgrees (r : CommandReport) (replies : List Payload) : Prop where
  answer : ∀ t, r.Prints 0 t ↔
    ∃ answer, replies = [.success answer] ∧ (Payload.success answer).document .indented = some t
  error : ∀ t, r.Prints 1 t ↔
    ∃ m : Text, replies = [.error (("err while performing the post request: " : Text) ++ m)] ∧
      (Payload.error m).document .inline = some t

/-- **A report agrees with what a batch is replied**: it shows the entries as the whole output exactly if they are replied, and
    rejects the file exactly if it is replied that the input names no batch. -/
structure BatchAgrees (path : Text) (r : CommandReport) (replies : List Payload) : Prop where
  entries : ∀ t, r.Prints 0 t ↔
    ∃ result, replies = [.batch result] ∧ (Payload.batch result).document .indented = some t
  invalid : (∃ issues, r.Fails (("invalid batch file " : Text) ++ tidyPath path ++ ": " ++ report "BatchRequest" issues)) ↔
    ∃ issues, replies = [.error (undecodableBatch issues)]

/-- Nothing is shown, and nothing of the sort replied. -/
theorem postAgrees_escape (e : Escape) : PostAgrees (.escape e) [] :=
  ⟨fun _ => by simp [CommandReport.not_prints_escape], fun _ => by simp [CommandReport.not_prints_escape]⟩

/-- **Single calls agree**, whatever they come to. -/
theorem postAgrees_call (url : Text) (result : CallResult) : PostAgrees (callReport url result) (callReplies result) := by
  cases result with
  | met defect => exact postAgrees_escape _
  | answered status body =>
      rw [callReport_answered, callReplies]
      exact ⟨fun t => by simp [CommandReport.prints_payload_iff], fun t => by simp [CommandReport.prints_payload_iff]⟩
  | failed e =>
      rw [callReport_failed, callReplies]
      refine ⟨fun t => by simp [CommandReport.prints_payload_iff], fun t => ?_⟩
      rw [CommandReport.prints_payload_iff]
      constructor
      · exact fun h => ⟨e.message, rfl, h.2⟩
      · rintro ⟨m, hm, ht⟩
        have hmessage : failedRequest e = ("err while performing the post request: " : Text) ++ m := by
          injection hm with hm
          injection hm
        rw [List.append_cancel_left hmessage]
        exact ⟨rfl, ht⟩

/-- **Batches agree**, whatever they come to, and in whatever order their calls end. -/
theorem batchAgrees_outcome (path : Text) (outcome : Except Defect BatchResult) (log : List LogEvent) (sent : List HttpRequest) :
    BatchAgrees path ((batchReport outcome).during log sent) (batchReplies outcome) := by
  cases outcome with
  | error defect =>
      refine ⟨fun t => ?_, ?_⟩
      · simp [batchReport, batchReplies, CommandReport.prints_during, CommandReport.not_prints_escape]
      · simp [batchReport, batchReplies, CommandReport.not_fails_escape]
  | ok result =>
      refine ⟨fun t => ?_, ?_⟩
      · simp [batchReport, batchReplies, CommandReport.prints_during, CommandReport.prints_payload_iff]
      · simp [batchReport, batchReplies, CommandReport.not_fails_payload]

/-- **Files that name no batch** are rejected, and so are the inputs. -/
theorem batchAgrees_invalid (path : Text) (issues issues' : List Issue) :
    BatchAgrees path (.failure (("invalid batch file " : Text) ++ tidyPath path ++ ": " ++ report "BatchRequest" issues))
      [.error (undecodableBatch issues')] := by
  refine ⟨fun t => iff_of_false (fun h => nomatch h.exitCode) (by simp), ?_⟩
  exact iff_of_true ⟨issues, CommandReport.fails_failure _⟩ ⟨issues', rfl⟩

theorem PostAgrees.atLevel {r : CommandReport} {replies : List Payload} (h : PostAgrees r replies) (level : LogLevel) :
    PostAgrees (r.atLevel level) replies :=
  ⟨fun t => CommandReport.prints_atLevel.trans (h.answer t), fun t => CommandReport.prints_atLevel.trans (h.error t)⟩

theorem BatchAgrees.atLevel {path : Text} {r : CommandReport} {replies : List Payload} (h : BatchAgrees path r replies)
    (level : LogLevel) : BatchAgrees path (r.atLevel level) replies :=
  ⟨fun t => CommandReport.prints_atLevel.trans (h.entries t),
    (exists_congr fun _ => CommandReport.fails_atLevel).trans h.invalid⟩

/-- Both readers take a JSON text for a body, that of the command and that of the task, which finds the URL beside it. -/
structure AcceptedByBoth (url data : Text) : Prop where
  command : ∃ body, Json.Lenient.read Json.maxNesting data = .ok body
  task : ∃ request, RelayRequest.decode (executeInput url data) = .ok request ∧ request.url = url

theorem postCommand_agrees (world : World) {url data : Text} (haccepted : AcceptedByBoth url data) (timeout : Binary64)
    {task : TaskInfo} (hinput : task.input = executeInput url data) :
    PostAgrees (postCommand world url data timeout)
      ((executeActivity task).run world.surroundings.relay deliver (HttpSession.new timeout)).payloads := by
  obtain ⟨⟨body, hdata⟩, request, hrequest, hurl⟩ := haccepted
  have hunicode : url.hasSurrogate = false := hurl ▸ (RelayRequest.isFair_of_decode hrequest).url
  -- both make the same request, so that the relay is called alike
  have hsame : request = ⟨url, body⟩ := decode_executeInput hunicode hdata hrequest
  rw [hsame, ← hinput] at hrequest
  obtain ⟨log, hcommand⟩ := postCommand_relay world url timeout hdata
  have hcall := postAgrees_call url (world.surroundings.relay.call (HttpSession.new timeout) ⟨url, body⟩).result
  rw [hcommand, payloads_executeActivity world.surroundings.relay deliver hrequest]
  exact ⟨fun t => CommandReport.prints_during.trans (hcall.answer t), fun t => CommandReport.prints_during.trans (hcall.error t)⟩

theorem batchCommand_agrees (world : World) (path : Text) {content : Octets} (timeout : Binary64) {task : TaskInfo}
    (htext : Utf8.read false content = .ok task.input) :
    BatchAgrees path (batchCommand world path content timeout)
      ((batchExecuteActivity task).run world.surroundings.relay deliver (HttpSession.new timeout)).payloads := by
  cases hrequests : decodeBatch task.input with
  | ok requests =>
      -- the ends of lines make no difference to the requests
      obtain ⟨log, sent, hcommand⟩ := batchCommand_relay world path timeout htext (decodeBatch_withLineFeeds.2 hrequests)
      rw [hcommand, batchExecuteActivity_eq hrequests, Activity.run, Activity.perform, payloads_afterBatch _ _ _ _ rfl]
      exact batchAgrees_outcome path _ log sent
  | error issues =>
      obtain ⟨issues', hissues⟩ : ∃ issues', decodeBatch (withLineFeeds task.input) = .error issues' := by
        cases h : decodeBatch (withLineFeeds task.input) with
        | error issues' => exact ⟨issues', rfl⟩
        | ok requests =>
            rw [decodeBatch_withLineFeeds.1 h] at hrequests
            cases hrequests
      rw [payloads_undecodable _ _ hrequests]
      simp only [batchCommand, htext, hissues]
      exact batchAgrees_invalid path issues' issues

variable {world : World}

/-- **Commands agree with handlers.** A single call of a line shows what the handler of `execute` replies over the same relay to the
    input that names the same URL and body, and a batch shows what the handler of `batchExecute` replies to the text of the same
    file, or rejects the file as the handler rejects the text. So they do whatever a batch comes to, and in whatever order its
    calls end. -/
theorem commands_agree {timeout : Text} {x : Binary64} (haccepts : world.Accepts timeout x) :
    (∀ url data, AcceptedByBoth url data → ∀ task : TaskInfo, task.input = executeInput url data →
      PostAgrees (runLine world (postWords url data timeout))
        ((executeActivity task).run world.surroundings.relay deliver (HttpSession.new x)).payloads) ∧
    ∀ path content (task : TaskInfo), world.file path = .file content → Utf8.read false content = .ok task.input →
      BatchAgrees path (runLine world (batchWords path timeout))
        ((batchExecuteActivity task).run world.surroundings.relay deliver (HttpSession.new x)).payloads ∧
      ∀ requests, decodeBatch task.input = .ok requests →
        (∃ log sent, batchCommand world path content x =
          (batchReport (dispatchBatch world.surroundings.relay (HttpSession.new x) requests).outcome).during log sent) ∧
        ∃ next, batchExecuteActivity task = .dispatch requests next ∧
          ∀ outcome log sent, BatchAgrees path ((batchReport outcome).during log sent)
            ((next outcome).run world.surroundings.relay deliver (HttpSession.new x)).payloads := by
  refine ⟨fun url data haccepted task hinput => ?_, fun path content task hfile htext => ⟨?_, fun requests hrequests => ?_⟩⟩
  · rcases runLine_postWords_cases world url data timeout with ⟨hnone, -⟩ | ⟨y, level, hy, heq⟩
    · exact absurd haccepts (hnone x)
    · cases haccepts.unique hy
      rw [heq]
      exact (postCommand_agrees deliver world haccepted x hinput).atLevel level
  · rcases runLine_batchWords_cases world path timeout with ⟨hnone, -⟩ | ⟨y, other, level, hy, hother, heq⟩
    · exact absurd hfile (hnone x content haccepts)
    · cases haccepts.unique hy
      cases FileEntry.file.inj (hfile.symm.trans hother)
      rw [heq]
      exact (batchCommand_agrees deliver world path x htext).atLevel level
  · have hcommand := batchCommand_relay world path x htext (decodeBatch_withLineFeeds.2 hrequests)
    refine ⟨hcommand, afterBatch task, batchExecuteActivity_eq hrequests, fun outcome log sent => ?_⟩
    rw [Activity.run, payloads_afterBatch _ _ _ _ rfl]
    exact batchAgrees_outcome path outcome log sent

/-- A batch file with one request, its lines ended as some systems do. -/
def oneRequestFile : Text := "[\x7b\"url\": \"http://t/\"\x7d]\x0d\n"

/-- A world in which every call is answered with its body, and every file holds the one request. -/
def answeringWorld : World where
  environment := []
  file := fun _ => .file (Utf8.encode oneRequestFile)
  surroundings := ⟨.isolated [] 40000, ⟨fun session request => ⟨.answered 200 request.body, false, [], session⟩⟩⟩
  catalogue := []
  make := fun _ => .ok .memory

set_option maxRecDepth 4000 in
/-- What is shown of a call that is answered with an array, and of a batch of one call. -/
theorem commands_agree_answered :
    (runLine answeringWorld (postWords "http://t/" "[true]" "10")).Prints 0
        "\x7b\n  \"statusCode\": \"200\",\n  \"body\": [\n    true\n  ]\n\x7d" ∧
      (runLine answeringWorld (batchWords "b.json" "10")).Prints 0
        ("\x7b\n  \"successes\": \x7b\n    \"http://t/\": \x7b\n      \"statusCode\": \"200\",\n      \"body\": null\n    \x7d\n  \x7d,\n" ++
          "  \"errors\": \x7b\x7d\n\x7d") := by
  obtain ⟨x, hx⟩ : ∃ x, readLenientFloat? "10" = some x := Option.isSome_iff_exists.1 (by decide)
  have haccepts : answeringWorld.Accepts "10" x := ⟨⟨.info, rfl⟩, hx⟩
  have hrequest : RelayRequest.decode (executeInput "http://t/" "[true]") = .ok ⟨"http://t/", .arr [.bool true]⟩ := by cbv
  have haccepted : AcceptedByBoth "http://t/" "[true]" := ⟨⟨.arr [.bool true], by cbv⟩, _, hrequest, rfl⟩
  have hbatch : decodeBatch oneRequestFile = .ok [⟨"http://t/", .null⟩] := by cbv
  have htext : Utf8.read false (Utf8.encode oneRequestFile) = .ok oneRequestFile := by cbv
  have hanswer : (Payload.success ⟨Text.ofInt 200, .arr [.bool true]⟩).document .indented =
      some "\x7b\n  \"statusCode\": \"200\",\n  \"body\": [\n    true\n  ]\n\x7d" := by cbv
  have hentries : (Payload.batch ⟨[("http://t/", ⟨"200", .null⟩)], []⟩).document .indented =
      some ("\x7b\n  \"successes\": \x7b\n    \"http://t/\": \x7b\n      \"statusCode\": \"200\",\n      \"body\": null\n    \x7d\n  \x7d,\n" ++
        "  \"errors\": \x7b\x7d\n\x7d") := by cbv
  have houtcome : (dispatchBatch answeringWorld.surroundings.relay (HttpSession.new x) [⟨"http://t/", .null⟩]).outcome =
      .ok ⟨[("http://t/", ⟨"200", .null⟩)], []⟩ := by cbv
  obtain ⟨hposts, hbatches⟩ := commands_agree (fun _ _ => .ok ()) haccepts
  constructor
  · obtain ⟨task, hinput⟩ : ∃ task : TaskInfo, task.input = executeInput "http://t/" "[true]" := ⟨⟨"execute", "1", _⟩, rfl⟩
    have hagrees := hposts _ _ haccepted task hinput
    rw [payloads_executeActivity _ _ (hinput ▸ hrequest)] at hagrees
    exact (hagrees.answer _).2 ⟨⟨Text.ofInt 200, .arr [.bool true]⟩, rfl, hanswer⟩
  · obtain ⟨task, hinput⟩ : ∃ task : TaskInfo, task.input = oneRequestFile := ⟨⟨"batchExecute", "1", _⟩, rfl⟩
    have hagrees := (hbatches "b.json" _ task rfl (hinput ▸ htext)).1
    rw [batchExecuteActivity_eq (hinput ▸ hbatch), Activity.run, Activity.perform, payloads_afterBatch _ _ _ _ rfl,
      houtcome] at hagrees
    exact (hagrees.entries _).2 ⟨_, rfl, hentries⟩

end WebhookBridge
