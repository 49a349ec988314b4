import WebhookBridge.Proofs.Command.Reports
import WebhookBridge.Proofs.Command.Words
import WebhookBridge.Server.Isolated

/-!
# Where one-off commands end

A one-off command is meant to end in one of three ways: it shows what its calls came to, it reports a failure, or it reports
how it is misused. Some things get past all of them: data that nests too deeply, a file that is no text, a call that nobody
answers for, and an answer that cannot be dumped. Then something escapes from the command. Whatever happens, nothing is sent
before the data or the file has been found to be in order.

## Contents

* `PostEnds`, `BatchEnds`: the ways to end; `PostEscapes`, `BatchEscapes`: the ways past them;
* `World.Accepts`: lines whose time limit and level of log events are in order;
* `commands_end_iff`: a line ends as it should exactly if nothing escapes;
* `batch_escapes_notText`: a file that is no text.
-/

namespace WebhookBridge

/-! ## The ways to end -/

/-- **The ways a single call is meant to end**: its answer is shown, or its relay error, or else how the line is misused. -/
inductive PostEnds (peer : Peer) (now : Moment) (url data timeout : Text) (r : CommandReport) : Prop where
  | answered (x : Binary64) (body answer : Json) (status : Int) (htimeout : readLenientFloat? timeout = some x)
      (hdata : Json.Lenient.read Json.maxNesting data = .ok body)
      (hresult : (HttpCall.single peer now x ⟨url, body⟩).report.result = .answered status answer)
      (hshows : r.Shows 0 .indented (.success ⟨Text.ofInt status, answer⟩))
  | failed (x : Binary64) (body : Json) (e : RelayError) (htimeout : readLenientFloat? timeout = some x)
      (hdata : Json.Lenient.read Json.maxNesting data = .ok body)
      (hresult : (HttpCall.single peer now x ⟨url, body⟩).report.result = .failed e)
      (hshows : r.Shows 1 .inline (.error e.message))
  | misused (hmisused : r.Misused)

/-- **The ways a batch is meant to end**: its entries are shown, or its file names no requests, or else the line is
    misused. -/
inductive BatchEnds (world : World) (peer : Peer) (now : Moment) (path timeout : Text) (r : CommandReport) : Prop where
  | done (x : Binary64) (content : Octets) (t : Text) (requests : List RelayRequest) (result : BatchResult)
      (htimeout : readLenientFloat? timeout = some x) (hfile : world.file path = .file content)
      (htext : Utf8.read false content = .ok t) (hrequests : decodeBatch (withLineFeeds t) = .ok requests)
      (hresult : (HttpCall.batch peer now x requests).outcome = .ok result) (hshows : r.Shows 0 .indented (.batch result))
  | invalid (content : Octets) (t : Text) (issues : List Issue) (hfile : world.file path = .file content)
      (htext : Utf8.read false content = .ok t) (hissues : decodeBatch (withLineFeeds t) = .error issues)
      (hfails : r.Fails (("invalid batch file " : Text) ++ tidyPath path ++ ": " ++ report "BatchRequest" issues))
  | misused (hmisused : r.Misused)

theorem PostEnds.escaped {peer : Peer} {now : Moment} {url data timeout : Text} {r : CommandReport}
    (h : PostEnds peer now url data timeout r) : r.escaped = none := by
  cases h with
  | answered _ _ _ _ _ _ _ hshows => exact hshows.escaped
  | failed _ _ _ _ _ _ hshows => exact hshows.escaped
  | misused hmisused => exact hmisused.escaped

theorem BatchEnds.escaped {world : World} {peer : Peer} {now : Moment} {path timeout : Text} {r : CommandReport}
    (h : BatchEnds world peer now path timeout r) : r.escaped = none := by
  cases h with
  | done _ _ _ _ _ _ _ _ _ _ hshows => exact hshows.escaped
  | invalid _ _ _ _ _ _ hfails => exact hfails.escaped
  | misused hmisused => exact hmisused.escaped

/-! ## The ways past them -/

/-- **The ways past them for a single call**: its data nests too deeply to be read, it is lost, or its answer cannot be
    dumped. -/
inductive PostEscapes (peer : Peer) (now : Moment) (url data : Text) (x : Binary64) : Prop where
  | tooDeep (hdata : Json.Lenient.read Json.maxNesting data = .error .tooDeep)
  | lost (body : Json) (hdata : Json.Lenient.read Json.maxNesting data = .ok body)
      (hlost : (HttpCall.single peer now x ⟨url, body⟩).Lost)
  | undumpable (body answer : Json) (status : Int) (hdata : Json.Lenient.read Json.maxNesting data = .ok body)
      (hresult : (HttpCall.single peer now x ⟨url, body⟩).report.result = .answered status answer)
      (hdump : ¬ answer.Dumpable)

/-- **The ways past them for a batch**: its file is no text, one of its calls is lost, or its entries cannot be dumped. -/
inductive BatchEscapes (peer : Peer) (now : Moment) (content : Octets) (x : Binary64) : Prop where
  | notText (fault : DecodeFault) (htext : Utf8.read false content = .error fault)
  | lost (t : Text) (requests : List RelayRequest) (htext : Utf8.read false content = .ok t)
      (hrequests : decodeBatch (withLineFeeds t) = .ok requests) (c : HttpCall)
      (hcall : c ∈ HttpCall.ofBatch peer now x requests) (hlost : c.Lost)
  | undumpable (t : Text) (requests : List RelayRequest) (result : BatchResult) (htext : Utf8.read false content = .ok t)
      (hrequests : decodeBatch (withLineFeeds t) = .ok requests)
      (hresult : (HttpCall.batch peer now x requests).outcome = .ok result) (hdump : ¬ (Payload.batch result).Dumpable)

variable {world : World} {peer : Peer} {now : Moment}

/-! ## Single calls -/

/-- What is read from data does not nest too deeply to be written again. -/
theorem not_nestsTooDeep_of_read {data : Text} {body : Json} (hdata : Json.Lenient.read Json.maxNesting data = .ok body) :
    ¬ body.NestsTooDeep :=
  Json.not_nestsTooDeep (Json.Lenient.partFault?_of_readAll (Json.Lenient.readAll_of_read hdata))

/-- **A single call past which nothing gets** ends as it should. -/
theorem postEnds_of_not_escapes {url data timeout : Text} {x : Binary64} (htimeout : readLenientFloat? timeout = some x)
    (h : ¬ PostEscapes peer now url data x) :
    PostEnds peer now url data timeout (postCommand (world.over peer now) url data x) := by
  cases hdata : Json.Lenient.read Json.maxNesting data with
  | error fault =>
      have hfault : fault ≠ .tooDeep := fun he => h (.tooDeep (he ▸ hdata))
      refine .misused ?_
      cases fault with
      | tooDeep => exact absurd rfl hfault
      | _ =>
          simp only [postCommand, hdata]
          exact CommandReport.misused_misuse _ _
  | ok body =>
      obtain ⟨log, hcommand⟩ := postCommand_call world peer now url x hdata
      have hbody : ¬ (HttpCall.single peer now x ⟨url, body⟩).request.body.NestsTooDeep := not_nestsTooDeep_of_read hdata
      have hrelayed := (HttpCall.isRelayed_iff_not_lost hbody).2 fun hlost => h (.lost body hdata hlost)
      rw [hcommand]
      -- the call is answered for, so that an answer or an error is shown
      cases hresult : (HttpCall.single peer now x ⟨url, body⟩).report.result with
      | answered status answer =>
          have hdump : answer.Dumpable := Classical.byContradiction fun hdump => h (.undumpable body answer status hdata hresult hdump)
          refine .answered x body answer status htimeout hdata hresult (CommandReport.Shows.during ?_ _ _)
          rw [callReport_answered]
          exact CommandReport.shows_payload _ _ (HttpCall.short_of_answered hresult) hdump
      | failed e =>
          refine .failed x body e htimeout hdata hresult (CommandReport.Shows.during ?_ _ _)
          rw [callReport_failed]
          exact CommandReport.shows_payload _ _ trivial trivial
      | met defect =>
          rw [hresult] at hrelayed
          exact hrelayed.elim

/-- **What gets past a single call** escapes from it. -/
theorem PostEscapes.escaped {url data : Text} {x : Binary64} (h : PostEscapes peer now url data x) :
    (postCommand (world.over peer now) url data x).escaped ≠ none := by
  -- what a call escapes with, its command escapes with
  have hmade : ∀ body, Json.Lenient.read Json.maxNesting data = .ok body →
      (∃ e, callReport url (HttpCall.single peer now x ⟨url, body⟩).report.result = .escape e) →
      (postCommand (world.over peer now) url data x).escaped ≠ none := by
    rintro body hdata ⟨e, he⟩
    obtain ⟨log, hcommand⟩ := postCommand_call world peer now url x hdata
    rw [hcommand, he]
    simp [CommandReport.during, CommandReport.escape]
  cases h with
  | tooDeep hdata => simp [postCommand, hdata, CommandReport.escape]
  | lost body hdata hlost =>
      refine hmade body hdata (callReport_escapes url fun hrelayed => ?_)
      exact (HttpCall.isRelayed_iff_not_lost (not_nestsTooDeep_of_read hdata)).1 hrelayed hlost
  | undumpable body answer status hdata hresult hdump =>
      refine hmade body hdata ?_
      rw [hresult, callReport_answered]
      obtain ⟨fault, hfault⟩ := CommandReport.escaped_payload 0 .indented (p := .success ⟨Text.ofInt status, answer⟩) hdump
      exact ⟨_, hfault⟩

/-- Data that is no JSON text, for whatever reason, makes no call. -/
theorem sent_postCommand_of_data {url data : Text} {x : Binary64}
    (h : ∀ body, Json.Lenient.read Json.maxNesting data ≠ .ok body) : (postCommand world url data x).sent = [] := by
  cases hdata : Json.Lenient.read Json.maxNesting data with
  | ok body => exact absurd hdata (h body)
  | error fault => cases fault <;> simp [postCommand, hdata, CommandReport.escape, CommandReport.misuse, CommandReport.exit]

/-! ## Batches -/

/-- **A batch past which nothing gets** ends as it should. -/
theorem batchEnds_of_not_escapes {path timeout : Text} {content : Octets} {x : Binary64}
    (htimeout : readLenientFloat? timeout = some x) (hfile : world.file path = .file content)
    (h : ¬ BatchEscapes peer now content x) :
    BatchEnds world peer now path timeout (batchCommand (world.over peer now) path content x) := by
  cases htext : Utf8.read false content with
  | error fault => exact absurd (.notText fault htext) h
  | ok t =>
      cases hrequests : decodeBatch (withLineFeeds t) with
      | error issues =>
          refine .invalid content t issues hfile htext hrequests ?_
          simp only [batchCommand, htext, hrequests]
          exact CommandReport.fails_failure _
      | ok requests =>
          obtain ⟨result, hresult⟩ := (HttpCall.batch_ok_iff (RelayRequest.isFair_of_decodeBatch hrequests)).2
            fun c hc hlost => h (.lost t requests htext hrequests c hc hlost)
          have hdump : (Payload.batch result).Dumpable := Classical.byContradiction fun hdump =>
            h (.undumpable t requests result htext hrequests hresult hdump)
          obtain ⟨log, sent, hcommand⟩ := batchCommand_calls world peer now path x htext hrequests
          refine .done x content t requests result htimeout hfile htext hrequests hresult ?_
          rw [hcommand, hresult]
          exact (CommandReport.shows_payload _ _ (HttpCall.short_batch hresult) hdump).during _ _

/-- **What gets past a batch** escapes from it. -/
theorem BatchEscapes.escaped {path : Text} {content : Octets} {x : Binary64} (h : BatchEscapes peer now content x) :
    (batchCommand (world.over peer now) path content x).escaped ≠ none := by
  cases h with
  | notText fault htext => simp [batchCommand, htext, CommandReport.escape]
  | lost t requests htext hrequests c hcall hlost =>
      obtain ⟨log, sent, hcommand⟩ := batchCommand_calls world peer now path x htext hrequests
      rw [hcommand]
      cases hresult : (HttpCall.batch peer now x requests).outcome with
      | ok result =>
          exact absurd hlost ((HttpCall.batch_ok_iff (RelayRequest.isFair_of_decodeBatch hrequests)).1 ⟨result, hresult⟩ c hcall)
      | error defect => simp [batchReport, CommandReport.during, CommandReport.escape]
  | undumpable t requests result htext hrequests hresult hdump =>
      obtain ⟨log, sent, hcommand⟩ := batchCommand_calls world peer now path x htext hrequests
      obtain ⟨fault, hfault⟩ := CommandReport.escaped_payload 0 .indented (p := .batch result) hdump
      rw [hcommand, hresult, batchReport, hfault]
      simp [CommandReport.during, CommandReport.escape]

/-- A file that names no requests, for whatever reason, makes no call. -/
theorem sent_batchCommand_of_file {path : Text} {content : Octets} {x : Binary64}
    (h : ∀ t requests, Utf8.read false content = .ok t → decodeBatch (withLineFeeds t) ≠ .ok requests) :
    (batchCommand world path content x).sent = [] := by
  cases htext : Utf8.read false content with
  | error fault => simp [batchCommand, htext, CommandReport.escape, CommandReport.exit]
  | ok t =>
      cases hrequests : decodeBatch (withLineFeeds t) with
      | ok requests => exact absurd hrequests (h t requests htext)
      | error issues => simp [batchCommand, htext, hrequests, CommandReport.failure, CommandReport.exit]

/-! ## Lines -/

/-- The level of log events and the time limit of a line are in order. -/
def World.Accepts (world : World) (timeout : Text) (x : Binary64) : Prop :=
  (∃ level, world.level = .ok level) ∧ readLenientFloat? timeout = some x

namespace CommandReport

theorem Misused.atLevel {r : CommandReport} (h : r.Misused) (level : LogLevel) : (r.atLevel level).Misused :=
  ⟨h.exitCode, h.output, h.errors, h.escaped, h.sent⟩

theorem Fails.atLevel {r : CommandReport} {message : Text} (h : r.Fails message) (level : LogLevel) :
    (r.atLevel level).Fails message := ⟨h.exitCode, h.output, h.errors, h.escaped, h.sent⟩

end CommandReport

theorem PostEnds.atLevel {url data timeout : Text} {r : CommandReport} (h : PostEnds peer now url data timeout r)
    (level : LogLevel) : PostEnds peer now url data timeout (r.atLevel level) := by
  cases h with
  | answered x body answer status htimeout hdata hresult hshows =>
      exact .answered x body answer status htimeout hdata hresult ((CommandReport.atLevel_shows level).2 hshows)
  | failed x body e htimeout hdata hresult hshows =>
      exact .failed x body e htimeout hdata hresult ((CommandReport.atLevel_shows level).2 hshows)
  | misused hmisused => exact .misused (hmisused.atLevel level)

theorem BatchEnds.atLevel {path timeout : Text} {r : CommandReport} (h : BatchEnds world peer now path timeout r)
    (level : LogLevel) : BatchEnds world peer now path timeout (r.atLevel level) := by
  cases h with
  | done x content t requests result htimeout hfile htext hrequests hresult hshows =>
      exact .done x content t requests result htimeout hfile htext hrequests hresult
        ((CommandReport.atLevel_shows level).2 hshows)
  | invalid content t issues hfile htext hissues hfails =>
      exact .invalid content t issues hfile htext hissues (hfails.atLevel level)
  | misused hmisused => exact .misused (hmisused.atLevel level)

/-- A line of a single call is misused, or comes to what its command comes to. -/
theorem runLine_postWords_cases (world : World) (url data timeout : Text) :
    ((∀ x, ¬ world.Accepts timeout x) ∧ (runLine world (postWords url data timeout)).Misused) ∨
      ∃ x level, world.Accepts timeout x ∧
        runLine world (postWords url data timeout) = (postCommand world url data x).atLevel level := by
  rw [runLine_postWords]
  cases hlevel : world.level with
  | error fault =>
      refine .inl ⟨fun x hx => ?_, CommandReport.misused_misuse _ _⟩
      obtain ⟨level, hx⟩ := hx.1
      rw [hlevel] at hx
      cases hx
  | ok level =>
      cases htimeout : readLenientFloat? timeout with
      | none =>
          refine .inl ⟨fun x hx => ?_, (CommandReport.misused_misuse _ _).atLevel level⟩
          cases htimeout.symm.trans hx.2
      | some x => exact .inr ⟨x, level, ⟨⟨level, hlevel⟩, htimeout⟩, rfl⟩

/-- A line of a batch is misused, or comes to what its command comes to. -/
theorem runLine_batchWords_cases (world : World) (path timeout : Text) :
    ((∀ x content, world.Accepts timeout x → world.file path ≠ .file content) ∧
        (runLine world (batchWords path timeout)).Misused) ∨
      ∃ x content level, world.Accepts timeout x ∧ world.file path = .file content ∧
        runLine world (batchWords path timeout) = (batchCommand world path content x).atLevel level := by
  rw [runLine_batchWords]
  cases hlevel : world.level with
  | error fault =>
      refine .inl ⟨fun x content hx => ?_, CommandReport.misused_misuse _ _⟩
      obtain ⟨level, hx⟩ := hx.1
      rw [hlevel] at hx
      cases hx
  | ok level =>
      cases htimeout : readLenientFloat? timeout with
      | none =>
          refine .inl ⟨fun x content hx => ?_, (CommandReport.misused_misuse _ _).atLevel level⟩
          cases htimeout.symm.trans hx.2
      | some x =>
          cases hfile : world.file path with
          | missing => exact .inl ⟨fun _ _ _ => by simp, (CommandReport.misused_misuse _ _).atLevel level⟩
          | directory => exact .inl ⟨fun _ _ _ => by simp, (CommandReport.misused_misuse _ _).atLevel level⟩
          | file content => exact .inr ⟨x, content, level, ⟨⟨level, hlevel⟩, htimeout⟩, rfl, rfl⟩

theorem World.Accepts.unique {timeout : Text} {x y : Binary64} (hx : world.Accepts timeout x)
    (hy : world.Accepts timeout y) : x = y := Option.some.inj (hx.2.symm.trans hy.2)

/-- **Where single calls end.** -/
theorem postLine_ends_iff (world : World) (peer : Peer) (now : Moment) (url data timeout : Text) :
    (PostEnds peer now url data timeout (runLine (world.over peer now) (postWords url data timeout)) ↔
        ∀ x, world.Accepts timeout x → ¬ PostEscapes peer now url data x) ∧
      ((runLine (world.over peer now) (postWords url data timeout)).escaped = none ↔
        ∀ x, world.Accepts timeout x → ¬ PostEscapes peer now url data x) := by
  rcases runLine_postWords_cases (world.over peer now) url data timeout with ⟨hnone, hmisused⟩ | ⟨x, level, hx, heq⟩
  · have hescapes : ∀ x, world.Accepts timeout x → ¬ PostEscapes peer now url data x := fun x hx => absurd hx (hnone x)
    exact ⟨iff_of_true (.misused hmisused) hescapes, iff_of_true hmisused.escaped hescapes⟩
  · have hx : world.Accepts timeout x := hx
    have hiff : (∀ x, world.Accepts timeout x → ¬ PostEscapes peer now url data x) ↔ ¬ PostEscapes peer now url data x :=
      ⟨fun h => h x hx, fun h y hy => hx.unique hy ▸ h⟩
    have hends : ¬ PostEscapes peer now url data x → PostEnds peer now url data timeout
        (runLine (world.over peer now) (postWords url data timeout)) := by
      intro h
      rw [heq]
      exact (postEnds_of_not_escapes hx.2 h).atLevel level
    have hescapes : (runLine (world.over peer now) (postWords url data timeout)).escaped = none →
        ¬ PostEscapes peer now url data x := by
      intro hnone h
      rw [heq] at hnone
      exact h.escaped hnone
    rw [hiff]
    exact ⟨⟨fun h => hescapes h.escaped, hends⟩, ⟨hescapes, fun h => (hends h).escaped⟩⟩

/-- **Where batches end.** -/
theorem batchLine_ends_iff (world : World) (peer : Peer) (now : Moment) (path timeout : Text) :
    (BatchEnds world peer now path timeout (runLine (world.over peer now) (batchWords path timeout)) ↔
        ∀ x content, world.Accepts timeout x → world.file path = .file content → ¬ BatchEscapes peer now content x) ∧
      ((runLine (world.over peer now) (batchWords path timeout)).escaped = none ↔
        ∀ x content, world.Accepts timeout x → world.file path = .file content → ¬ BatchEscapes peer now content x) := by
  rcases runLine_batchWords_cases (world.over peer now) path timeout with
    ⟨hnone, hmisused⟩ | ⟨x, content, level, hx, hfile, heq⟩
  · have hescapes : ∀ x content, world.Accepts timeout x → world.file path = .file content →
        ¬ BatchEscapes peer now content x := fun x content hx hfile => absurd hfile (hnone x content hx)
    exact ⟨iff_of_true (.misused hmisused) hescapes, iff_of_true hmisused.escaped hescapes⟩
  · have hx : world.Accepts timeout x := hx
    have hfile : world.file path = .file content := hfile
    have hiff : (∀ x content, world.Accepts timeout x → world.file path = .file content →
        ¬ BatchEscapes peer now content x) ↔ ¬ BatchEscapes peer now content x := by
      refine ⟨fun h => h x content hx hfile, fun h y other hy hother => ?_⟩
      cases FileEntry.file.inj (hfile.symm.trans hother)
      exact hx.unique hy ▸ h
    have hends : ¬ BatchEscapes peer now content x → BatchEnds world peer now path timeout
        (runLine (world.over peer now) (batchWords path timeout)) := by
      intro h
      rw [heq]
      exact (batchEnds_of_not_escapes hx.2 hfile h).atLevel level
    have hescapes : (runLine (world.over peer now) (batchWords path timeout)).escaped = none →
        ¬ BatchEscapes peer now content x := by
      intro hnone h
      rw [heq] at hnone
      exact h.escaped hnone
    rw [hiff]
    exact ⟨⟨fun h => hescapes h.escaped, hends⟩, ⟨hescapes, fun h => (hends h).escaped⟩⟩

/-- **Where one-off commands end.** A single call ends in one of the ways it is meant to end in, and nothing escapes from it,
    exactly if its data does not nest too deeply, it is not lost and its answer can be dumped. A batch does so exactly if its
    file is a text, none of its calls is lost and its entries can be dumped. Neither sends anything if the data or the file is
    not in order. -/
theorem commands_end_iff (world : World) (peer : Peer) (now : Moment) (timeout : Text) :
    (∀ url data,
      (PostEnds peer now url data timeout (runLine (world.over peer now) (postWords url data timeout)) ↔
        ∀ x, world.Accepts timeout x → ¬ PostEscapes peer now url data x) ∧
      ((runLine (world.over peer now) (postWords url data timeout)).escaped = none ↔
        ∀ x, world.Accepts timeout x → ¬ PostEscapes peer now url data x) ∧
      ((∀ body, Json.Lenient.read Json.maxNesting data ≠ .ok body) →
        (runLine (world.over peer now) (postWords url data timeout)).sent = [])) ∧
    ∀ path,
      (BatchEnds world peer now path timeout (runLine (world.over peer now) (batchWords path timeout)) ↔
        ∀ x content, world.Accepts timeout x → world.file path = .file content → ¬ BatchEscapes peer now content x) ∧
      ((runLine (world.over peer now) (batchWords path timeout)).escaped = none ↔
        ∀ x content, world.Accepts timeout x → world.file path = .file content → ¬ BatchEscapes peer now content x) ∧
      ((∀ content t requests, world.file path = .file content → Utf8.read false content = .ok t →
          decodeBatch (withLineFeeds t) ≠ .ok requests) →
        (runLine (world.over peer now) (batchWords path timeout)).sent = []) := by
  refine ⟨fun url data => ?_, fun path => ?_⟩
  · obtain ⟨hends, hescaped⟩ := postLine_ends_iff world peer now url data timeout
    refine ⟨hends, hescaped, fun hdata => ?_⟩
    rcases runLine_postWords_cases (world.over peer now) url data timeout with ⟨-, hmisused⟩ | ⟨x, level, -, heq⟩
    · exact hmisused.sent
    · rw [heq]
      exact sent_postCommand_of_data hdata
  · obtain ⟨hends, hescaped⟩ := batchLine_ends_iff world peer now path timeout
    refine ⟨hends, hescaped, fun hcontent => ?_⟩
    rcases runLine_batchWords_cases (world.over peer now) path timeout with
      ⟨-, hmisused⟩ | ⟨x, content, level, -, hfile, heq⟩
    · exact hmisused.sent
    · rw [heq]
      exact sent_batchCommand_of_file fun t requests => hcontent content t requests hfile

/-- A world in which every file holds one octet that begins no character. -/
def notTextWorld : World where
  environment := []
  file := fun _ => .file [Octet.ofNat 0xFF]
  surroundings := ⟨.isolated [] 40000, .http (fun _ => .silence) ⟨0, 1970⟩⟩
  catalogue := []
  make := fun _ => .ok .memory

/-- The octet begins no character. -/
theorem notText_octet : ∃ fault, Utf8.read false [Octet.ofNat 0xFF] = .error fault := by
  have htake : Utf8.takeOne (Octet.ofNat 0xFF) [] = .error .invalidStart := rfl
  have hdecode : Utf8.decode false [Octet.ofNat 0xFF] = .error (.invalidStart, [Octet.ofNat 0xFF]) := by
    rw [Utf8.decode]
    split
    · rename_i h
      cases htake.symm.trans h
    · rename_i h
      cases htake.symm.trans h
      rfl
  simp [Utf8.read, hdecode]

/-- A file that is no text makes a batch escape, which does not report it as an invalid file. -/
theorem batch_escapes_notText :
    (runLine notTextWorld (batchWords "b.json" "10")).escaped ≠ none ∧
      ¬ BatchEnds notTextWorld (fun _ => .silence) ⟨0, 1970⟩ "b.json" "10" (runLine notTextWorld (batchWords "b.json" "10")) := by
  obtain ⟨fault, hfault⟩ := notText_octet
  have hescapes : ∀ x, BatchEscapes (fun _ => .silence) ⟨0, 1970⟩ [Octet.ofNat 0xFF] x := fun x => .notText fault hfault
  obtain ⟨x, hx⟩ : ∃ x, readLenientFloat? "10" = some x := Option.isSome_iff_exists.1 (by decide)
  have haccepts : notTextWorld.Accepts "10" x := ⟨⟨.info, rfl⟩, hx⟩
  obtain ⟨hends, hescaped⟩ := batchLine_ends_iff notTextWorld (fun _ => .silence) ⟨0, 1970⟩ "b.json" "10"
  exact ⟨fun h => hescaped.1 h x _ haccepts rfl (hescapes x), fun h => hends.1 h x _ haccepts rfl (hescapes x)⟩

end WebhookBridge
