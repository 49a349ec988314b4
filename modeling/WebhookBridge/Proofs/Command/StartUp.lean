import WebhookBridge.Proofs.Command.ServeLines
import WebhookBridge.Proofs.Component.Factories
import WebhookBridge.Proofs.Service.StartFails

/-!
# Where start-ups end

A command that serves reads its settings, loads and makes the runtime that they name, makes the service and starts its server. A
start-up that fails is meant to be reported, as a fault of the configuration or of the server. Some failures get past that: a
runtime with a relative name, an endpoint that is no route, and an address on which binding fails with something that is no
refusal of the system; a factory may fail with whatever it likes; and so may an embedded server before it accepts connections.

## Contents

* `World.Makes`, `World.Asks`: the runtime that is made, and start-ups that come to ask for their address;
* `StartUpFault`, `World.Meets`: the failures that are reported, and when they are met;
* `World.SlipsPast`: those that are not;
* `World.Listens`: start-ups that succeed, `World.startUp_cases` that these are all;
* `StopsAt`, `World.Meets.fails`, `World.SlipsPast.escapes`: what the command comes to;
* `World.Serving`, `World.Serving.ends`: services that are served, whatever happens meanwhile;
* `startUp_reported_iff`: a start-up that fails is reported exactly if nothing slips past;
* `startUps_slip_past`: two that do.
-/

namespace WebhookBridge

variable {world : World} {sources : Sources} {settings : Settings} {guest : Guest} {values : List (Text × OptionValue)}
  {level : LogLevel}

/-! ## Settings -/

/-- Where the settings of a command that serves come from. -/
abbrev World.serveSources (world : World) (values : List (Text × OptionValue)) (level : LogLevel) : Sources :=
  ⟨world.environment, serveOverrides values level⟩

/-- An entry under another key does not hide one. -/
theorem Table.get?_toList_append {α β : Type} {k key : Text} (hkey : key ≠ k) (o : Option α) (f : α → β) (t : Table β) :
    Table.get? k ((o.map fun v => (key, f v)).toList ++ t) = Table.get? k t := by
  cases o with
  | none => rfl
  | some v => simp [Table.get?, hkey]

/-- The level of log events overrides whatever is set. -/
theorem override?_logLevel (world : World) (values : List (Text × OptionValue)) (level : LogLevel) :
    (world.serveSources values level).override? .logLevel = some (.str level.name) := by
  have hget : Table.get? Setting.logLevel.name (serveOverrides values level) = some (.str level.name) := by
    simp only [serveOverrides, List.append_assoc]
    rw [Table.get?_toList_append (by decide), Table.get?_toList_append (by decide), Table.get?_toList_append (by decide),
      Table.get?_toList_append (by decide), Table.get?_toList_append (by decide)]
    rfl
  simp [Sources.override?, hget]

/-- The embedded server knows every level of log events. -/
theorem LogLevel.name_known (level : LogLevel) : Text.toLower level.name ∈ embeddedLogLevels := by
  cases level <;> decide

theorem logLevel_of_load (h : Settings.load (world.serveSources values level) = .ok settings) :
    settings.logLevel = level.name := by
  have hfield : Settings.field (world.serveSources values level) .logLevel acceptText Settings.default.logLevel
      = .ok level.name := by
    simp [Settings.field, Sources.chosen?, override?_logLevel, acceptText]
  obtain ⟨issues, hissues⟩ | hsources : (∃ issues, Settings.ofSources (world.serveSources values level) = .error issues) ∨
      Settings.ofSources (world.serveSources values level) = .ok settings := by
    unfold Settings.load at h
    cases hsources : Settings.ofSources (world.serveSources values level) with
    | error issues => exact Or.inl ⟨issues, rfl⟩
    | ok found =>
        rw [hsources] at h
        cases h
        exact Or.inr rfl
  · rw [Settings.load, hissues] at h
    cases h
  · unfold Settings.ofSources at hsources
    rw [hfield] at hsources
    dsimp only at hsources
    split at hsources
    · rename_i hlevel _
      cases hlevel
      cases hsources
      rfl
    · cases hsources

/-- A service is never made with a level that the embedded server does not know. -/
theorem known_of_load (h : Settings.load (world.serveSources values level) = .ok settings) :
    Text.toLower settings.logLevel ∈ embeddedLogLevels := by
  rw [logLevel_of_load h]
  exact level.name_known

/-! ## Runtimes -/

/-- **A runtime that is made**: the one within the process, or what the factory makes that the settings name. -/
inductive World.Makes (world : World) (settings : Settings) : Guest → Prop
  | within (hruntime : settings.runtime = none) : Makes world settings .memory
  | loaded {path origin : Text} {guest : Guest} (hruntime : settings.runtime = some path)
      (hnames : world.catalogue.NamesFactory path origin) (hmakes : world.make origin = .ok guest) : Makes world settings guest

theorem World.Makes.guestOf (h : world.Makes settings guest) : guestOf world settings = .ok guest := by
  cases h with
  | within hruntime => simp only [WebhookBridge.guestOf, hruntime]
  | loaded hruntime hnames hmakes =>
      simp only [WebhookBridge.guestOf, hruntime, Catalogue.loadFactory_ok_iff.2 hnames, hmakes]
      rfl

/-- The report of a failure to load that is answered for. -/
theorem guestOf_of_answeredFor {path : Text} {fault : LoadFault} (hruntime : settings.runtime = some path)
    (hfault : world.catalogue.loadFactory path = .error fault) (hanswered : fault.IsAnsweredFor) :
    guestOf world settings = .error (misconfigured (.runtimeNotLoaded path fault.message)) := by
  simp only [guestOf, hruntime, hfault]
  cases fault with
  | relative name => exact hanswered.elim
  | _ => rfl

theorem guestOf_of_relative {path : Text} {fault : LoadFault} (hruntime : settings.runtime = some path)
    (hfault : world.catalogue.loadFactory path = .error fault) (hrelative : Catalogue.IsRelative path) :
    guestOf world settings = .error (.escape (.loading fault)) := by
  obtain ⟨name, rfl⟩ := Catalogue.eq_relative_of_not_isAnsweredFor fun hanswered =>
    (Catalogue.isAnsweredFor_iff hfault).1 hanswered hrelative
  simp only [guestOf, hruntime, hfault]

theorem guestOf_of_factory {path origin : Text} {defect : Defect} (hruntime : settings.runtime = some path)
    (hnames : world.catalogue.NamesFactory path origin) (hmakes : world.make origin = .error defect) :
    guestOf world settings = .error (.escape (.factory defect)) := by
  simp only [guestOf, hruntime, Catalogue.loadFactory_ok_iff.2 hnames, hmakes]
  rfl

/-! ## Failures -/

/-- A start-up that comes to ask for its address: its settings are read, its runtime is made, and its endpoint is a route. -/
structure World.Asks (world : World) (sources : Sources) (settings : Settings) : Prop where
  load : Settings.load sources = .ok settings
  makes : ∃ guest, world.Makes settings guest
  endpoint : settings.endpoint ≠ []
  address : settings.address ≠ []
  route : ∃ pattern, RoutePattern.parse settings.endpoint = .ok pattern

/-- The failures that a start-up reports. -/
inductive StartUpFault where
  | configuration (e : ConfigurationError)
  | server (fault : ServerFault)

/-- The text of a failure of a start-up. -/
def StartUpFault.message : StartUpFault → Text
  | .configuration e => e.message
  | .server fault => fault.message

/-- **The failures that are reported**: values of settings that are not valid, a runtime that is not loaded, an endpoint or an
    address that is empty, an address that cannot be read, and one that the system refuses to bind. -/
inductive World.Meets (world : World) (sources : Sources) : StartUpFault → Prop
  | invalid {e : ConfigurationError} (hload : Settings.load sources = .error e) : Meets world sources (.configuration e)
  | notLoaded {settings : Settings} {path : Text} {fault : LoadFault} (hload : Settings.load sources = .ok settings)
      (hruntime : settings.runtime = some path) (hfault : world.catalogue.loadFactory path = .error fault)
      (hanswered : fault.IsAnsweredFor) : Meets world sources (.configuration (.runtimeNotLoaded path fault.message))
  | notSet {settings : Settings} {guest : Guest} (hload : Settings.load sources = .ok settings)
      (hmakes : world.Makes settings guest) (hempty : settings.endpoint = [] ∨ settings.address = []) :
      Meets world sources (.configuration .webhookNotSet)
  | unreadable {settings : Settings} {e : AddressError} (hasks : world.Asks sources settings)
      (hparse : Address.parse settings.address = .error e) : Meets world sources (.server (.address e))
  | refused {settings : Settings} {here : Address} {reason : Text} (hasks : world.Asks sources settings)
      (hparse : Address.parse settings.address = .ok here) (hbind : world.surroundings.bind here = .refused reason) :
      Meets world sources (.server (.notBound settings.address reason))

/-- **The failures that slip past**: a runtime with a relative name, a factory that fails, an endpoint that is no route, and an
    address on which binding meets a defect. -/
inductive World.SlipsPast (world : World) (sources : Sources) : Escape → Prop
  | relative {settings : Settings} {path : Text} {fault : LoadFault} (hload : Settings.load sources = .ok settings)
      (hruntime : settings.runtime = some path) (hfault : world.catalogue.loadFactory path = .error fault)
      (hrelative : Catalogue.IsRelative path) : SlipsPast world sources (.loading fault)
  | factory {settings : Settings} {path origin : Text} {defect : Defect} (hload : Settings.load sources = .ok settings)
      (hruntime : settings.runtime = some path) (hnames : world.catalogue.NamesFactory path origin)
      (hmakes : world.make origin = .error defect) : SlipsPast world sources (.factory defect)
  | unroutable {settings : Settings} {guest : Guest} {e : RouteError} (hload : Settings.load sources = .ok settings)
      (hmakes : world.Makes settings guest) (hendpoint : settings.endpoint ≠ []) (haddress : settings.address ≠ [])
      (hroute : RoutePattern.parse settings.endpoint = .error e) : SlipsPast world sources (.route e)
  | unbindable {settings : Settings} {here : Address} {defect : Defect} (hasks : world.Asks sources settings)
      (hparse : Address.parse settings.address = .ok here) (hbind : world.surroundings.bind here = .failed defect) :
      SlipsPast world sources (.service (.server (.broken defect)))

/-! ## Services -/

/-- A start-up that makes a service: what it makes, and over which guest. -/
structure World.Begins (world : World) (sources : Sources) (settings : Settings) (guest : Guest) (s : Service) : Prop where
  load : Settings.load sources = .ok settings
  makes : guestOf world settings = .ok guest
  create : Service.create settings guest.conduct EventStore.defaultCapacity none = .ok s

/-- **A start-up that succeeds**: the server of the service comes to listen. -/
def World.Listens (world : World) (sources : Sources) : Prop :=
  ∃ settings guest s, world.Begins sources settings guest s ∧ (s.serve world.surroundings guest).CameUp

theorem World.Begins.unique {settings' : Settings} {guest' : Guest} {s s' : Service} (h : world.Begins sources settings guest s)
    (h' : world.Begins sources settings' guest' s') : guest' = guest ∧ s' = s := by
  obtain rfl : settings' = settings := Except.ok.inj (h'.load.symm.trans h.load)
  obtain rfl : guest' = guest := Except.ok.inj (h'.makes.symm.trans h.makes)
  exact ⟨rfl, Except.ok.inj (h'.create.symm.trans h.create)⟩

/-- The service that is made has a server of its settings, and a runtime in which nothing has come up. -/
theorem World.Begins.server {s : Service} (h : world.Begins sources settings guest s) :
    s.server = .new settings.address settings.logLevel := by
  have hcreate := h.create
  unfold Service.create at hcreate
  split at hcreate
  · cases hcreate
  · split at hcreate
    · cases hcreate
    · cases hcreate
      rfl

theorem World.Begins.quiet {s : Service} (h : world.Begins sources settings guest s) : Service.Quiet s.runtime := by
  rw [Service.runtime_create h.create]
  exact Service.quiet_new ..

/-- A start-up that comes to ask for its address makes a service. -/
theorem World.Asks.begins (h : world.Asks sources settings) : ∃ guest s, world.Begins sources settings guest s := by
  obtain ⟨guest, hmakes⟩ := h.makes
  obtain ⟨pattern, hroute⟩ := h.route
  have hset : (settings.endpoint.isEmpty || settings.address.isEmpty) = false := by simp [h.endpoint, h.address]
  have hcreate : ∃ s, Service.create settings guest.conduct EventStore.defaultCapacity none = .ok s := by
    simp only [Service.create, hset, Bool.false_eq_true, if_false, WebApp.create, hroute, Except.map]
    exact ⟨_, rfl⟩
  obtain ⟨s, hcreate⟩ := hcreate
  exact ⟨guest, s, h.load, hmakes.guestOf, hcreate⟩

/-! ## Reports -/

namespace CommandReport

/-- A command from which something escapes, with nothing written and nothing sent. -/
structure Escapes (r : CommandReport) (e : Escape) : Prop where
  exitCode : r.exitCode = some 1
  output : r.output = []
  errors : r.errors = []
  escaped : r.escaped = some e
  sent : r.sent = []

theorem escapes_escape (e : Escape) : (escape e).Escapes e := ⟨rfl, rfl, rfl, rfl, rfl⟩

variable {r : CommandReport} {e : Escape}

theorem Escapes.during (h : r.Escapes e) (log : List LogEvent) : (r.during log []).Escapes e :=
  ⟨h.exitCode, h.output, h.errors, h.escaped, rfl⟩

theorem Fails.during {message : Text} (h : r.Fails message) (log : List LogEvent) : (r.during log []).Fails message :=
  ⟨h.exitCode, h.output, h.errors, h.escaped, rfl⟩

theorem Escapes.atLevel (h : r.Escapes e) (level : LogLevel) : (r.atLevel level).Escapes e :=
  ⟨h.exitCode, h.output, h.errors, h.escaped, h.sent⟩

end CommandReport

/-- The report of a fault of the server: it is reported if the server answers for it, and else escapes. -/
def serverReport (fault : ServerFault) : CommandReport :=
  if fault.isOwn then .failure fault.message else .escape (.service (.server fault))

/-- A run that is over with a fault of the server is reported by it. -/
theorem reportRun_of_over {s : Service} {fault : ServerFault} (hrun : s.runs.getLast? = some (Service.overWith fault))
    (hquiet : Service.Quiet s.runtime) : reportRun s = (serverReport fault).during s.log [] := by
  simp only [reportRun, hrun, hquiet.sent]
  rfl

/-- Of the faults of a server at a known level, those are reported with which nothing has broken. -/
theorem serverReport_ends {fault : ServerFault} (hknown : ∀ name, fault ≠ .unknownLogLevel name) (log : List LogEvent) :
    (((serverReport fault).during log []).Fails fault.message ↔ ∀ defect, fault ≠ .broken defect) ∧
      ∀ defect, fault = .broken defect ↔ ((serverReport fault).during log []).Escapes (.service (.server (.broken defect))) := by
  by_cases hbroken : ∃ defect, fault = .broken defect
  · obtain ⟨defect, rfl⟩ := hbroken
    have hescapes : ((serverReport (.broken defect)).during log []).Escapes (.service (.server (.broken defect))) :=
      (CommandReport.escapes_escape _).during log
    refine ⟨⟨fun hreported => ?_, fun hnone => absurd rfl (hnone defect)⟩,
      fun other => ⟨fun hother => hother ▸ hescapes, fun h => ?_⟩⟩
    · cases hescapes.escaped.symm.trans hreported.escaped
    · cases hescapes.escaped.symm.trans h.escaped
      rfl
  · have hown : fault.isOwn = true := by
      cases fault with
      | unknownLogLevel name => exact absurd rfl (hknown name)
      | broken defect => exact absurd ⟨defect, rfl⟩ hbroken
      | _ => rfl
    have hreported : ((serverReport fault).during log []).Fails fault.message := by
      rw [serverReport, if_pos hown]
      exact (CommandReport.fails_failure _).during log
    refine ⟨⟨fun _ => not_exists.1 hbroken, fun _ => hreported⟩,
      fun defect => ⟨fun h => absurd ⟨defect, h⟩ hbroken, fun h => ?_⟩⟩
    cases h.escaped.symm.trans hreported.escaped

theorem World.Begins.serveCommand {s : Service} (h : world.Begins (world.serveSources values level) settings guest s) :
    serveCommand world values level = reportRun (s.serve world.surroundings guest) := by
  simp only [WebhookBridge.serveCommand, h.load, h.makes, h.create]

/-! ## What the command comes to -/

/-- **The command fails to come to listen**, and comes to a report. -/
def StopsAt (world : World) (values : List (Text × OptionValue)) (level : LogLevel) (report : CommandReport) : Prop :=
  ¬ world.Listens (world.serveSources values level) ∧ serveCommand world values level = report

/-- A start-up that makes no service does not come to listen. -/
theorem World.not_listens (h : ∀ settings guest s, ¬ world.Begins sources settings guest s) : ¬ world.Listens sources := by
  rintro ⟨settings, guest, s, hbegins, -⟩
  exact h settings guest s hbegins

theorem stopsAt_of_load {e : ConfigurationError} (hload : Settings.load (world.serveSources values level) = .error e) :
    StopsAt world values level (misconfigured e) := by
  refine ⟨World.not_listens fun settings guest s hbegins => ?_, ?_⟩
  · cases hbegins.load.symm.trans hload
  · simp only [serveCommand, hload]

theorem stopsAt_of_guest {report : CommandReport} (hload : Settings.load (world.serveSources values level) = .ok settings)
    (hguest : guestOf world settings = .error report) : StopsAt world values level report := by
  refine ⟨World.not_listens fun settings' guest s hbegins => ?_, ?_⟩
  · obtain rfl : settings' = settings := Except.ok.inj (hbegins.load.symm.trans hload)
    cases hbegins.makes.symm.trans hguest
  · simp only [serveCommand, hload, hguest]

/-- The report of a service that cannot be made. -/
def setupReport : SetupFault → CommandReport
  | .configuration e => misconfigured e
  | .route e => .escape (.route e)

theorem stopsAt_of_create {fault : SetupFault} (hload : Settings.load (world.serveSources values level) = .ok settings)
    (hmakes : world.Makes settings guest)
    (hcreate : Service.create settings guest.conduct EventStore.defaultCapacity none = .error fault) :
    StopsAt world values level (setupReport fault) := by
  refine ⟨World.not_listens fun settings' guest' s hbegins => ?_, ?_⟩
  · obtain rfl : settings' = settings := Except.ok.inj (hbegins.load.symm.trans hload)
    obtain rfl : guest' = guest := Except.ok.inj (hbegins.makes.symm.trans hmakes.guestOf)
    cases hbegins.create.symm.trans hcreate
  · simp only [serveCommand, hload, hmakes.guestOf, hcreate]
    cases fault with
    | configuration e => rfl
    | route e => rfl

/-- **Where no embedded server comes of the call to start**, the service does not come to listen, and the fault is reported. -/
theorem stopsAt_of_start {fault : ServerFault} (hasks : world.Asks (world.serveSources values level) settings)
    (hopen : ((WebhookServer.new settings.address settings.logLevel).openServing world.surroundings.bind).2 = .error fault) :
    ∃ log, StopsAt world values level ((serverReport fault).during log []) := by
  obtain ⟨guest, s, hbegins⟩ := hasks.begins
  have hunserved := Service.unserved_serve (Service.fresh_create hbegins.create) hbegins.quiet guest (hbegins.server ▸ hopen)
  have hlast : (s.serve world.surroundings guest).runs.getLast? = some (Service.overWith fault) := by
    rw [hunserved.runs]
    rfl
  refine ⟨_, ?_, hbegins.serveCommand.trans (reportRun_of_over hlast hunserved.quiet)⟩
  rintro ⟨settings', guest', s', hbegins', hcame⟩
  obtain ⟨rfl, rfl⟩ := hbegins.unique hbegins'
  rw [Service.CameUp, hunserved.failed] at hcame
  cases hcame

/-- **A failure that is met is reported.** -/
theorem World.Meets.fails {fault : StartUpFault} (h : world.Meets (world.serveSources values level) fault) :
    ∃ report, StopsAt world values level report ∧ report.Fails fault.message := by
  cases h with
  | invalid hload => exact ⟨_, stopsAt_of_load hload, CommandReport.fails_failure _⟩
  | notLoaded hload hruntime hfault hanswered =>
      exact ⟨_, stopsAt_of_guest hload (guestOf_of_answeredFor hruntime hfault hanswered), CommandReport.fails_failure _⟩
  | @notSet settings guest hload hmakes hempty =>
      have hcreate : Service.create settings guest.conduct EventStore.defaultCapacity none
          = .error (.configuration .webhookNotSet) := by
        rw [Service.create, if_pos (by simpa using hempty)]
      exact ⟨_, stopsAt_of_create hload hmakes hcreate, CommandReport.fails_failure _⟩
  | @unreadable settings e hasks hparse =>
      have hopen : ((WebhookServer.new settings.address settings.logLevel).openServing world.surroundings.bind).2
          = .error (.address e) := by
        simp [WebhookServer.openServing, WebhookServer.new, hparse]
      obtain ⟨log, hstops⟩ := stopsAt_of_start hasks hopen
      exact ⟨_, hstops, (CommandReport.fails_failure _).during log⟩
  | @refused settings here reason hasks hparse hbind =>
      have hopen : ((WebhookServer.new settings.address settings.logLevel).openServing world.surroundings.bind).2
          = .error (.notBound settings.address reason) := by
        simp [WebhookServer.openServing, WebhookServer.new, hparse, hbind]
      obtain ⟨log, hstops⟩ := stopsAt_of_start hasks hopen
      exact ⟨_, hstops, (CommandReport.fails_failure _).during log⟩

/-- **A failure that slips past escapes.** -/
theorem World.SlipsPast.escapes {e : Escape} (h : world.SlipsPast (world.serveSources values level) e) :
    ∃ report, StopsAt world values level report ∧ report.Escapes e := by
  cases h with
  | relative hload hruntime hfault hrelative =>
      exact ⟨_, stopsAt_of_guest hload (guestOf_of_relative hruntime hfault hrelative), CommandReport.escapes_escape _⟩
  | factory hload hruntime hnames hmakes =>
      have hguest := guestOf_of_factory hruntime hnames hmakes
      exact ⟨_, stopsAt_of_guest hload hguest, CommandReport.escapes_escape _⟩
  | @unroutable settings guest e hload hmakes hendpoint haddress hroute =>
      have hset : (settings.endpoint.isEmpty || settings.address.isEmpty) = false := by simp [hendpoint, haddress]
      have hcreate : Service.create settings guest.conduct EventStore.defaultCapacity none = .error (.route e) := by
        simp only [Service.create, hset, Bool.false_eq_true, if_false, WebApp.create, hroute, Except.map]
      exact ⟨_, stopsAt_of_create hload hmakes hcreate, CommandReport.escapes_escape _⟩
  | @unbindable settings here defect hasks hparse hbind =>
      have hopen : ((WebhookServer.new settings.address settings.logLevel).openServing world.surroundings.bind).2
          = .error (.broken defect) := by
        simp [WebhookServer.openServing, WebhookServer.new, hparse, hbind]
      obtain ⟨log, hstops⟩ := stopsAt_of_start hasks hopen
      exact ⟨_, hstops, (CommandReport.escapes_escape _).during log⟩

/-- The runtime that the settings name is made, or the failure to do so is met, or slips past. -/
theorem World.runtime_cases (world : World) (hload : Settings.load sources = .ok settings) :
    (∃ fault, world.Meets sources fault) ∨ (∃ e, world.SlipsPast sources e) ∨ ∃ guest, world.Makes settings guest := by
  cases hruntime : settings.runtime with
  | none => exact Or.inr (Or.inr ⟨_, .within hruntime⟩)
  | some path =>
      cases hfactory : world.catalogue.loadFactory path with
      | error fault =>
          by_cases hrelative : Catalogue.IsRelative path
          · exact Or.inr (Or.inl ⟨_, .relative hload hruntime hfactory hrelative⟩)
          · exact Or.inl ⟨_, .notLoaded hload hruntime hfactory ((Catalogue.isAnsweredFor_iff hfactory).2 hrelative)⟩
      | ok origin =>
          have hnames := Catalogue.loadFactory_ok_iff.1 hfactory
          cases hmake : world.make origin with
          | error defect => exact Or.inr (Or.inl ⟨_, .factory hload hruntime hnames hmake⟩)
          | ok guest => exact Or.inr (Or.inr ⟨guest, .loaded hruntime hnames hmake⟩)

/-- A start-up whose address is bound succeeds. -/
theorem World.Asks.listens {here b : Address} (h : world.Asks (world.serveSources values level) settings)
    (hparse : Address.parse settings.address = .ok here) (hbind : world.surroundings.bind here = .bound b) :
    world.Listens (world.serveSources values level) := by
  obtain ⟨guest, s, hbegins⟩ := h.begins
  have hopen : (s.server.openServing world.surroundings.bind).2 = .ok 0 := by
    simp [hbegins.server, WebhookServer.openServing, WebhookServer.new, hparse, hbind, known_of_load h.load]
  exact ⟨settings, guest, s, hbegins, Service.cameUp_serve (Service.fresh_create hbegins.create) guest hopen⟩

/-- **These are all**: a start-up succeeds, meets a failure that is reported, or one that slips past. -/
theorem World.startUp_cases (world : World) (values : List (Text × OptionValue)) (level : LogLevel) :
    world.Listens (world.serveSources values level) ∨ (∃ fault, world.Meets (world.serveSources values level) fault) ∨
      ∃ e, world.SlipsPast (world.serveSources values level) e := by
  cases hload : Settings.load (world.serveSources values level) with
  | error e => exact Or.inr (Or.inl ⟨_, .invalid hload⟩)
  | ok settings =>
      rcases world.runtime_cases hload with hfault | hslips | ⟨guest, hmakes⟩
      · exact Or.inr (Or.inl hfault)
      · exact Or.inr (Or.inr hslips)
      by_cases hempty : settings.endpoint = [] ∨ settings.address = []
      · exact Or.inr (Or.inl ⟨_, .notSet hload hmakes hempty⟩)
      obtain ⟨hendpoint, haddress⟩ := not_or.1 hempty
      cases hroute : RoutePattern.parse settings.endpoint with
      | error e => exact Or.inr (Or.inr ⟨_, .unroutable hload hmakes hendpoint haddress hroute⟩)
      | ok pattern =>
          have hasks : world.Asks (world.serveSources values level) settings :=
            ⟨hload, ⟨guest, hmakes⟩, hendpoint, haddress, ⟨pattern, hroute⟩⟩
          cases hparse : Address.parse settings.address with
          | error e => exact Or.inr (Or.inl ⟨_, .unreadable hasks hparse⟩)
          | ok here =>
              cases hbind : world.surroundings.bind here with
              | refused reason => exact Or.inr (Or.inl ⟨_, .refused hasks hparse hbind⟩)
              | failed defect => exact Or.inr (Or.inr ⟨_, .unbindable hasks hparse hbind⟩)
              | bound b => exact Or.inl (hasks.listens hparse hbind)

/-! ## Whatever happens meanwhile -/

/-- **A service that is served, with whatever happens meanwhile**: its run has begun, and nothing else starts. -/
inductive World.Serving (world : World) (sources : Sources) : Service → Prop
  | goesOn {settings : Settings} {guest : Guest} {s : Service} {actions : List Service.Action}
      (hbegins : world.Begins sources settings guest s) (hactions : ∀ a ∈ actions, Service.Action.StartsNothing a) :
      Serving world sources
        ((if guest.isClosed then s.closeRuntime else s).performAll world.surroundings (.run :: actions))

/-- The server has come to listen, or the run waits for that, or has the fault of its start. -/
theorem World.Serving.cameUp_or_unopened {t : Service} (h : world.Serving (world.serveSources values level) t) :
    t.CameUp ∨ t.Unopened := by
  obtain ⟨hbegins, hactions⟩ := h
  rename_i settings guest s actions
  obtain ⟨hfresh, hserver, hquiet⟩ := (Service.fresh_create hbegins.create).withGuest guest
  have hunopened := Service.unopened_run hfresh (hquiet hbegins.quiet) (hserver.trans hbegins.server)
    (known_of_load hbegins.load) world.surroundings.bind
  exact Service.cameUp_or_unopened hunopened hactions

/-- **How a run ends whose server has not come to listen**: with a fault of the start, which is reported unless something has
    broken, and escapes if so. -/
theorem World.Serving.ends {t : Service} {outcome : Except ServiceFault Unit} {sides : Option Sides}
    (h : world.Serving (world.serveSources values level) t) (hnever : ¬ t.CameUp)
    (hended : t.runs.getLast? = some (.ended outcome sides)) :
    ∃ fault, t.server.starts[0]? = some (.ended (.error fault)) ∧
      ((reportRun t).Fails fault.message ↔ ∀ defect, fault ≠ .broken defect) ∧
      ∀ defect, fault = .broken defect ↔ (reportRun t).Escapes (.service (.server (.broken defect))) := by
  have hunopened := h.cameUp_or_unopened.resolve_left hnever
  rw [List.getLast?_eq_getElem?] at hended
  obtain ⟨fault, hfault, hknown, hover⟩ := hunopened.eq_overWith_of_ended hended
  rw [reportRun_of_over ((List.getLast?_eq_getElem? ..).trans hover) hunopened.quiet]
  exact ⟨fault, hfault, serverReport_ends hknown t.log⟩

/-! ## Lines -/

/-- **Where a line ends that serves** and whose start-up fails: it reports the failure exactly if nothing slips past, and what
    slips past is what escapes from it. -/
theorem startUp_ends {line : List Text} (h : world.ServesOn line values level)
    (hfails : ¬ world.Listens (world.serveSources values level)) :
    ((∃ fault, world.Meets (world.serveSources values level) fault ∧ (runLine world line).Fails fault.message) ↔
        ∀ e, ¬ world.SlipsPast (world.serveSources values level) e) ∧
      ∀ e, world.SlipsPast (world.serveSources values level) e ↔ (runLine world line).Escapes e := by
  have hmet : ∀ fault, world.Meets (world.serveSources values level) fault → (runLine world line).Fails fault.message := by
    intro fault hmeets
    obtain ⟨report, ⟨-, hcommand⟩, hreport⟩ := hmeets.fails
    rw [runLine_of_servesOn h, hcommand]
    exact hreport.atLevel level
  have hslips : ∀ e, world.SlipsPast (world.serveSources values level) e → (runLine world line).Escapes e := by
    intro e hslips
    obtain ⟨report, ⟨-, hcommand⟩, hreport⟩ := hslips.escapes
    rw [runLine_of_servesOn h, hcommand]
    exact hreport.atLevel level
  refine ⟨⟨?_, fun hnone => ?_⟩, fun e => ⟨hslips e, fun hescapes => ?_⟩⟩
  · rintro ⟨fault, -, hreported⟩ e hslip
    cases (hslips e hslip).escaped.symm.trans hreported.escaped
  · rcases world.startUp_cases values level with hlistens | ⟨fault, hmeets⟩ | ⟨e, hslip⟩
    · exact absurd hlistens hfails
    · exact ⟨fault, hmeets, hmet fault hmeets⟩
    · exact absurd hslip (hnone e)
  · rcases world.startUp_cases values level with hlistens | ⟨fault, hmeets⟩ | ⟨other, hslip⟩
    · exact absurd hlistens hfails
    · cases hescapes.escaped.symm.trans (hmet fault hmeets).escaped
    · cases hescapes.escaped.symm.trans (hslips other hslip).escaped
      exact hslip

/-- **The law of start-ups.** Every combination of the options with well-formed numbers makes a line that serves, unless the level
    of log events that is set is none, which the line reports. Where such a line comes to no listening server, it fails with the
    one message of a configuration error or of a fault of the server exactly if nothing slips past; and what slips past is what
    escapes from it. So it is when the line is run without delay. Whatever happens meanwhile, a run that ends before its server
    listens ends with the fault of the start, which is reported exactly if nothing has broken, and escapes if something has.
    A factory is loaded exactly from the paths that name one, and any other failure to load is one that is answered for, but for
    that of a relative name. -/
theorem startUp_reported_iff (world : World) :
    (∀ options, ServeOptions options →
      (∀ fault, world.level = .error fault → (runLine world (serveWords options)).Misused) ∧
      ∀ level, world.level = .ok level → ∃ values, world.ServesOn (serveWords options) values level) ∧
    (∀ line values level, world.ServesOn line values level → ¬ world.Listens (world.serveSources values level) →
      ((∃ fault, world.Meets (world.serveSources values level) fault ∧ (runLine world line).Fails fault.message) ↔
        ∀ e, ¬ world.SlipsPast (world.serveSources values level) e) ∧
      ∀ e, world.SlipsPast (world.serveSources values level) e ↔ (runLine world line).Escapes e) ∧
    (∀ values level t outcome sides, world.Serving (world.serveSources values level) t → ¬ t.CameUp →
      t.runs.getLast? = some (.ended outcome sides) →
      ∃ fault, t.server.starts[0]? = some (.ended (.error fault)) ∧
        ((reportRun t).Fails fault.message ↔ ∀ defect, fault ≠ .broken defect) ∧
        ∀ defect, fault = .broken defect ↔ (reportRun t).Escapes (.service (.server (.broken defect)))) ∧
    ∀ path,
      (∀ origin, world.catalogue.loadFactory path = .ok origin ↔ world.catalogue.NamesFactory path origin) ∧
      ∀ fault, world.catalogue.loadFactory path = .error fault → (fault.IsAnsweredFor ↔ ¬ Catalogue.IsRelative path) := by
  refine ⟨fun options hoptions => ⟨fun fault hlevel => misused_serveWords options hlevel, fun level hlevel => ?_⟩, ?_, ?_, ?_⟩
  · exact servesOn_serveWords hoptions hlevel
  · exact fun line values level hserves hfails => startUp_ends hserves hfails
  · exact fun values level t outcome sides hserving hnever hended => hserving.ends hnever hended
  · exact fun path => ⟨fun origin => Catalogue.loadFactory_ok_iff, fun fault hfault => Catalogue.isAnsweredFor_iff hfault⟩

/-! ## Start-ups with one option -/

/-- A world in which the modules of the bridge are installed, and every factory makes a runtime. -/
def installedWorld : World where
  environment := []
  file := fun _ => .missing
  surroundings := ⟨.isolated [] 40000, .http (fun _ => .silence) ⟨0, 1970⟩⟩
  catalogue := .installed
  make := fun _ => .ok .memory

/-- A line with one option that takes a text serves. -/
theorem servesOn_one {name : Text} (h : name = "--endpoint" ∨ name = "--addr" ∨ name = "--runtime") (value : Text) :
    installedWorld.ServesOn (serveWords [(name, value)]) [(name, .text value)] .info := by
  rcases h with rfl | rfl | rfl
  all_goals exact ⟨⟨_, _, _, rfl, rfl, rfl, rfl, rfl, rfl, rfl, rfl⟩⟩

theorem route_default : RoutePattern.parse Settings.default.endpoint = .ok [.literal "/webhook"] := by decide +kernel

/-- A service that is served with the defaults, and whose embedded server exits before it listens. -/
theorem serving_exitedEarly : ∃ t outcome sides,
    installedWorld.Serving (installedWorld.serveSources [] .info) t ∧ ¬ t.CameUp ∧
    t.runs.getLast? = some (.ended outcome sides) ∧ t.server.starts[0]? = some (.ended (.error .exitedEarly)) := by
  have hset : (Settings.default.endpoint.isEmpty || Settings.default.address.isEmpty) = false := by decide
  have hcreate := Service.create.eq_1 Settings.default Guest.memory.conduct EventStore.defaultCapacity none
  simp only [hset, Bool.false_eq_true, if_false, WebApp.create, route_default, Except.map] at hcreate
  have hbegins : installedWorld.Begins (installedWorld.serveSources [] .info) Settings.default .memory _ := ⟨rfl, rfl, hcreate⟩
  have hactions : ∀ a ∈ [.server (.endServing 0 (.ok ())), .server (.resumeStart 0), .resumeRun 0 true, .beginClosing,
      .resumeRun 0 true], Service.Action.StartsNothing a := by
    simp [Service.Action.StartsNothing]
  refine ⟨_, .error (.server .exitedEarly), none, .goesOn hbegins hactions, fun hcame => ?_, rfl, rfl⟩
  cases hcame

/-- An address without a port is reported, and so is an embedded server that exits before it listens. -/
theorem startUp_reported_iff_installed :
    (installedWorld.ServesOn (serveWords [("--addr", "nowhere")]) [("--addr", .text "nowhere")] .info ∧
      ¬ installedWorld.Listens (installedWorld.serveSources [("--addr", .text "nowhere")] .info) ∧
      ∃ fault, installedWorld.Meets (installedWorld.serveSources [("--addr", .text "nowhere")] .info) fault ∧
        (runLine installedWorld (serveWords [("--addr", "nowhere")])).Fails fault.message) ∧
    ∃ t outcome sides, installedWorld.Serving (installedWorld.serveSources [] .info) t ∧ ¬ t.CameUp ∧
      t.runs.getLast? = some (.ended outcome sides) ∧ (reportRun t).Fails ServerFault.exitedEarly.message := by
  have hserves := servesOn_one (Or.inr (Or.inl rfl)) "nowhere"
  have hasks : installedWorld.Asks (installedWorld.serveSources [("--addr", .text "nowhere")] .info)
      { Settings.default with address := "nowhere" } :=
    ⟨rfl, ⟨_, .within rfl⟩, by decide, by decide, ⟨_, route_default⟩⟩
  have hmeets : installedWorld.Meets _ (.server (.address (.noPort "nowhere"))) := .unreadable hasks rfl
  obtain ⟨report, ⟨hfails, hcommand⟩, hreport⟩ := hmeets.fails
  obtain ⟨hreported, hescapes⟩ := (startUp_reported_iff installedWorld).2.1 _ _ _ hserves hfails
  refine ⟨⟨hserves, hfails, hreported.2 fun e hslips => ?_⟩, ?_⟩
  · -- what is reported does not escape as well
    have hescaped := ((hescapes e).1 hslips).escaped
    rw [runLine_of_servesOn hserves, hcommand] at hescaped
    cases hescaped.symm.trans hreport.escaped
  · obtain ⟨t, outcome, sides, hserving, hnever, hended, hearly⟩ := serving_exitedEarly
    obtain ⟨fault, hfault, hreported, -⟩ :=
      (startUp_reported_iff installedWorld).2.2.1 _ _ t outcome sides hserving hnever hended
    cases hearly.symm.trans hfault
    exact ⟨t, outcome, sides, hserving, hnever, hended, hreported.2 fun defect hbroken => by cases hbroken⟩

/-- **A runtime in a module that is named relative to another, and an endpoint with an unknown kind of parameter**: the server does
    not come to listen, and neither is reported. -/
theorem startUps_slip_past :
    (∃ values, installedWorld.ServesOn (serveWords [("--runtime", ".memory:X")]) values .info ∧
      ¬ installedWorld.Listens (installedWorld.serveSources values .info) ∧
      (runLine installedWorld (serveWords [("--runtime", ".memory:X")])).Escapes (.loading (.relative ".memory"))) ∧
    ∃ values, installedWorld.ServesOn (serveWords [("--endpoint", "/a/\x7bb:nope\x7d")]) values .info ∧
      ¬ installedWorld.Listens (installedWorld.serveSources values .info) ∧
      (runLine installedWorld (serveWords [("--endpoint", "/a/\x7bb:nope\x7d")])).Escapes (.route (.unknownKind "nope")) := by
  have hslips : ∀ {line values e}, installedWorld.ServesOn line values .info →
      installedWorld.SlipsPast (installedWorld.serveSources values .info) e →
      ∃ values, installedWorld.ServesOn line values .info ∧ ¬ installedWorld.Listens (installedWorld.serveSources values .info) ∧
        (runLine installedWorld line).Escapes e := by
    intro line values e hserves hslips
    obtain ⟨-, ⟨hfails, -⟩, -⟩ := hslips.escapes
    exact ⟨values, hserves, hfails, ((startUp_ends hserves hfails).2 e).1 hslips⟩
  refine ⟨hslips (servesOn_one (Or.inr (Or.inr rfl)) _) ?_, hslips (servesOn_one (Or.inl rfl) _) ?_⟩
  · have hruntime : Settings.load (installedWorld.serveSources [("--runtime", .text ".memory:X")] .info)
        = .ok { Settings.default with runtime := some ".memory:X" } := rfl
    exact .relative hruntime rfl rfl ⟨".memory", "X", ⟨rfl, by decide, by decide, by decide⟩, rfl⟩
  · have hendpoint : Settings.load (installedWorld.serveSources [("--endpoint", .text "/a/\x7bb:nope\x7d")] .info)
        = .ok { Settings.default with endpoint := "/a/\x7bb:nope\x7d" } := rfl
    exact .unroutable hendpoint (.within rfl) (by decide) (by decide) rfl

end WebhookBridge
