import WebhookBridge.Proofs.Server.Calls
import WebhookBridge.Proofs.Server.Coherence
import WebhookBridge.Proofs.Server.Verdicts

/-!
# What a start leaves behind

A call to start that finds the server stopped ends with a server that listens on an open socket, or with a fault and a server
that stands as before: stopped, holding nothing, with no embedded server at work, and ready to be started again. The socket
that the call has opened is closed then, too, unless binding it met a defect or the embedded server does not know the log
level: these faults come up where nothing closes it.

## Contents

* `WebhookServer.Opens`: what opening a socket with an embedded server comes to;
* `WebhookServer.Underway`: the server while a call to start waits, `Underway.perform` whatever happens meanwhile;
* `WebhookServer.StartEnds`: the moment at which a call to start ends, `startEnds_or_underway` its coming;
* `WebhookServer.ListensOpen`, `WebhookServer.StandsAs`, `WebhookServer.ClosedSince`: what it may leave behind;
* `WebhookServer.Strands`, `WebhookServer.start_leaves_nothing_iff`: which starts leave a socket open.
-/

namespace WebhookBridge.WebhookServer

variable {s t u : WebhookServer} {bind : Binder} {b : Address} {result : Except ServerFault Unit} {fault : ServerFault}
  {a : Action} {during : List Action} {i n : Nat}

/-! ## Opening -/

/-- **What opening a socket with an embedded server comes to**: it serves, or the opening fails at one of four points. -/
inductive Opens (bind : Binder) (s : WebhookServer) : WebhookServer × Except ServerFault Nat → Prop
  | unreadable {e : AddressError} (hparse : Address.parse s.listenAddress = .error e) : Opens bind s (s, .error (.address e))
  | refused {here : Address} {reason : Text} (hparse : Address.parse s.listenAddress = .ok here)
    (hbind : bind here = .refused reason) : Opens bind s (s.addSocket none false, .error (.notBound s.listenAddress reason))
  | failed {here : Address} {defect : Defect} (hparse : Address.parse s.listenAddress = .ok here)
    (hbind : bind here = .failed defect) : Opens bind s (s.addSocket none true, .error (.broken defect))
  | unknownLevel {here b : Address} (hparse : Address.parse s.listenAddress = .ok here) (hbind : bind here = .bound b)
    (hlevel : s.logLevel ∉ embeddedLogLevels) : Opens bind s (s.addSocket (some b) true, .error (.unknownLogLevel s.logLevel))
  | serves {here b : Address} (hparse : Address.parse s.listenAddress = .ok here) (hbind : bind here = .bound b)
    (hlevel : s.logLevel ∈ embeddedLogLevels) :
    Opens bind s ((s.addSocket (some b) true).addServing s.sockets.length, .ok s.servings.length)

theorem opens (bind : Binder) (s : WebhookServer) : Opens bind s (s.openServing bind) := by
  unfold openServing
  cases hparse : Address.parse s.listenAddress with
  | error e => exact .unreadable hparse
  | ok here =>
      dsimp only
      cases hbind : bind here with
      | refused reason => exact .refused hparse hbind
      | failed defect => exact .failed hparse hbind
      | bound b =>
          dsimp only
          split
          · rename_i hlevel
            exact .serves hparse hbind (by simpa using hlevel)
          · rename_i hlevel
            exact .unknownLevel hparse hbind (by simpa using hlevel)

/-- Whether a start leaves open a socket that it has opened: binding it meets a defect, or it is bound and the embedded server
    does not know the log level. -/
def Strands (bind : Binder) (s : WebhookServer) : Prop :=
  ∃ here, Address.parse s.listenAddress = .ok here ∧
    ((∃ defect, bind here = .failed defect) ∨ (∃ b, bind here = .bound b) ∧ s.logLevel ∉ embeddedLogLevels)

/-- What becomes of the listen address is all that a start may strand on. -/
theorem strands_iff {here : Address} (hparse : Address.parse s.listenAddress = .ok here) :
    Strands bind s ↔ (∃ defect, bind here = .failed defect) ∨ (∃ b, bind here = .bound b) ∧ s.logLevel ∉ embeddedLogLevels := by
  constructor
  · rintro ⟨other, hother, h⟩
    rw [hparse] at hother
    cases hother
    exact h
  · exact fun h => ⟨here, hparse, h⟩

theorem not_strands_of_unreadable {e : AddressError} (hparse : Address.parse s.listenAddress = .error e) : ¬ Strands bind s := by
  rintro ⟨here, hother, -⟩
  rw [hparse] at hother
  cases hother

/-- Two servers that are to listen on the same address and to log at the same level fail alike in opening. -/
theorem openServing_alike (haddress : u.listenAddress = s.listenAddress) (hlevel : u.logLevel = s.logLevel) (bind : Binder)
    (fault : ServerFault) : (u.openServing bind).2 = .error fault ↔ (s.openServing bind).2 = .error fault := by
  simp only [openServing, haddress, hlevel]
  cases Address.parse s.listenAddress with
  | error e => exact Iff.rfl
  | ok here =>
      dsimp only
      cases bind here with
      | refused reason => exact Iff.rfl
      | failed defect => exact Iff.rfl
      | bound b =>
          dsimp only
          split
          · simp
          · exact Iff.rfl

/-! ## While a call waits -/

/-- **The server while a call to start waits**: its socket is bound and open, its embedded server serves that socket, and
    nothing else has come up since. -/
structure Underway (bind : Binder) (s : WebhookServer) (b : Address) (t : WebhookServer) : Prop where
  coherent : t.Coherent
  address : t.listenAddress = s.listenAddress
  level : t.logLevel = s.logLevel
  known : s.logLevel ∈ embeddedLogLevels
  bound : ∃ here, Address.parse s.listenAddress = .ok here ∧ bind here = .bound b
  waits : t.starts[s.starts.length]? = some (.polling s.servings.length)
  served : ∃ held, t.servings[s.servings.length]? = some held ∧ held.socket = s.sockets.length
  alone : t.servings.length = s.servings.length + 1
  sockets : t.sockets = s.sockets ++ [⟨some b, true⟩]

theorem Underway.not_strands (h : Underway bind s b t) : ¬ Strands bind s := by
  obtain ⟨here, hparse, hbind⟩ := h.bound
  rw [strands_iff hparse, hbind]
  rintro (⟨defect, hfailed⟩ | ⟨-, hlevel⟩)
  · cases hfailed
  · exact hlevel h.known

/-- Changes to what a call that waits does not need. -/
theorem Underway.of_same (h : Underway bind s b t) (hcoherent : u.Coherent) (haddress : u.listenAddress = t.listenAddress)
    (hlevel : u.logLevel = t.logLevel) (hstarts : u.starts[s.starts.length]? = t.starts[s.starts.length]?)
    (hservings : u.servings = t.servings) (hsockets : u.sockets = t.sockets) : Underway bind s b u where
  coherent := hcoherent
  address := haddress.trans h.address
  level := hlevel.trans h.level
  known := h.known
  bound := h.bound
  waits := hstarts.trans h.waits
  served := hservings ▸ h.served
  alone := hservings ▸ h.alone
  sockets := hsockets.trans h.sockets

/-- An embedded server that changes goes on serving its socket. -/
theorem Underway.modifyServings (h : Underway bind s b t) (m : Nat) {f : Serving → Serving}
    (hf : ∀ serving, (f serving).socket = serving.socket) :
    Underway bind s b { t with servings := t.servings.modify m f } where
  coherent := h.coherent.modifyServings m hf
  address := h.address
  level := h.level
  known := h.known
  bound := h.bound
  waits := h.waits
  served := by
    obtain ⟨held, hheld, hsocket⟩ := h.served
    refine ⟨if m = s.servings.length then f held else held, ?_, ?_⟩
    · show (t.servings.modify m f)[s.servings.length]? = _
      rw [List.getElem?_modify, hheld]
      rfl
    · split
      · rw [hf, hsocket]
      · exact hsocket
  alone := by
    show (t.servings.modify m f).length = _
    rw [List.length_modify, h.alone]
  sockets := h.sockets

/-- While a call to start waits no other one does. -/
theorem Coherent.eq_of_polling (h : s.Coherent) {j m : Nat} (hi : s.starts[i]? = some (.polling n))
    (hj : s.starts[j]? = some (.polling m)) : i = j := by
  by_contra hne
  have hnone := List.countP_eq_zero.1 (h.countP_starts_set hi (.ok ()))
  have hother : (s.starts.set i (.ended (.ok ())))[j]? = some (.polling m) := by rw [List.getElem?_set_ne hne, hj]
  exact hnone _ (List.mem_of_getElem? hother) rfl

/-- A server that starts lets no other call in, and nobody waits for it to end. -/
theorem Underway.perform (h : Underway bind s b t) (ha : a ≠ .resumeStart s.starts.length) :
    Underway bind s b (t.perform a) := by
  have hcoherent := coherent_perform h.coherent a
  have hstate := h.coherent.state_of_polling h.waits
  cases a with
  | start other =>
      have hcalls : t.perform (.start other) = t.addStart (.ended (.error (.notStopped t.state))) := by
        rw [perform, start, if_pos (by simp [hstate])]
      rw [hcalls] at hcoherent ⊢
      refine h.of_same hcoherent rfl rfl ?_ rfl rfl
      exact List.getElem?_append_left (List.getElem?_eq_some_iff.1 h.waits).1
  | shutdown grace =>
      have hcalls : t.perform (.shutdown grace) = t.addShutdown (.ended (.ok ())) := by
        rw [perform, shutdown, if_pos (by simp [hstate])]
      rw [hcalls] at hcoherent ⊢
      exact h.of_same hcoherent rfl rfl rfl rfl rfl
  | wait =>
      have hcalls : t.perform .wait = t.addWait (.ended (.ok ())) := by
        rw [perform, wait, (h.coherent.clear (Or.inr hstate)).2.1]
      rw [hcalls] at hcoherent ⊢
      exact h.of_same hcoherent rfl rfl rfl rfl rfl
  | resumeStart j =>
      have hstays : t.resumeStart j = t := by
        unfold resumeStart
        split
        · rename_i m hpolling
          exact absurd (congrArg Action.resumeStart (h.coherent.eq_of_polling hpolling h.waits)) ha
        · rfl
      rw [perform, hstays]
      exact h
  | resumeShutdown j =>
      have hstays : t.resumeShutdown j = t := by
        unfold resumeShutdown
        split
        · rename_i m socket hwaiting
          have hstopping := h.coherent.state_of_waiting (List.mem_of_getElem? hwaiting)
          rw [hstate] at hstopping
          cases hstopping
        · rfl
      rw [perform, hstays]
      exact h
  | resumeWait j =>
      rw [perform] at hcoherent ⊢
      unfold resumeWait at hcoherent ⊢
      split
      · split
        · exact h
        · exact h.of_same (h.coherent.withWaits _) rfl rfl rfl rfl rfl
      · exact h
  | beginServing m =>
      refine h.modifyServings m fun serving => ?_
      split
      · rfl
      · rfl
  | endServing m ending =>
      refine h.modifyServings m fun serving => ?_
      split
      · rfl
      · rfl

/-! ## What may be left behind -/

/-- The server listens on an open socket, which is bound to what the binder has made of the listen address. -/
def ListensOpen (bind : Binder) (s u : WebhookServer) : Prop :=
  u.state = .listening ∧ ∃ here b n held, Address.parse s.listenAddress = .ok here ∧ bind here = .bound b ∧
    u.Holds n held ∧ u.sockets[held.socket]? = some ⟨some b, true⟩ ∧ u.address = b.format

/-- **The server stands as before**: it is stopped, holds nothing, and is to listen and to log as it was; no embedded server that
    has come up since is at work, the sockets from before are as they were, and it can be started as before. -/
structure StandsAs (s u : WebhookServer) : Prop where
  state : u.state = .stopped
  clear : u.Clear
  named : u.listenAddress = s.listenAddress ∧ u.logLevel = s.logLevel
  atRest : ∀ n serving, s.servings.length ≤ n → u.servings[n]? = some serving → serving.isOver = true
  others : u.sockets.take s.sockets.length = s.sockets
  letsIn : ∀ bind, u.start bind = u.enterStart.openStart bind
  alike : ∀ bind fault, (u.openServing bind).2 = .error fault ↔ (s.openServing bind).2 = .error fault

/-- The sockets that were opened since are closed. -/
def ClosedSince (s u : WebhookServer) : Prop :=
  ∀ k socket, s.sockets.length ≤ k → u.sockets[k]? = some socket → socket.isOpen = false

/-- One socket more is closed or open. -/
theorem closedSince_iff {socket : Socket} (h : u.sockets = s.sockets ++ [socket]) :
    ClosedSince s u ↔ socket.isOpen = false := by
  constructor
  · intro hclosed
    exact hclosed s.sockets.length socket (Nat.le_refl _) (by rw [h, List.getElem?_concat_length])
  · intro hclosed k other hk hother
    rw [h, List.getElem?_append_right hk] at hother
    have hmem := List.mem_of_getElem? hother
    rw [List.mem_singleton.1 hmem]
    exact hclosed

/-- A call that has failed at once has left the server as it was, but for a socket. -/
theorem Coherent.standsAs_addStart (h : s.Coherent) (hstopped : s.state = .stopped) (sockets : List Socket)
    (hsockets : sockets.take s.sockets.length = s.sockets) (result : Except ServerFault Unit) :
    s.StandsAs ({ s with sockets := sockets }.addStart (.ended result)) where
  state := hstopped
  clear := h.clear (Or.inl hstopped)
  named := ⟨rfl, rfl⟩
  atRest m serving hm hserving := by
    have hlt := (List.getElem?_eq_some_iff.1 hserving).1
    exact absurd hlt (Nat.not_lt.2 hm)
  others := hsockets
  letsIn other := start_eq (s := { s with sockets := sockets }.addStart (.ended result)) hstopped other
  alike := openServing_alike rfl rfl

/-- The socket that a failed call has opened is closed. -/
theorem Underway.sockets_failStart (h : Underway bind s b t) (fault : ServerFault) :
    (t.failStart s.starts.length s.sockets.length fault).sockets = s.sockets ++ [⟨some b, false⟩] := by
  show t.sockets.modify s.sockets.length _ = _
  rw [h.sockets]
  apply List.ext_getElem?
  intro k
  rw [List.getElem?_modify]
  rcases Nat.lt_trichotomy k s.sockets.length with hlt | rfl | hgt
  · simp [List.getElem?_append_left hlt, Nat.ne_of_gt hlt]
  · simp
  · rw [List.getElem?_eq_none (by simpa using Nat.succ_le_of_lt hgt), List.getElem?_eq_none (by simpa using Nat.succ_le_of_lt hgt)]
    rfl

/-- **A call that waited and fails** leaves the server as it was. -/
theorem Underway.standsAs_failStart (h : Underway bind s b t) {held : Serving}
    (hheld : t.servings[s.servings.length]? = some held) (hover : held.isOver = true) (fault : ServerFault) :
    s.StandsAs (t.failStart s.starts.length s.sockets.length fault) where
  state := rfl
  clear := h.coherent.clear (Or.inr (h.coherent.state_of_polling h.waits))
  named := ⟨h.address, h.level⟩
  atRest m serving hm hserving := by
    have hserving' : t.servings[m]? = some serving := hserving
    have hlt := (List.getElem?_eq_some_iff.1 hserving').1
    have hlast : m = s.servings.length := by
      have halone := h.alone
      omega
    rw [hlast, hheld] at hserving'
    rw [← Option.some.inj hserving']
    exact hover
  others := by
    rw [h.sockets_failStart fault]
    exact List.take_left
  letsIn other := start_eq rfl other
  alike := openServing_alike h.address h.level

/-- **A call that waited and succeeds** leaves a server that listens on the socket of the call. -/
theorem Underway.listensOpen_completeStart (h : Underway bind s b t) {held : Serving}
    (hheld : t.servings[s.servings.length]? = some held) (hsocket : held.socket = s.sockets.length) :
    ListensOpen bind s (t.completeStart s.starts.length s.servings.length held.socket) := by
  obtain ⟨here, hparse, hbind⟩ := h.bound
  have hopen : t.sockets[held.socket]? = some ⟨some b, true⟩ := by
    rw [hsocket, h.sockets, List.getElem?_concat_length]
  have haddress : (t.completeStart s.starts.length s.servings.length held.socket).address = b.format := by
    simp [completeStart, hold, report, hopen]
  refine ⟨rfl, here, b, s.servings.length, held, hparse, hbind, ⟨hheld, rfl, rfl, rfl, ?_⟩, hopen, haddress⟩
  rw [haddress]
  exact b.format_ne_nil

/-! ## The end of a call -/

/-- **The moment at which a call to start ends**: at once, or by an action before which it has waited. -/
inductive StartEnds (bind : Binder) (s : WebhookServer) : List Action → Except ServerFault Unit → Prop
  | atOnce {result : Except ServerFault Unit}
    (hended : (s.start bind).starts[s.starts.length]? = some (.ended result)) : StartEnds bind s [] result
  | later {during : List Action} {a : Action} {n : Nat} {result : Except ServerFault Unit}
    (hwaits : ((s.start bind).run during).starts[s.starts.length]? = some (.polling n))
    (hended : ((s.start bind).run (during ++ [a])).starts[s.starts.length]? = some (.ended result)) :
    StartEnds bind s (during ++ [a]) result

/-- What a call that is let in comes to at once: it ends with a fault, or waits. -/
theorem start_cases (h : s.Coherent) (hstopped : s.state = .stopped) (bind : Binder) :
    (∃ fault, (s.start bind).starts[s.starts.length]? = some (.ended (.error fault)) ∧ s.StandsAs (s.start bind) ∧
      (ClosedSince s (s.start bind) ↔ ¬ Strands bind s)) ∨
    ∃ b, Underway bind s b (s.start bind) := by
  have hcoherent := h.start bind
  have hlast : ∀ call : StartCall, (s.starts ++ [call])[s.starts.length]? = some call := fun call =>
    List.getElem?_concat_length
  have hopens := opens bind s
  unfold start at hcoherent ⊢
  rw [if_neg (by simp [hstopped])] at hcoherent ⊢
  generalize s.openServing bind = opened at hopens hcoherent ⊢
  cases hopens with
  | unreadable hparse =>
      refine Or.inl ⟨_, hlast _, h.standsAs_addStart hstopped s.sockets (List.take_length ..) _, ?_⟩
      refine iff_of_true ?_ (not_strands_of_unreadable hparse)
      intro k socket hk hsocket
      exact absurd (List.getElem?_eq_some_iff.1 hsocket).1 (Nat.not_lt.2 hk)
  | refused hparse hbind =>
      refine Or.inl ⟨_, hlast _, h.standsAs_addStart hstopped _ List.take_left _, ?_⟩
      rw [strands_iff hparse, hbind, closedSince_iff rfl]
      simp
  | failed hparse hbind =>
      refine Or.inl ⟨_, hlast _, h.standsAs_addStart hstopped _ List.take_left _, ?_⟩
      rw [strands_iff hparse, hbind, closedSince_iff rfl]
      simp
  | unknownLevel hparse hbind hlevel =>
      refine Or.inl ⟨_, hlast _, h.standsAs_addStart hstopped _ List.take_left _, ?_⟩
      rw [strands_iff hparse, hbind, closedSince_iff rfl]
      simp [hlevel]
  | @serves here b hparse hbind hlevel =>
      refine Or.inr ⟨b, hcoherent, rfl, rfl, hlevel, ⟨here, hparse, hbind⟩, hlast _, ?_, List.length_append, rfl⟩
      exact ⟨_, List.getElem?_concat_length, rfl⟩

/-- **What going on comes to** for a call that waits: it waits on, where its embedded server neither accepts connections nor has
    ended; or it succeeds; or it fails. -/
inductive Resumes (bind : Binder) (s t : WebhookServer) : WebhookServer → Prop
  | waits {held : Serving} (hheld : t.servings[s.servings.length]? = some held) (hstarted : held.isStarted = false)
    (hlive : held.isOver = false) : Resumes bind s t t
  | listens {u : WebhookServer} (hended : u.starts[s.starts.length]? = some (.ended (.ok ()))) (hopen : ListensOpen bind s u) :
    Resumes bind s t u
  | fails {u : WebhookServer} {fault : ServerFault} (hended : u.starts[s.starts.length]? = some (.ended (.error fault)))
    (hstands : s.StandsAs u) (hclosed : ClosedSince s u) : Resumes bind s t u

theorem Underway.resumes (h : Underway bind s b t) : Resumes bind s t (t.resumeStart s.starts.length) := by
  obtain ⟨held, hheld, hsocket⟩ := h.served
  have hlt : s.starts.length < t.starts.length := (List.getElem?_eq_some_iff.1 h.waits).1
  have hset : ∀ result, (t.starts.set s.starts.length (.ended result))[s.starts.length]? = some (.ended result) := fun result =>
    List.getElem?_set_self hlt
  have hfails : held.isOver = true → ∀ fault, Resumes bind s t (t.failStart s.starts.length held.socket fault) := by
    intro hover fault
    rw [hsocket]
    refine .fails (hset _) (h.standsAs_failStart hheld hover fault) ?_
    rw [closedSince_iff (h.sockets_failStart fault)]
  unfold resumeStart
  rw [h.waits]
  dsimp only
  rw [hheld]
  dsimp only
  cases hstarted : held.isStarted with
  | true => exact .listens (hset _) (h.listensOpen_completeStart hheld hsocket)
  | false =>
      cases hending : held.ending with
      | none => exact .waits hheld hstarted (by simp [Serving.isOver, hending])
      | some ending =>
          have hover : held.isOver = true := by simp [Serving.isOver, hending]
          cases ending with
          | ok _ => exact hfails hover _
          | error defect => exact hfails hover _

/-- **At every moment** the call has ended, or waits. -/
theorem startEnds_or_underway (h : s.Coherent) (hstopped : s.state = .stopped) (bind : Binder) (during : List Action) :
    (∃ first second result, during = first ++ second ∧ StartEnds bind s first result ∧
      ((s.start bind).run during).starts[s.starts.length]? = some (.ended result)) ∨
    ∃ b, Underway bind s b ((s.start bind).run during) := by
  -- from the end: a call that has ended stays so, and one that waits goes on waiting or ends by what happens next
  induction during using List.reverseRecOn with
  | nil =>
      rcases start_cases h hstopped bind with ⟨fault, hended, -⟩ | hunderway
      · exact Or.inl ⟨[], [], _, rfl, .atOnce hended, hended⟩
      · exact Or.inr hunderway
  | append_singleton during a ih =>
      have hrun : (s.start bind).run (during ++ [a]) = ((s.start bind).run during).perform a := run_append ..
      rw [hrun]
      rcases ih with ⟨first, second, result, rfl, hends, hended⟩ | ⟨b, hunderway⟩
      · exact Or.inl ⟨first, second ++ [a], result, List.append_assoc .., hends, start_stays_ended hended a⟩
      · have hcomes : ∀ result, (((s.start bind).run during).perform a).starts[s.starts.length]? = some (.ended result) →
            ∃ first second result, during ++ [a] = first ++ second ∧ StartEnds bind s first result ∧
              (((s.start bind).run during).perform a).starts[s.starts.length]? = some (.ended result) := fun result hended =>
          ⟨during ++ [a], [], result, (List.append_nil _).symm, .later hunderway.waits (hrun ▸ hended), hended⟩
        by_cases ha : a = .resumeStart s.starts.length
        · subst ha
          have hresumes : Resumes bind s _ (((s.start bind).run during).perform (.resumeStart s.starts.length)) :=
            hunderway.resumes
          generalize ((s.start bind).run during).perform (.resumeStart s.starts.length) = u at hresumes hcomes ⊢
          cases hresumes with
          | waits hheld hstarted hlive => exact Or.inr ⟨b, hunderway⟩
          | listens hended hopen => exact Or.inl (hcomes _ hended)
          | fails hended hstands hclosed => exact Or.inl (hcomes _ hended)
        · exact Or.inr ⟨b, hunderway.perform ha⟩

/-- What the end of a call leaves behind. -/
theorem StartEnds.leaves (h : s.Coherent) (hstopped : s.state = .stopped) (hends : StartEnds bind s during result) :
    (result = .ok () ∧ ListensOpen bind s ((s.start bind).run during)) ∨
    (∃ fault, result = .error fault) ∧ s.StandsAs ((s.start bind).run during) ∧
      (ClosedSince s ((s.start bind).run during) ↔ ¬ Strands bind s) := by
  cases hends with
  | atOnce hended =>
      rcases start_cases h hstopped bind with ⟨fault, hfailed, hstands, hclosed⟩ | ⟨b, hunderway⟩
      · rw [hended] at hfailed
        cases hfailed
        exact Or.inr ⟨⟨fault, rfl⟩, hstands, hclosed⟩
      · rw [hunderway.waits] at hended
        cases hended
  | @later during a n result hwaits hended =>
      have hrun : (s.start bind).run (during ++ [a]) = ((s.start bind).run during).perform a := run_append ..
      rw [hrun] at hended ⊢
      rcases startEnds_or_underway h hstopped bind during with ⟨-, -, _, -, -, hover⟩ | ⟨b, hunderway⟩
      · rw [hwaits] at hover
        cases hover
      -- only going on ends a call that waits
      · by_cases ha : a = .resumeStart s.starts.length
        · subst ha
          have hresumes : Resumes bind s _ (((s.start bind).run during).perform (.resumeStart s.starts.length)) :=
            hunderway.resumes
          generalize ((s.start bind).run during).perform (.resumeStart s.starts.length) = u at hresumes hended ⊢
          cases hresumes with
          | waits hheld hstarted hlive =>
              rw [hwaits] at hended
              cases hended
          | listens hlistens hopen =>
              rw [hlistens] at hended
              cases hended
              exact Or.inl ⟨rfl, hopen⟩
          | fails hfails hstands hclosed =>
              rw [hfails] at hended
              cases hended
              exact Or.inr ⟨⟨_, rfl⟩, hstands, iff_of_true hclosed hunderway.not_strands⟩
        · rw [(hunderway.perform ha).waits] at hended
          cases hended

/-- **The law of starts.** A call to start that finds the server stopped, whatever has happened to it before and whatever happens
    meanwhile: when it ends, the server listens on an open socket, or the call has failed and the server stands as before. The
    sockets that the call has opened are closed then, too, exactly if it does not strand. And the call does end, at once or as
    soon as it goes on after its embedded server has begun to accept connections or has ended. -/
theorem start_leaves_nothing_iff (listenAddress logLevel : Text) (earlier : List Action) (bind : Binder)
    (hstopped : ((new listenAddress logLevel).run earlier).state = .stopped) :
    let s := (new listenAddress logLevel).run earlier
    (∀ during result, StartEnds bind s during result →
      (result = .ok () ∧ ListensOpen bind s ((s.start bind).run during)) ∨
      (∃ fault, result = .error fault) ∧ s.StandsAs ((s.start bind).run during) ∧
        (ClosedSince s ((s.start bind).run during) ↔ ¬ Strands bind s)) ∧
    ∀ during,
      (∃ first second result, during = first ++ second ∧ StartEnds bind s first result) ∨
      ∃ held, ((s.start bind).run during).servings[s.servings.length]? = some held ∧
        (held.isStarted = true ∨ held.isOver = true →
          ∃ result, StartEnds bind s (during ++ [.resumeStart s.starts.length]) result) := by
  intro s
  have h : s.Coherent := coherent_run (coherent_new listenAddress logLevel) earlier
  refine ⟨fun during result hends => hends.leaves h hstopped, fun during => ?_⟩
  rcases startEnds_or_underway h hstopped bind during with ⟨first, second, result, heq, hends, -⟩ | ⟨b, hunderway⟩
  · exact Or.inl ⟨first, second, result, heq, hends⟩
  · obtain ⟨held, hheld, -⟩ := hunderway.served
    refine Or.inr ⟨held, hheld, fun hready => ?_⟩
    have hrun : (s.start bind).run (during ++ [.resumeStart s.starts.length])
        = ((s.start bind).run during).resumeStart s.starts.length := run_append ..
    have hresumes := hunderway.resumes
    rw [← hrun] at hresumes
    generalize hu : (s.start bind).run (during ++ [.resumeStart s.starts.length]) = u at hresumes
    cases hresumes with
    | waits hother hstarted hlive =>
        rw [hheld] at hother
        cases hother
        rw [hstarted, hlive] at hready
        simp at hready
    | listens hended hopen => exact ⟨_, .later hunderway.waits (hu ▸ hended)⟩
    | fails hended hstands hclosed => exact ⟨_, .later hunderway.waits (hu ▸ hended)⟩

/-- A server that has come to listen and was stopped, -/
def cameAndWent : List Action :=
  comesUp ++ [.shutdown (.zero false), .endServing 0 (.ok ()), .resumeShutdown 0]

/-- and whose next embedded server ends before it accepts connections. -/
def exitsEarly : List Action := [.endServing 1 (.ok ()), .resumeStart 1]

theorem start_leaves_nothing_iff_exits :
    (anyPort.run cameAndWent).state = .stopped ∧
      StartEnds .bound (anyPort.run cameAndWent) exitsEarly (.error .exitedEarly) ∧
      (anyPort.run cameAndWent).StandsAs (((anyPort.run cameAndWent).start .bound).run exitsEarly) ∧
      ClosedSince (anyPort.run cameAndWent) (((anyPort.run cameAndWent).start .bound).run exitsEarly) := by
  have hends : StartEnds .bound (anyPort.run cameAndWent) ([.endServing 1 (.ok ())] ++ [.resumeStart 1]) (.error .exitedEarly) :=
    .later (n := 1) rfl rfl
  have hparse : Address.parse (anyPort.run cameAndWent).listenAddress = .ok ⟨"0.0.0.0", 0⟩ := rfl
  have hkept : ¬ Strands .bound (anyPort.run cameAndWent) := by
    rw [strands_iff hparse]
    rintro (⟨defect, h⟩ | ⟨-, h⟩)
    · cases h
    · exact h (by decide)
  rcases (start_leaves_nothing_iff ":0" "warning" cameAndWent .bound rfl).1 _ _ hends with ⟨h, -⟩ | ⟨-, hstands, hclosed⟩
  · cases h
  · exact ⟨rfl, hends, hstands, hclosed.2 hkept⟩

/-- A server that is to log at a level that the embedded one does not know. -/
def loudServer : WebhookServer := new ":0" "loud"

/-- Its start fails when the socket is bound, and the socket stays open. -/
theorem unknownLevel_leaves_open :
    loudServer.state = .stopped ∧ StartEnds .bound loudServer [] (.error (.unknownLogLevel "loud")) ∧
      (loudServer.start .bound).sockets = [⟨some ⟨"0.0.0.0", 0⟩, true⟩] ∧
      ¬ ClosedSince loudServer (loudServer.start .bound) := by
  have hsockets : (loudServer.start .bound).sockets = [⟨some ⟨"0.0.0.0", 0⟩, true⟩] := rfl
  refine ⟨rfl, .atOnce rfl, hsockets, fun hclosed => ?_⟩
  have hshut := hclosed 0 ⟨some ⟨"0.0.0.0", 0⟩, true⟩ (Nat.le_refl 0) (by rw [hsockets]; rfl)
  cases hshut

end WebhookBridge.WebhookServer
