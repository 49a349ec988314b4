import Mathlib.Data.List.Infix
import WebhookBridge.Proofs.TaskRuntime.Lasting
import WebhookBridge.TaskRuntime.Runs

/-!
# From emission to delivery

The events that are kept and those that are unread are two bounded lists, which are written together and drained apart.
Both end with the event that was emitted last, so that a place counted from the end is a place among all events that were
ever emitted. An event is unread from its emission on, until a reader takes it or as many later events have been emitted
as the runtime keeps.

Reading is one move, made when the event is taken. A reader who finds nothing until their time is over has changed
nothing, and neither has one who does not wait at all.

## Contents

* `TaskRuntime.emits?`, `TaskRuntime.delivers?`, `TaskRuntime.eventsMoved`: what a move is to the events;
* `EventHistory`, `TaskRuntime.history`: what was emitted and delivered in a run;
* `TaskRuntime.Aligned`, `TaskRuntime.Continues`: how events and history fit together, and how they go on;
* `TaskRuntime.DroppedUnread`, `TaskRuntime.events_lawful`: the law of events.
-/

namespace WebhookBridge

open EventStore (latest)

/-! ## Lists -/

namespace EventStore

variable {α : Type} {n : Nat}

theorem length_latest (n : Nat) (l : List α) : (latest n l).length = min n l.length := by
  rw [latest, List.length_drop]
  omega

/-- Only the latest elements before matter to the latest after one more. -/
theorem latest_concat_latest (n : Nat) (l : List α) (a : α) : latest n (latest n l ++ [a]) = latest n (l ++ [a]) := by
  simp only [latest, List.length_append, List.length_drop, List.length_singleton]
  by_cases hn : n = 0
  · subst hn
    simp
  · rw [List.drop_append_of_le_length (by simp; omega), List.drop_append_of_le_length (by omega), List.drop_drop]
    congr 2
    omega

/-- A suffix that is short enough is one of the latest elements. -/
theorem isSuffix_latest {l₁ l₂ : List α} (h : l₁ <:+ l₂) (hlength : l₁.length ≤ n) : l₁ <:+ latest n l₂ := by
  have hle := h.length_le
  refine List.suffix_of_suffix_length_le h (latest_isSuffix n l₂) ?_
  rw [length_latest]
  omega

end EventStore

/-- The first element of a suffix, by its place in the whole list. -/
theorem getElem?_of_cons_isSuffix {α : Type} {a : α} {rest l : List α} (h : a :: rest <:+ l) :
    l[l.length - (rest.length + 1)]? = some a := by
  obtain ⟨front, rfl⟩ := h
  simp

namespace TaskRuntime

variable {σ : Type} {relay : Relay σ} {r r' : TaskRuntime σ}

/-! ## Moves -/

/-- The event that is emitted by a move, if there is one: an emission may be refused. -/
def emits? (r : TaskRuntime σ) : Move → Option Event
  | .act (.emit name dumped) => match r.emit name dumped, dumped with
    | .ok _, .ok data => some ⟨name, data⟩
    | _, _ => none
  | _ => none

/-- The event that is delivered by a move, if there is one. -/
def delivers? (r : TaskRuntime σ) : Move → Option Event
  | .act .nextEvent => r.nextEvent?.map (·.1)
  | _ => none

/-- An emission is refused exactly on a closed runtime or with data that cannot be dumped. -/
theorem emit_error_iff {name : Text} {dumped : Except Json.DumpFault Json} :
    (∃ fault, r.emit name dumped = .error fault) ↔ r.closed = true ∨ ∃ fault, dumped = .error fault := by
  unfold emit
  cases r.closed with
  | true => simp
  | false =>
      cases dumped with
      | error fault => simp
      | ok data => simp

/-- An emission that is refused changes nothing. -/
theorem move_of_refused {name : Text} {dumped : Except Json.DumpFault Json} {fault : RuntimeFault}
    (h : r.emit name dumped = .error fault) : r.move relay (.act (.emit name dumped)) = r := by
  show r.orSame (r.emit name dumped) = r
  rw [h]
  rfl

theorem nextEvent?_nil (h : r.events.unread = []) : r.nextEvent? = none := by
  rw [nextEvent?, EventStore.next?, h]
  rfl

theorem nextEvent?_cons {e : Event} {rest : List Event} (h : r.events.unread = e :: rest) :
    r.nextEvent? = some (e, { r with events := { r.events with unread := rest } }) := by
  rw [nextEvent?, EventStore.next?, h]
  rfl

/-- **What a move is to the events**: one is emitted, the first unread one is delivered, or nothing happens to them. -/
inductive EventsMoved (r : TaskRuntime σ) (m : Move) (r' : TaskRuntime σ) : Prop
  | emitted (e : Event) (hemits : r.emits? m = some e) (hdelivers : r.delivers? m = none)
      (hevents : r'.events = r.events.add e)
  | delivered (e : Event) (rest : List Event) (hunread : r.events.unread = e :: rest) (hemits : r.emits? m = none)
      (hdelivers : r.delivers? m = some e) (hevents : r'.events = { r.events with unread := rest })
  | same (hemits : r.emits? m = none) (hdelivers : r.delivers? m = none) (hevents : r'.events = r.events)

/-- What happens to tasks, listeners and jobs is nothing to the events. -/
theorem EventsMoved.of_lasts {m : Move} (hemits : r.emits? m = none) (hdelivers : r.delivers? m = none)
    (h : Lasts (fun _ => True) r r') : EventsMoved r m r' := .same hemits hdelivers h.events

theorem eventsMoved_emit (relay : Relay σ) (r : TaskRuntime σ) (name : Text) (dumped : Except Json.DumpFault Json) :
    EventsMoved r (.act (.emit name dumped)) (r.move relay (.act (.emit name dumped))) := by
  cases hemit : r.emit name dumped with
  | error fault =>
      refine .same ?_ rfl (by rw [move_of_refused hemit])
      simp [emits?, hemit]
  | ok r' =>
      have haccepted : ¬ (r.closed = true ∨ ∃ fault, dumped = .error fault) := by
        intro hrefused
        obtain ⟨fault, hfault⟩ := emit_error_iff.2 hrefused
        rw [hemit] at hfault
        cases hfault
      cases dumped with
      | error fault => exact absurd (Or.inr ⟨fault, rfl⟩) haccepted
      | ok data =>
          have hopen : r.closed = false := by simpa using haccepted
          refine .emitted ⟨name, data⟩ ?_ rfl ?_
          · simp [emits?, hemit]
          · show (r.orSame (r.emit name (.ok data))).events = _
            simp [emit, hopen, orSame, report]

theorem eventsMoved_nextEvent (relay : Relay σ) (r : TaskRuntime σ) :
    EventsMoved r (.act .nextEvent) (r.move relay (.act .nextEvent)) := by
  cases hunread : r.events.unread with
  | nil =>
      have hnone := nextEvent?_nil hunread
      refine .same rfl ?_ ?_
      · simp [delivers?, hnone]
      · show ((r.nextEvent?.map (·.2)).getD r).events = r.events
        rw [hnone]
        rfl
  | cons e rest =>
      have hsome := nextEvent?_cons hunread
      refine .delivered e rest hunread rfl ?_ ?_
      · simp [delivers?, hsome]
      · show ((r.nextEvent?.map (·.2)).getD r).events = _
        rw [hsome]
        rfl

/-- **Every move** is one of these to the events. -/
theorem eventsMoved (relay : Relay σ) (r : TaskRuntime σ) (m : Move) : EventsMoved r m (r.move relay m) := by
  have hrelay : ∀ (s : σ) (request : RelayRequest), True → True := fun _ _ h => h
  cases m with
  | listen handlers => exact .of_lasts rfl rfl (lasts_listen r handlers)
  | act a =>
      cases a with
      | emit name dumped => exact eventsMoved_emit relay r name dumped
      | nextEvent => exact eventsMoved_nextEvent relay r
      | submit info =>
          refine .of_lasts rfl rfl ?_
          show Lasts _ r (r.orSame (r.submit info))
          cases hsubmit : r.submit info with
          | ok r' => exact lasts_submit hsubmit
          | error fault => exact .refl r
      | submitOctets key executionId input =>
          refine .of_lasts rfl rfl ?_
          show Lasts _ r (r.orSame (r.submitOctets key executionId input))
          unfold submitOctets
          split
          · exact .refl r
          · split
            · exact .refl r
            · rename_i t _
              cases hsubmit : r.submit ⟨key, executionId, t⟩ with
              | ok r' => exact lasts_submit hsubmit
              | error fault => exact .refl r
      | close => exact .of_lasts rfl rfl (lasts_close r)
      | listen others => exact .of_lasts rfl rfl (lasts_listen r _)
      | turn position => exact .of_lasts rfl rfl (lasts_take? hrelay r position)
      | release => exact .of_lasts rfl rfl (lasts_release r)
      | endCall n i => exact .of_lasts rfl rfl (lasts_endCall r n i)
      | endCalls n => exact .of_lasts rfl rfl (lasts_expireJob r n)
      | expire => exact .of_lasts rfl rfl (lasts_expire r)

end TaskRuntime

/-! ## Histories -/

/-- What became of events: those that were emitted, in order, and those that were delivered, in order, each with its place
    among the emitted ones. -/
structure EventHistory where
  emitted : List Event
  delivered : List (Nat × Event)

/-- Nothing has become of any event. -/
def EventHistory.empty : EventHistory := ⟨[], []⟩

/-- The places of the events that were delivered. -/
def EventHistory.places (h : EventHistory) : List Nat := h.delivered.map (·.1)

namespace TaskRuntime

variable {σ : Type} {relay : Relay σ} {r r' : TaskRuntime σ} {h h' : EventHistory} {capacity : Nat}

/-- The place of the first unread event: the unread events were emitted last. -/
def firstUnread (r : TaskRuntime σ) (h : EventHistory) : Nat := h.emitted.length - r.events.unread.length

/-- The history after a move. -/
def historyAfter (r : TaskRuntime σ) (h : EventHistory) (m : Move) : EventHistory where
  emitted := h.emitted ++ (r.emits? m).toList
  delivered := h.delivered ++ ((r.delivers? m).map fun e => (r.firstUnread h, e)).toList

/-- The history after several moves. -/
def history (relay : Relay σ) : List Move → TaskRuntime σ → EventHistory → EventHistory
  | [], _, h => h
  | m :: ms, r, h => history relay ms (r.move relay m) (r.historyAfter h m)

theorem history_append (before after : List Move) : ∀ (r : TaskRuntime σ) (h : EventHistory),
    history relay (before ++ after) r h = history relay after (r.moves relay before) (history relay before r h) := by
  induction before with
  | nil => exact fun _ _ => rfl
  | cons m before ih => exact fun r h => ih (r.move relay m) (r.historyAfter h m)

theorem moves_append (before after : List Move) (r : TaskRuntime σ) :
    r.moves relay (before ++ after) = (r.moves relay before).moves relay after := List.foldl_append

/-- The first move happens to the runtime as it is, the others to what comes of it. -/
theorem history_cons (m : Move) (ms : List Move) (r : TaskRuntime σ) (h : EventHistory) :
    history relay (m :: ms) r h = history relay ms (r.move relay m) (r.historyAfter h m) := rfl

theorem historyAfter_emitted {m : Move} {e : Event} (hemits : r.emits? m = some e) (hdelivers : r.delivers? m = none) :
    r.historyAfter h m = ⟨h.emitted ++ [e], h.delivered⟩ := by simp [historyAfter, hemits, hdelivers]

theorem historyAfter_delivered {m : Move} {e : Event} (hemits : r.emits? m = none) (hdelivers : r.delivers? m = some e) :
    r.historyAfter h m = ⟨h.emitted, h.delivered ++ [(r.firstUnread h, e)]⟩ := by
  simp [historyAfter, hemits, hdelivers]

theorem historyAfter_same {m : Move} (hemits : r.emits? m = none) (hdelivers : r.delivers? m = none) :
    r.historyAfter h m = h := by simp [historyAfter, hemits, hdelivers]

/-! ## Events and their history -/

/-- **How events and history fit together**: the events that are kept and those that are unread are the ones that were
    emitted last, those delivered came before the unread ones and in order, and what is neither delivered nor unread has
    been followed by as many events as are kept. -/
structure Aligned (capacity : Nat) (r : TaskRuntime σ) (h : EventHistory) : Prop where
  store : r.events.capacity = capacity
  kept : r.events.kept = latest capacity h.emitted
  unread : r.events.unread <:+ h.emitted
  bounded : r.events.unread.length ≤ capacity
  placed : ∀ i e, (i, e) ∈ h.delivered → i < r.firstUnread h ∧ h.emitted[i]? = some e
  ordered : h.places.Pairwise (· < ·)
  among : (h.delivered.map (·.2)).Sublist (h.emitted.take (r.firstUnread h))
  accounted : ∀ i < r.firstUnread h, i ∈ h.places ∨ i + capacity < h.emitted.length

theorem aligned_new (capacity : Nat) (s : σ) : Aligned capacity (new capacity s) .empty where
  store := rfl
  kept := by simp [new, EventStore.empty, EventHistory.empty, latest]
  unread := List.suffix_refl []
  bounded := Nat.zero_le capacity
  placed _ _ hmem := by cases hmem
  ordered := List.Pairwise.nil
  among := List.Sublist.slnil
  accounted _ hi := absurd hi (Nat.not_lt_zero _)

/-- **When an event is emitted** the first unread one stays the same, or is dropped because there is no room for one
    more. -/
theorem Aligned.firstUnread_emit (ha : Aligned capacity r h) {e : Event} (hevents : r'.events = r.events.add e) :
    r'.firstUnread ⟨h.emitted ++ [e], h.delivered⟩ = r.firstUnread h ∨
      r'.firstUnread ⟨h.emitted ++ [e], h.delivered⟩ = r.firstUnread h + 1 ∧ r.events.unread.length = capacity := by
  have hlength : r'.events.unread.length = min capacity (r.events.unread.length + 1) := by
    rw [hevents, EventStore.add, ha.store, EventStore.length_latest, List.length_append, List.length_singleton]
  have hle := ha.unread.length_le
  have hbounded := ha.bounded
  simp only [firstUnread, hlength, List.length_append, List.length_singleton]
  omega

/-- One more event is emitted. -/
theorem Aligned.emit (ha : Aligned capacity r h) {e : Event} (hevents : r'.events = r.events.add e) :
    Aligned capacity r' ⟨h.emitted ++ [e], h.delivered⟩ := by
  have hunread : r'.events.unread = latest capacity (r.events.unread ++ [e]) := by
    rw [hevents, EventStore.add, ha.store]
  have hfirst := ha.firstUnread_emit hevents
  have hle := ha.unread.length_le
  refine ⟨?_, ?_, ?_, ?_, ?_, ha.ordered, ?_, ?_⟩
  · rw [hevents]
    exact ha.store
  · rw [hevents, EventStore.add, ha.store, ha.kept]
    exact EventStore.latest_concat_latest capacity h.emitted e
  · obtain ⟨front, hfront⟩ := ha.unread
    rw [hunread]
    refine (EventStore.latest_isSuffix _ _).trans ⟨front, ?_⟩
    rw [← List.append_assoc, hfront]
  · rw [hunread]
    exact EventStore.length_latest_le _ _
  · intro i e' hmem
    obtain ⟨hi, hget⟩ := ha.placed i e' hmem
    refine ⟨by omega, ?_⟩
    rw [List.getElem?_append_left (List.getElem?_eq_some_iff.1 hget).1, hget]
  · refine ha.among.trans ((List.prefix_take_iff.2 ⟨?_, ?_⟩).sublist)
    · exact (List.take_prefix _ _).trans (List.prefix_append _ _)
    · rw [List.length_take]
      omega
  · intro i hi
    rw [List.length_append, List.length_singleton]
    by_cases hold : i < r.firstUnread h
    · exact (ha.accounted i hold).imp id (by omega)
    · -- it is the event that was dropped just now
      refine Or.inr ?_
      simp only [firstUnread] at hold hfirst hi
      omega

/-- When the first unread event is delivered, the next one takes its place. -/
theorem Aligned.firstUnread_deliver (ha : Aligned capacity r h) {e : Event} {rest : List Event}
    (hunread : r.events.unread = e :: rest) (hevents : r'.events = { r.events with unread := rest }) :
    r'.firstUnread ⟨h.emitted, h.delivered ++ [(r.firstUnread h, e)]⟩ = r.firstUnread h + 1 ∧
      h.emitted[r.firstUnread h]? = some e := by
  have hsuffix := ha.unread
  rw [hunread] at hsuffix
  have hle := hsuffix.length_le
  rw [List.length_cons] at hle
  have hat : r.firstUnread h = h.emitted.length - (rest.length + 1) := by rw [firstUnread, hunread, List.length_cons]
  constructor
  · rw [hat, firstUnread, hevents]
    show h.emitted.length - rest.length = _
    omega
  · rw [hat]
    exact getElem?_of_cons_isSuffix hsuffix

/-- The first unread event is delivered. -/
theorem Aligned.deliver (ha : Aligned capacity r h) {e : Event} {rest : List Event}
    (hunread : r.events.unread = e :: rest) (hevents : r'.events = { r.events with unread := rest }) :
    Aligned capacity r' ⟨h.emitted, h.delivered ++ [(r.firstUnread h, e)]⟩ := by
  obtain ⟨hfirst, hfound⟩ := ha.firstUnread_deliver hunread hevents
  have hplaces : EventHistory.places ⟨h.emitted, h.delivered ++ [(r.firstUnread h, e)]⟩
      = h.places ++ [r.firstUnread h] := by simp [EventHistory.places]
  have hrest : rest <:+ r.events.unread := hunread ▸ List.suffix_cons e rest
  refine ⟨?_, ?_, ?_, ?_, ?_, ?_, ?_, ?_⟩
  · rw [hevents]
    exact ha.store
  · rw [hevents]
    exact ha.kept
  · rw [hevents]
    exact hrest.trans ha.unread
  · rw [hevents]
    exact Nat.le_trans hrest.length_le ha.bounded
  · intro i e' hmem
    rw [hfirst]
    rcases List.mem_append.1 hmem with hold | hnew
    · obtain ⟨hi, hget⟩ := ha.placed i e' hold
      exact ⟨by omega, hget⟩
    · cases List.mem_singleton.1 hnew
      exact ⟨Nat.lt_succ_self _, hfound⟩
  · rw [hplaces, List.pairwise_append]
    refine ⟨ha.ordered, List.pairwise_singleton _ _, ?_⟩
    intro i hi j hj
    obtain ⟨⟨place, e'⟩, hmem, rfl⟩ := List.mem_map.1 hi
    rw [List.mem_singleton.1 hj]
    exact (ha.placed place e' hmem).1
  · rw [hfirst, List.take_add_one, hfound, List.map_append]
    exact ha.among.append (List.Sublist.refl [e])
  · intro i hi
    rw [hfirst] at hi
    rw [hplaces, List.mem_append, List.mem_singleton]
    rcases Nat.lt_or_eq_of_le (Nat.le_of_lt_succ hi) with hold | hnew
    · exact (ha.accounted i hold).imp Or.inl id
    · exact Or.inl (Or.inr hnew)

theorem firstUnread_of_same (hevents : r'.events = r.events) : r'.firstUnread h = r.firstUnread h := by
  rw [firstUnread, hevents, firstUnread]

theorem Aligned.of_same (ha : Aligned capacity r h) (hevents : r'.events = r.events) : Aligned capacity r' h := by
  have hfirst : r'.firstUnread h = r.firstUnread h := firstUnread_of_same hevents
  refine ⟨?_, ?_, ?_, ?_, ?_, ha.ordered, ?_, ?_⟩
  · rw [hevents]
    exact ha.store
  · rw [hevents]
    exact ha.kept
  · rw [hevents]
    exact ha.unread
  · rw [hevents]
    exact ha.bounded
  · rw [hfirst]
    exact ha.placed
  · rw [hfirst]
    exact ha.among
  · rw [hfirst]
    exact ha.accounted

/-- **A move** keeps events and history together. -/
theorem Aligned.move (ha : Aligned capacity r h) (m : Move) :
    Aligned capacity (r.move relay m) (r.historyAfter h m) := by
  cases eventsMoved relay r m with
  | emitted e hemits hdelivers hevents =>
      rw [historyAfter_emitted hemits hdelivers]
      exact ha.emit hevents
  | delivered e rest hunread hemits hdelivers hevents =>
      rw [historyAfter_delivered hemits hdelivers]
      exact ha.deliver hunread hevents
  | same hemits hdelivers hevents =>
      rw [historyAfter_same hemits hdelivers]
      exact ha.of_same hevents

theorem Aligned.moves (ms : List Move) : ∀ {r : TaskRuntime σ} {h : EventHistory}, Aligned capacity r h →
    Aligned capacity (r.moves relay ms) (history relay ms r h) := by
  induction ms with
  | nil => exact fun ha => ha
  | cons m ms ih => exact fun ha => ih (ha.move m)

/-! ## How histories go on -/

/-- **A later history**: nothing that was emitted or delivered is taken back, and whatever is delivered from now on was
    unread before, or had not been emitted. -/
structure Continues (r : TaskRuntime σ) (h : EventHistory) (r' : TaskRuntime σ) (h' : EventHistory) : Prop where
  emitted : h.emitted <+: h'.emitted
  delivered : h.delivered <+: h'.delivered
  first : r.firstUnread h ≤ r'.firstUnread h'
  places : ∀ i ∈ h'.places, i ∈ h.places ∨ r.firstUnread h ≤ i

theorem Continues.refl (r : TaskRuntime σ) (h : EventHistory) : Continues r h r h :=
  ⟨List.prefix_rfl, List.prefix_rfl, Nat.le_refl _, fun _ hi => Or.inl hi⟩

theorem Continues.trans {r'' : TaskRuntime σ} {h'' : EventHistory} (hc : Continues r h r' h')
    (hc' : Continues r' h' r'' h'') : Continues r h r'' h'' where
  emitted := hc.emitted.trans hc'.emitted
  delivered := hc.delivered.trans hc'.delivered
  first := Nat.le_trans hc.first hc'.first
  places i hi := by
    rcases hc'.places i hi with hbefore | hlater
    · exact hc.places i hbefore
    · exact Or.inr (Nat.le_trans hc.first hlater)

theorem Aligned.continues_move (ha : Aligned capacity r h) (m : Move) :
    Continues r h (r.move relay m) (r.historyAfter h m) := by
  cases eventsMoved relay r m with
  | emitted e hemits hdelivers hevents =>
      rw [historyAfter_emitted hemits hdelivers]
      have hfirst := ha.firstUnread_emit hevents
      exact ⟨List.prefix_append _ _, List.prefix_rfl, by omega, fun _ hi => Or.inl hi⟩
  | delivered e rest hunread hemits hdelivers hevents =>
      rw [historyAfter_delivered hemits hdelivers]
      have hfirst := (ha.firstUnread_deliver hunread hevents).1
      refine ⟨List.prefix_rfl, List.prefix_append _ _, by omega, ?_⟩
      intro i hi
      simp only [EventHistory.places, List.map_append, List.map_cons, List.map_nil, List.mem_append,
        List.mem_singleton] at hi
      exact hi.imp id fun heq => Nat.le_of_eq heq.symm
  | same hemits hdelivers hevents =>
      rw [historyAfter_same hemits hdelivers]
      exact ⟨List.prefix_rfl, List.prefix_rfl, Nat.le_of_eq (firstUnread_of_same hevents).symm, fun _ hi => Or.inl hi⟩

theorem Aligned.continues (ms : List Move) : ∀ {r : TaskRuntime σ} {h : EventHistory}, Aligned capacity r h →
    Continues r h (r.moves relay ms) (history relay ms r h) := by
  induction ms with
  | nil => exact fun _ => .refl _ _
  | cons m ms ih => exact fun ha => (ha.continues_move m).trans (ih (ha.move m))

/-! ## Dropped events -/

/-- **An event was dropped unread**, by its place: it was emitted, was delivered to nobody, and is not unread any more. -/
def DroppedUnread (r : TaskRuntime σ) (h : EventHistory) (i : Nat) : Prop :=
  i < h.emitted.length ∧ i ∉ h.places ∧ i < r.firstUnread h

/-- **An event was overtaken**, by its place: at some point of a run it had not been delivered, and so many later ones had
    been emitted. -/
def Overtaken (relay : Relay σ) (r : TaskRuntime σ) (ms : List Move) (count i : Nat) : Prop :=
  ∃ before after, ms = before ++ after ∧ i ∉ (history relay before r .empty).places ∧
    i + count < (history relay before r .empty).emitted.length

/-- **Events are dropped unread** exactly when they are overtaken by as many as are kept. -/
theorem droppedUnread_iff (relay : Relay σ) (capacity : Nat) (s : σ) (ms : List Move) (i : Nat) :
    DroppedUnread ((new capacity s).moves relay ms) (history relay ms (new capacity s) .empty) i ↔
      Overtaken relay (new capacity s) ms capacity i := by
  have haligned : ∀ ms, Aligned capacity ((new capacity s).moves relay ms) (history relay ms (new capacity s) .empty) :=
    fun ms => (aligned_new capacity s).moves ms
  constructor
  · rintro ⟨-, hplaces, hfirst⟩
    refine ⟨ms, [], (List.append_nil ms).symm, hplaces, ?_⟩
    exact ((haligned ms).accounted i hfirst).resolve_left hplaces
  · rintro ⟨before, after, rfl, hplaces, hlater⟩
    have hbefore := haligned before
    -- it was dropped by then, since there is no room for more unread events
    have hfirst : i < ((new capacity s).moves relay before).firstUnread (history relay before (new capacity s) .empty) := by
      have hbounded := hbefore.bounded
      simp only [firstUnread]
      omega
    have hcontinues : Continues _ _ _ (history relay after _ _) := hbefore.continues after
    rw [moves_append, history_append]
    refine ⟨?_, ?_, ?_⟩
    · have hle := hcontinues.emitted.length_le
      omega
    · intro hmem
      rcases hcontinues.places i hmem with hdelivered | hunread
      · exact hplaces hdelivered
      · omega
    · have hle := hcontinues.first
      omega

/-! ## The law -/

/-- Several reads, one after the other. -/
def reads (count : Nat) : List Move := List.replicate count (.act .nextEvent)

/-- **Reads deliver the unread events** in order, whatever else is true of the runtime. -/
theorem delivered_reads (count : Nat) : ∀ (r : TaskRuntime σ) (h : EventHistory),
    (history relay (reads count) r h).delivered.map (·.2) = h.delivered.map (·.2) ++ r.events.unread.take count := by
  induction count with
  | zero =>
      intro r h
      simp [reads, history]
  | succ count ih =>
      intro r h
      show (history relay (reads count) (r.move relay (.act .nextEvent)) (r.historyAfter h (.act .nextEvent))).delivered.map
        (·.2) = _
      rw [ih]
      cases eventsMoved relay r (.act .nextEvent) with
      | emitted e hemits _ _ => cases hemits
      | delivered e rest hunread hemits hdelivers hevents =>
          rw [historyAfter_delivered hemits hdelivers, hevents, hunread]
          simp
      | same hemits hdelivers hevents =>
          -- a read that delivers nothing has found nothing
          have hnone : r.events.unread = [] := by
            cases hunread : r.events.unread with
            | nil => rfl
            | cons e rest =>
                rw [delivers?, nextEvent?_cons hunread] at hdelivers
                cases hdelivers
          rw [historyAfter_same hemits hdelivers, hevents, hnone]
          simp

/-- **The law of events** of a run:

    the kept events are the last ones emitted, as many as there is room for, and the unread ones are the last of these; the
    delivered events are some of the emitted ones, each once and in order; an event is dropped unread exactly when it is
    overtaken by as many as are kept; an emission that is refused and a read that finds nothing change nothing; and what is
    unread when the runtime is closed is delivered to whoever reads on. -/
structure EventLaw (relay : Relay σ) (capacity : Nat) (r r' : TaskRuntime σ) (h : EventHistory) (ms : List Move) :
    Prop where
  kept : r'.events.kept <:+ h.emitted
  length : r'.events.kept.length = min capacity h.emitted.length
  unread : r'.events.unread <:+ r'.events.kept
  delivered : (h.delivered.map (·.2)).Sublist h.emitted
  once : h.places.Pairwise (· < ·)
  placed : ∀ i e, (i, e) ∈ h.delivered → h.emitted[i]? = some e
  dropped : ∀ i, DroppedUnread r' h i ↔ Overtaken relay r ms capacity i
  refused : ∀ name dumped, ((∃ fault, r'.emit name dumped = .error fault) ↔
      (r'.closed = true ∨ ∃ fault, dumped = .error fault)) ∧
    ((∃ fault, r'.emit name dumped = .error fault) → r'.move relay (.act (.emit name dumped)) = r')
  idle : (r'.nextEvent? = none ↔ r'.events.unread = []) ∧
    (r'.nextEvent? = none → r'.move relay (.act .nextEvent) = r')
  readable : (r'.move relay (.act .close)).closed = true ∧
    ∀ count, (history relay (ms ++ .act .close :: reads count) r .empty).delivered.map (·.2)
      = h.delivered.map (·.2) ++ r'.events.unread.take count

theorem nextEvent?_eq_none_iff : r.nextEvent? = none ↔ r.events.unread = [] := by
  cases hunread : r.events.unread with
  | nil => simp [nextEvent?_nil hunread]
  | cons e rest => simp [nextEvent?_cons hunread]

theorem closed_close (r : TaskRuntime σ) : r.close.closed = true := by
  unfold close
  by_cases hclosed : r.closed = true
  · rw [if_pos hclosed, hclosed]
  · rw [if_neg hclosed]
    unfold callListener
    split
    · rfl
    · rfl

/-- **The law of events holds in every run**, whatever happens beside emissions, reads and the closing. -/
theorem events_lawful (relay : Relay σ) (capacity : Nat) (s : σ) (ms : List Move) :
    EventLaw relay capacity (new capacity s) ((new capacity s).moves relay ms)
      (history relay ms (new capacity s) .empty) ms := by
  have ha : Aligned capacity ((new capacity s).moves relay ms) (history relay ms (new capacity s) .empty) :=
    (aligned_new capacity s).moves ms
  refine ⟨?_, ?_, ?_, ?_, ha.ordered, ?_, droppedUnread_iff relay capacity s ms, ?_, ?_, ?_⟩
  · rw [ha.kept]
    exact EventStore.latest_isSuffix _ _
  · rw [ha.kept]
    exact EventStore.length_latest _ _
  · rw [ha.kept]
    exact EventStore.isSuffix_latest ha.unread ha.bounded
  · exact ha.among.trans (List.take_sublist _ _)
  · exact fun i e hmem => (ha.placed i e hmem).2
  · intro name dumped
    refine ⟨emit_error_iff, ?_⟩
    rintro ⟨fault, hfault⟩
    exact move_of_refused hfault
  · refine ⟨nextEvent?_eq_none_iff, ?_⟩
    intro hnone
    show ((nextEvent? _).map (·.2)).getD _ = _
    rw [hnone]
    rfl
  · refine ⟨closed_close _, ?_⟩
    intro count
    rw [history_append, history_cons, delivered_reads]
    cases eventsMoved relay ((new capacity s).moves relay ms) (.act .close) with
    | emitted e hemits _ _ => cases hemits
    | delivered e rest _ _ hdelivers _ => cases hdelivers
    | same hemits hdelivers hevents => rw [historyAfter_same hemits hdelivers, hevents]

/-- Where there is room for one event, the second takes the place of the first before anybody has read it. -/
example (relay : Relay Unit) : (history relay [.act (.emit "first" (.ok .null)), .act (.emit "second" (.ok .null)),
    .act .nextEvent] (new 1 ()) .empty).places = [1] := rfl

end TaskRuntime

end WebhookBridge
