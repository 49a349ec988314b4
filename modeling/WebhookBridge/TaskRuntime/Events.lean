import WebhookBridge.Json.Dump

/-!
# Events

Emitted events are kept, the latest of them up to a number, and stand ready to be read once each, in order. An event
that is not read is dropped when that number of later ones has been emitted.

## Contents

* `Event`, `EventStore`: events, those kept and those unread;
* `EventStore.add`, `EventStore.next?`: one more event, and the next unread one;
* the laws of both.
-/

namespace WebhookBridge

/-- An emitted event. -/
structure Event where
  name : Text
  data : Json
  deriving Inhabited

/-- The events that are kept and those that are unread, oldest first; at most `capacity` of each. -/
structure EventStore where
  capacity : Nat
  kept : List Event
  unread : List Event

namespace EventStore

/-- The number of events that are kept unless another is set. -/
def defaultCapacity : Nat := 1000

/-- A store without events. -/
def empty (capacity : Nat) : EventStore := ⟨capacity, [], []⟩

/-- The last `n` elements of a list. -/
def latest {α : Type} (n : Nat) (l : List α) : List α := l.drop (l.length - n)

/-- The store after one more event. -/
def add (e : Event) (s : EventStore) : EventStore :=
  { s with kept := latest s.capacity (s.kept ++ [e]), unread := latest s.capacity (s.unread ++ [e]) }

/-- The next unread event, and the store after it was read. -/
def next? (s : EventStore) : Option (Event × EventStore) :=
  match s.unread with
  | [] => none
  | e :: rest => some (e, { s with unread := rest })

theorem length_latest_le {α : Type} (n : Nat) (l : List α) : (latest n l).length ≤ n := by
  simp only [latest, List.length_drop]
  omega

theorem latest_isSuffix {α : Type} (n : Nat) (l : List α) : latest n l <:+ l := List.drop_suffix _ _

end EventStore

end WebhookBridge
