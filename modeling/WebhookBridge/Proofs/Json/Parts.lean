import WebhookBridge.Json.Dump
import WebhookBridge.Json.Printer

/-!
# The parts of a value

A value is made up of parts, each inside a number of arrays and objects. Whether a value can be written or dumped is a
matter of its parts one by one: writing fails with the fault of the first part that has one, in the order in which parts
are written, and dumping succeeds exactly if every part is admitted.

## Contents

* `Json.parts`: the parts of a value, each with its level;
* `Json.Inside`: values inside others;
* `Json.partFault?`, `fault_printAt`: writing a value;
* `Json.Admitted`, `dumpAt_iff`: dumping a value.
-/

namespace WebhookBridge

/-- The fault of a computation that has failed. -/
def faultOf? {ε α : Type} : Except ε α → Option ε
  | .ok _ => none
  | .error e => some e

@[simp] theorem faultOf?_ok {ε α : Type} (a : α) : faultOf? (.ok a : Except ε α) = none := rfl

@[simp] theorem faultOf?_error {ε α : Type} (e : ε) : faultOf? (.error e : Except ε α) = some e := rfl

theorem faultOf?_map {ε α β : Type} (f : α → β) (r : Except ε α) : faultOf? (r.map f) = faultOf? r := by
  cases r <;> rfl

namespace Json

mutual

/-- The parts of a value that stands inside `level` arrays and objects, in the order in which they are written. -/
def parts (level : Nat) : Json → List (Nat × Json)
  | .arr elements => (level, .arr elements) :: elementParts (level + 1) elements
  | .obj members => (level, .obj members) :: memberParts (level + 1) members
  | v => [(level, v)]

/-- The parts of the elements of an array. -/
def elementParts (level : Nat) : List Json → List (Nat × Json)
  | [] => []
  | v :: rest => parts level v ++ elementParts level rest

/-- The parts of the members of an object. -/
def memberParts (level : Nat) : List (Text × Json) → List (Nat × Json)
  | [] => []
  | (_, v) :: rest => parts level v ++ memberParts level rest

end

theorem mem_elementParts {level : Nat} {vs : List Json} {part : Nat × Json} :
    part ∈ elementParts level vs ↔ ∃ v ∈ vs, part ∈ parts level v := by
  induction vs with
  | nil => simp [elementParts]
  | cons v vs ih => simp [elementParts, ih]

theorem mem_memberParts {level : Nat} {ms : List (Text × Json)} {part : Nat × Json} :
    part ∈ memberParts level ms ↔ ∃ m ∈ ms, part ∈ parts level m.2 := by
  induction ms with
  | nil => simp [memberParts]
  | cons m ms ih => simp [memberParts, ih]

mutual

/-- A value that stands deeper has the same parts, each deeper by as much. -/
theorem parts_add (k level : Nat) : ∀ v : Json, parts (level + k) v = (parts level v).map fun p => (p.1 + k, p.2)
  | .null => rfl
  | .bool _ => rfl
  | .int _ => rfl
  | .float _ => rfl
  | .str _ => rfl
  | .foreign _ => rfl
  | .arr elements => by
    rw [parts, parts, List.map_cons, ← elementParts_add k (level + 1) elements, Nat.add_right_comm]
  | .obj members => by
    rw [parts, parts, List.map_cons, ← memberParts_add k (level + 1) members, Nat.add_right_comm]

theorem elementParts_add (k level : Nat) : ∀ elements : List Json,
    elementParts (level + k) elements = (elementParts level elements).map fun p => (p.1 + k, p.2)
  | [] => rfl
  | v :: rest => by
    rw [elementParts, elementParts, List.map_append, parts_add k level v, elementParts_add k level rest]

theorem memberParts_add (k level : Nat) : ∀ members : List (Text × Json),
    memberParts (level + k) members = (memberParts level members).map fun p => (p.1 + k, p.2)
  | [] => rfl
  | (_, v) :: rest => by
    rw [memberParts, memberParts, List.map_append, parts_add k level v, memberParts_add k level rest]

end

/-- A value stands inside another, or is that value: its parts are parts of the other, some levels deeper. -/
def Inside (w v : Json) : Prop := ∃ k, ∀ part ∈ w.parts k, part ∈ v.parts 0

namespace Inside

theorem refl (v : Json) : v.Inside v := ⟨0, fun _ h => h⟩

theorem element {v : Json} {elements : List Json} (h : v ∈ elements) : v.Inside (.arr elements) :=
  ⟨1, fun _ hpart => List.mem_cons_of_mem _ (mem_elementParts.2 ⟨v, h, hpart⟩)⟩

theorem member {m : Text × Json} {members : List (Text × Json)} (h : m ∈ members) : m.2.Inside (.obj members) :=
  ⟨1, fun _ hpart => List.mem_cons_of_mem _ (mem_memberParts.2 ⟨m, h, hpart⟩)⟩

theorem trans {u w v : Json} (h : u.Inside w) (h' : w.Inside v) : u.Inside v := by
  obtain ⟨k, hk⟩ := h
  obtain ⟨l, hl⟩ := h'
  refine ⟨k + l, fun part hpart => hl part ?_⟩
  have hraised := parts_add l 0 w
  rw [Nat.zero_add] at hraised
  rw [parts_add, List.mem_map] at hpart
  obtain ⟨first, hfirst, rfl⟩ := hpart
  rw [hraised]
  exact List.mem_map_of_mem (hk first hfirst)

/-- What holds of all parts of a value, and of parts that stand less deep as well, holds of the parts of what is inside. -/
theorem forall_parts {w v : Json} (h : w.Inside v) {P : Nat × Json → Prop}
    (hP : ∀ level k v, P (level + k, v) → P (level, v)) (hv : ∀ part ∈ v.parts 0, P part) :
    ∀ part ∈ w.parts 0, P part := by
  obtain ⟨k, hk⟩ := h
  have hraised := parts_add k 0 w
  rw [Nat.zero_add] at hraised
  rintro ⟨level, u⟩ hpart
  refine hP level k u (hv _ (hk _ ?_))
  rw [hraised]
  exact List.mem_map.2 ⟨(level, u), hpart, rfl⟩

end Inside

/-! ## Writing -/

/-- Why a part by itself cannot be written, where `limit` arrays and objects may stand around one another. -/
def partFault? (limit : Nat) : Nat × Json → Option PrintFault
  | (_, .int n) => if n.natAbs < Nat.pow 10 Whole.maxDigits then none else some .integerTooLong
  | (_, .float x) => if x.isFinite then none else some .notFinite
  | (level, .arr _) => if limit ≤ level then some .tooDeep else none
  | (level, .obj _) => if limit ≤ level then some .tooDeep else none
  | (_, .foreign kind) => some (.foreign kind)
  | _ => none

mutual

/-- **Writing fails with the first fault of a part.** -/
theorem fault_printAt (style : Style) (limit level : Nat) :
    ∀ v : Json, faultOf? (printAt style limit level v) = (parts level v).findSome? (partFault? limit)
  | .null => rfl
  | .bool _ => rfl
  | .str _ => rfl
  | .foreign _ => rfl
  | .int n => by
    simp only [printAt, printInt, parts, List.findSome?_singleton, partFault?]
    split <;> rfl
  | .float x => by
    simp only [printAt, parts, List.findSome?_singleton, partFault?]
    split <;> rfl
  | .arr elements => by
    simp only [printAt, parts, List.findSome?_cons, partFault?]
    split
    · rfl
    · rw [faultOf?_map]
      exact fault_printElements style limit (level + 1) elements
  | .obj members => by
    simp only [printAt, parts, List.findSome?_cons, partFault?]
    split
    · rfl
    · rw [faultOf?_map]
      exact fault_printMembers style limit (level + 1) members

theorem fault_printElements (style : Style) (limit level : Nat) :
    ∀ elements : List Json,
      faultOf? (printElements style limit level elements) = (elementParts level elements).findSome? (partFault? limit)
  | [] => rfl
  | v :: rest => by
    have hv := fault_printAt style limit level v
    have hrest := fault_printElements style limit level rest
    -- the first fault is that of the first element if it has one, and else that of the others
    rw [elementParts, List.findSome?_append, ← hv, ← hrest, printElements]
    cases printAt style limit level v with
    | error f => rfl
    | ok first =>
        cases printElements style limit level rest with
        | error f => rfl
        | ok parts => rfl

theorem fault_printMembers (style : Style) (limit level : Nat) :
    ∀ members : List (Text × Json),
      faultOf? (printMembers style limit level members) = (memberParts level members).findSome? (partFault? limit)
  | [] => rfl
  | (k, v) :: rest => by
    have hv := fault_printAt style limit level v
    have hrest := fault_printMembers style limit level rest
    rw [memberParts, List.findSome?_append, ← hv, ← hrest, printMembers]
    cases printAt style limit level v with
    | error f => rfl
    | ok first =>
        cases printMembers style limit level rest with
        | error f => rfl
        | ok parts => rfl

end

/-! ## Dumping -/

/-- Whether a part is dumped by itself: it stands inside fewer than the greatest number of values, none of its keys holds a
    surrogate, and it is no foreign value. -/
def Admitted : Nat × Json → Prop
  | (_, .foreign _) => False
  | (level, .obj members) => level < maxDumpDepth ∧ ∀ m ∈ members, m.1.surrogateFault? = none
  | (level, _) => level < maxDumpDepth

theorem faultOf?_limit {α : Type} (level : Nat) (r : Except DumpFault α) :
    faultOf? (if maxDumpDepth ≤ level then .error .tooDeep else r) = none ↔ level < maxDumpDepth ∧ faultOf? r = none := by
  split
  · rename_i h
    simp [Nat.not_lt.2 h]
  · rename_i h
    simp [Nat.not_le.1 h]

mutual

/-- **A value is dumped exactly if every part is admitted.** -/
theorem dumpAt_iff (level : Nat) :
    ∀ v : Json, faultOf? (dumpAt level v) = none ↔ ∀ part ∈ parts level v, Admitted part
  | .null => by simp [dumpAt, faultOf?_limit, parts, Admitted]
  | .bool _ => by simp [dumpAt, faultOf?_limit, parts, Admitted]
  | .int _ => by simp [dumpAt, faultOf?_limit, parts, Admitted]
  | .float _ => by simp [dumpAt, faultOf?_limit, parts, Admitted]
  | .str _ => by simp [dumpAt, faultOf?_limit, parts, Admitted]
  | .foreign _ => by simp [dumpAt, parts, Admitted]
  | .arr elements => by
    rw [dumpAt, faultOf?_limit, faultOf?_map, dumpElements_iff (level + 1) elements, parts, List.forall_mem_cons]
    rfl
  | .obj members => by
    rw [dumpAt, faultOf?_limit, faultOf?_map, dumpMembers_iff (level + 1) members, parts, List.forall_mem_cons,
      ← and_assoc]
    rfl

theorem dumpElements_iff (level : Nat) :
    ∀ elements : List Json,
      faultOf? (dumpElements level elements) = none ↔ ∀ part ∈ elementParts level elements, Admitted part
  | [] => by simp [dumpElements, elementParts]
  | v :: rest => by
    have hv := dumpAt_iff level v
    have hrest := dumpElements_iff level rest
    rw [elementParts, List.forall_mem_append, ← hv, ← hrest, dumpElements]
    cases dumpAt level v with
    | error f => simp [bind, Except.bind]
    | ok first =>
        cases dumpElements level rest with
        | error f => simp [bind, Except.bind]
        | ok others => simp [bind, Except.bind, pure, Except.pure]

theorem dumpMembers_iff (level : Nat) :
    ∀ members : List (Text × Json),
      faultOf? (dumpMembers level members) = none ↔
        (∀ m ∈ members, m.1.surrogateFault? = none) ∧ ∀ part ∈ memberParts level members, Admitted part
  | [] => by simp [dumpMembers, memberParts]
  | (k, v) :: rest => by
    have hv := dumpAt_iff level v
    have hrest := dumpMembers_iff level rest
    rw [memberParts, List.forall_mem_append, List.forall_mem_cons, ← hv, dumpMembers]
    -- the key is looked at before the value
    cases hk : k.surrogateFault? with
    | some fault => simp
    | none =>
        cases hd : dumpAt level v with
        | error f => simp [bind, Except.bind]
        | ok first =>
            cases ho : dumpMembers level rest with
            | error f =>
                rw [ho] at hrest
                simpa [bind, Except.bind] using hrest
            | ok others =>
                rw [ho] at hrest
                simpa [bind, Except.bind, pure, Except.pure] using hrest

end

/-! ## Dumping without a change -/

/-- Whether a part is dumped as it is: it is admitted, and no number that is not finite. -/
def Unchanged : Nat × Json → Prop
  | (level, .float x) => level < maxDumpDepth ∧ x.isFinite = true
  | part => Admitted part

/-- A value comes through dumping as it is if each of its parts does. -/
def Carried (v : Json) : Prop := ∀ part ∈ v.parts 0, Unchanged part

theorem limit_eq_ok {α : Type} (level : Nat) (r : Except DumpFault α) (a : α) :
    (if maxDumpDepth ≤ level then .error .tooDeep else r) = .ok a ↔ level < maxDumpDepth ∧ r = .ok a := by
  split
  · rename_i h
    simp [Nat.not_lt.2 h]
  · rename_i h
    simp [Nat.not_le.1 h]

theorem map_eq_ok {ε α β : Type} {f : α → β} (hf : ∀ a a', f a = f a' → a = a') (r : Except ε α) (a : α) :
    r.map f = .ok (f a) ↔ r = .ok a := by
  cases r with
  | error e => simp [Except.map]
  | ok b =>
      constructor
      · intro h
        rw [hf b a (Except.ok.inj h)]
      · intro h
        rw [h]
        rfl

mutual

/-- **A value is dumped as it is exactly if every part is.** -/
theorem dumpAt_eq_iff (level : Nat) :
    ∀ v : Json, dumpAt level v = .ok v ↔ ∀ part ∈ parts level v, Unchanged part
  | .null => by simp [dumpAt, parts, Unchanged, Admitted]
  | .bool _ => by simp [dumpAt, parts, Unchanged, Admitted]
  | .int _ => by simp [dumpAt, parts, Unchanged, Admitted]
  | .str _ => by simp [dumpAt, parts, Unchanged, Admitted]
  | .foreign _ => by simp [dumpAt, parts, Unchanged, Admitted]
  | .float x => by
    rw [dumpAt, limit_eq_ok]
    cases hx : x.isFinite with
    | false => simp [parts, Unchanged, hx]
    | true => simp [parts, Unchanged, hx]
  | .arr elements => by
    rw [dumpAt, limit_eq_ok, map_eq_ok (fun _ _ => Json.arr.inj), dumpElements_eq_iff (level + 1) elements, parts,
      List.forall_mem_cons]
    rfl
  | .obj members => by
    rw [dumpAt, limit_eq_ok, map_eq_ok (fun _ _ => Json.obj.inj), dumpMembers_eq_iff (level + 1) members, parts,
      List.forall_mem_cons, ← and_assoc]
    rfl

theorem dumpElements_eq_iff (level : Nat) :
    ∀ elements : List Json,
      dumpElements level elements = .ok elements ↔ ∀ part ∈ elementParts level elements, Unchanged part
  | [] => by simp [dumpElements, elementParts]
  | v :: rest => by
    have hv := dumpAt_eq_iff level v
    have hrest := dumpElements_eq_iff level rest
    rw [elementParts, List.forall_mem_append, ← hv, ← hrest, dumpElements]
    cases dumpAt level v with
    | error f => simp [bind, Except.bind]
    | ok first =>
        cases dumpElements level rest with
        | error f => simp [bind, Except.bind]
        | ok others => simp [bind, Except.bind, pure, Except.pure]

theorem dumpMembers_eq_iff (level : Nat) :
    ∀ members : List (Text × Json),
      dumpMembers level members = .ok members ↔
        (∀ m ∈ members, m.1.surrogateFault? = none) ∧ ∀ part ∈ memberParts level members, Unchanged part
  | [] => by simp [dumpMembers, memberParts]
  | (k, v) :: rest => by
    have hv := dumpAt_eq_iff level v
    have hrest := dumpMembers_eq_iff level rest
    rw [memberParts, List.forall_mem_append, List.forall_mem_cons, ← hv, and_and_and_comm, ← hrest, dumpMembers]
    cases k.surrogateFault? with
    | some fault => simp
    | none =>
        cases dumpAt level v with
        | error f => simp [bind, Except.bind]
        | ok first =>
            cases dumpMembers level rest with
            | error f => simp [bind, Except.bind]
            | ok others => simp [bind, Except.bind, pure, Except.pure]

end

end Json

end WebhookBridge
