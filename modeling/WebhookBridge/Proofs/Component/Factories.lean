import WebhookBridge.Component.Catalogue

/-!
# Which paths name a factory

A path names a factory if it is cut at its first colon into the name of a module that can be imported and the name of a member
of it that can be called. For any other path the loader fails, and who loads a factory answers for its failures, but for one: a
name that begins with a dot is relative to a module that nobody has given.

## Contents

* `Text.splitFirst?_eq_some_iff`: cutting at the first occurrence;
* `Catalogue.Imports`, `Catalogue.findModule_ok_iff`: the modules that can be imported;
* `Catalogue.CutsInto`, `Catalogue.NamesFactory`, `Catalogue.loadFactory_ok_iff`: the paths that name a factory;
* `LoadFault.IsAnsweredFor`, `Catalogue.isAnsweredFor_iff`: the failures that are answered for.
-/

namespace WebhookBridge

/-! ## Cutting -/

/-- A text is cut at the first occurrence: what stands before it has none. -/
theorem Text.splitFirst?_eq_some_iff {sep : CodePoint} {t before after : Text} :
    t.splitFirst? sep = some (before, after) ↔ t = before ++ sep :: after ∧ sep ∉ before := by
  induction t generalizing before with
  | nil => simp [splitFirst?]
  | cons c t ih =>
      by_cases hc : c = sep
      · subst hc
        cases before with
        | nil => simp [splitFirst?]
        | cons d before =>
            simp only [splitFirst?, if_true, Option.some.injEq, Prod.mk.injEq, List.nil_eq, reduceCtorEq, false_and,
              List.cons_append, List.cons.injEq, List.mem_cons, false_iff]
            rintro ⟨⟨rfl, -⟩, hnot⟩
            exact hnot (Or.inl rfl)
      · simp only [splitFirst?, hc, if_false, Option.map_eq_some_iff, Prod.exists, Prod.mk.injEq]
        constructor
        · rintro ⟨front, back, hsplit, rfl, rfl⟩
          obtain ⟨rfl, hfront⟩ := ih.1 hsplit
          refine ⟨rfl, fun hmem => ?_⟩
          rcases List.mem_cons.1 hmem with heq | hmem
          · exact hc heq.symm
          · exact hfront hmem
        · rintro ⟨ht, hbefore⟩
          cases before with
          | nil => exact absurd (List.cons.inj ht).1 hc
          | cons d before =>
              obtain ⟨rfl, rfl⟩ := List.cons.inj ht
              exact ⟨before, after, ih.2 ⟨rfl, fun hmem => hbefore (List.mem_cons_of_mem _ hmem)⟩, rfl, rfl⟩

namespace Catalogue

variable {c : Catalogue} {path name member origin : Text} {m : CodeModule} {fault : LoadFault}

/-! ## Modules -/

/-- The modules of a line are the module itself and those above it, whose names end before a dot. -/
theorem mem_lineage_iff {n : Text} : n ∈ lineage name ↔ n = name ∨ ∃ below, name = n ++ dot :: below := by
  simp only [lineage, List.mem_append, List.mem_map, List.mem_filter, List.mem_range, decide_eq_true_eq, List.mem_singleton]
  rw [or_comm]
  refine or_congr Iff.rfl ⟨?_, ?_⟩
  · rintro ⟨k, ⟨hk, hdot⟩, rfl⟩
    refine ⟨name.drop (k + 1), ?_⟩
    have hcut := List.take_append_drop k name
    rw [List.drop_eq_getElem_cons hk, List.getElem?_eq_getElem hk, Option.some.injEq] at *
    rw [← hdot]
    exact hcut.symm
  · rintro ⟨below, rfl⟩
    exact ⟨n.length, ⟨by simp, by simp⟩, by simp⟩

/-- **A module that can be imported**: its name is not relative, every module above it is found, and so is the module. -/
structure Imports (c : Catalogue) (name : Text) (m : CodeModule) : Prop where
  absolute : name.head? ≠ some dot
  above : ∀ n below, name = n ++ dot :: below → ∃ parent, c.get? n = some parent
  found : c.get? name = some m

/-- The last module of a line is found if all before it are. -/
theorem findFrom_ok_iff {names : List Text} {above : Option (Text × CodeModule)} :
    c.findFrom above (names ++ [name]) = .ok m ↔ (∀ n ∈ names, ∃ found, c.get? n = some found) ∧ c.get? name = some m := by
  induction names generalizing above with
  | nil =>
      simp only [List.nil_append, findFrom]
      cases c.get? name with
      | none => simp
      | some found => simp
  | cons n names ih =>
      simp only [List.cons_append, findFrom, List.forall_mem_cons]
      cases hfound : c.get? n with
      | none => simp
      | some found => simp [ih]

/-- A line ends at a module that is not found. -/
theorem findFrom_error {names : List Text} {above : Option (Text × CodeModule)} (h : c.findFrom above names = .error fault) :
    ∃ name parent, fault = .noModule name parent := by
  induction names generalizing above with
  | nil =>
      cases above with
      | none =>
          cases h
          exact ⟨_, _, rfl⟩
      | some parent => cases h
  | cons n names ih =>
      simp only [findFrom] at h
      split at h
      · exact ih h
      · cases h
        exact ⟨_, _, rfl⟩

theorem findModule_ok_iff : c.findModule name = .ok m ↔ c.Imports name m := by
  unfold findModule
  split
  · rename_i hrelative
    exact iff_of_false nofun fun himports => himports.absolute hrelative
  · rename_i habsolute
    rw [lineage, findFrom_ok_iff]
    constructor
    · rintro ⟨habove, hfound⟩
      refine ⟨habsolute, fun n below hname => ?_, hfound⟩
      have hmem : n ∈ lineage name := mem_lineage_iff.2 (Or.inr ⟨below, hname⟩)
      rcases List.mem_append.1 hmem with hbefore | hself
      · exact habove n hbefore
      · exact ⟨m, (List.mem_singleton.1 hself).symm ▸ hfound⟩
    · rintro ⟨-, habove, hfound⟩
      refine ⟨fun n hn => ?_, hfound⟩
      rcases mem_lineage_iff.1 (List.mem_append_left _ hn) with rfl | ⟨below, hname⟩
      · exact ⟨m, hfound⟩
      · exact habove n below hname

/-! ## Paths -/

/-- The colon between the two parts of a path. -/
def colon : CodePoint := CodePoint.ofChar ':'

/-- A path that is cut at its first colon into two parts, neither of which is empty. -/
structure CutsInto (path name member : Text) : Prop where
  parts : path = name ++ colon :: member
  first : colon ∉ name
  named : name ≠ []
  membered : member ≠ []

/-- **A path that names a factory**: its first part is the name of a module that can be imported, its second part the name of a
    member of the module that can be called. -/
def NamesFactory (c : Catalogue) (path origin : Text) : Prop :=
  ∃ name member m, CutsInto path name member ∧ c.Imports name m ∧ m.members.get? member = some (.callable origin)

/-- A path whose first part is the name of a module relative to another. -/
def IsRelative (path : Text) : Prop := ∃ name member, CutsInto path name member ∧ name.head? = some dot

theorem CutsInto.unique {name' member' : Text} (h : CutsInto path name member) (h' : CutsInto path name' member') :
    name' = name ∧ member' = member := by
  have hsplit := Text.splitFirst?_eq_some_iff.2 ⟨h.parts, h.first⟩
  rw [Text.splitFirst?_eq_some_iff.2 ⟨h'.parts, h'.first⟩] at hsplit
  exact Prod.mk.inj (Option.some.inj hsplit)

/-- A module below another one cannot be called. -/
theorem member?_callable_iff :
    c.member? name m member = some (.callable origin) ↔ m.members.get? member = some (.callable origin) := by
  unfold member?
  split
  · rename_i found hfound
    rw [hfound]
  · rename_i hnone
    rw [hnone]
    simp

/-- A path that is cut in two is looked up by its parts. -/
theorem loadFactory_of_cutsInto (h : CutsInto path name member) :
    c.loadFactory path = (do
      let m ← c.findModule name
      match c.member? name m member with
      | none => .error (.noMember name member)
      | some .value => .error (.notCallable path)
      | some (.callable origin) => .ok origin) := by
  have hsplit : path.splitFirst? (CodePoint.ofChar ':') = some (name, member) :=
    Text.splitFirst?_eq_some_iff.2 ⟨h.parts, h.first⟩
  have hboth : ¬ (name.isEmpty || member.isEmpty) = true := by simp [h.named, h.membered]
  unfold loadFactory
  rw [hsplit]
  exact if_neg hboth

/-- A path that is not cut in two is malformed. -/
theorem loadFactory_of_not_cutsInto (h : ∀ name member, ¬ CutsInto path name member) :
    c.loadFactory path = .error (.malformed path) := by
  unfold loadFactory
  split
  · rfl
  · rename_i name member hsplit
    obtain ⟨hparts, hfirst⟩ := Text.splitFirst?_eq_some_iff.1 hsplit
    split
    · rfl
    · rename_i hboth
      simp only [Bool.or_eq_true, List.isEmpty_iff, not_or] at hboth
      exact absurd ⟨hparts, hfirst, hboth.1, hboth.2⟩ (h name member)

/-- **A factory is loaded** exactly from the paths that name it. -/
theorem loadFactory_ok_iff : c.loadFactory path = .ok origin ↔ c.NamesFactory path origin := by
  by_cases hcuts : ∃ name member, CutsInto path name member
  · obtain ⟨name, member, hcuts⟩ := hcuts
    have hnames : c.NamesFactory path origin ↔ ∃ m, c.Imports name m ∧ m.members.get? member = some (.callable origin) := by
      constructor
      · rintro ⟨name', member', m, hcuts', himports, hmember⟩
        obtain ⟨rfl, rfl⟩ := hcuts.unique hcuts'
        exact ⟨m, himports, hmember⟩
      · rintro ⟨m, himports, hmember⟩
        exact ⟨name, member, m, hcuts, himports, hmember⟩
    have hcallable : ∀ m : CodeModule, m.members.get? member = some (.callable origin) ↔
        c.member? name m member = some (.callable origin) := fun m => member?_callable_iff.symm
    rw [hnames, loadFactory_of_cutsInto hcuts]
    simp only [← findModule_ok_iff, hcallable]
    cases c.findModule name with
    | error fault => simp [bind, Except.bind]
    | ok m =>
        simp only [bind, Except.bind, Except.ok.injEq, exists_eq_left']
        cases c.member? name m member with
        | none => simp
        | some found => cases found <;> simp
  · rw [loadFactory_of_not_cutsInto fun name member h => hcuts ⟨name, member, h⟩]
    refine iff_of_false nofun ?_
    rintro ⟨name, member, m, h, -⟩
    exact hcuts ⟨name, member, h⟩

end Catalogue

/-! ## Failures -/

/-- The failures that who loads a factory answers for: those of a path and those of an import, but not that of a name that is
    relative to a module. -/
def LoadFault.IsAnsweredFor : LoadFault → Prop
  | .relative _ => False
  | _ => True

namespace Catalogue

variable {c : Catalogue} {path name : Text} {fault : LoadFault}

/-- The failure to find a module is that of a relative name exactly if its name is relative. -/
theorem isAnsweredFor_of_findModule (h : c.findModule name = .error fault) :
    fault.IsAnsweredFor ↔ name.head? ≠ some dot := by
  unfold findModule at h
  split at h
  · rename_i hrelative
    cases h
    exact iff_of_false id (not_not_intro hrelative)
  · rename_i habsolute
    obtain ⟨name, parent, rfl⟩ := findFrom_error h
    exact iff_of_true trivial habsolute

/-- **A failure to load is answered for** exactly if the path is not relative. -/
theorem isAnsweredFor_iff (h : c.loadFactory path = .error fault) : fault.IsAnsweredFor ↔ ¬ IsRelative path := by
  by_cases hcuts : ∃ name member, CutsInto path name member
  · obtain ⟨name, member, hcuts⟩ := hcuts
    have hrelative : IsRelative path ↔ name.head? = some dot := by
      constructor
      · rintro ⟨name', member', hcuts', hhead⟩
        obtain ⟨rfl, rfl⟩ := hcuts.unique hcuts'
        exact hhead
      · exact fun hhead => ⟨name, member, hcuts, hhead⟩
    rw [hrelative]
    rw [loadFactory_of_cutsInto hcuts] at h
    cases hmodule : c.findModule name with
    | error other =>
        rw [hmodule] at h
        cases h
        exact isAnsweredFor_of_findModule hmodule
    | ok m =>
        have habsolute := (findModule_ok_iff.1 hmodule).absolute
        simp only [hmodule, bind, Except.bind] at h
        split at h
        · cases h
          exact iff_of_true trivial habsolute
        · cases h
          exact iff_of_true trivial habsolute
        · cases h
  · rw [loadFactory_of_not_cutsInto fun name member hcut => hcuts ⟨name, member, hcut⟩] at h
    cases h
    refine iff_of_true trivial ?_
    rintro ⟨name, member, hcut, -⟩
    exact hcuts ⟨name, member, hcut⟩

/-- A failure that nobody answers for is that of a relative name. -/
theorem eq_relative_of_not_isAnsweredFor {fault : LoadFault} (h : ¬ fault.IsAnsweredFor) : ∃ name, fault = .relative name := by
  cases fault with
  | relative name => exact ⟨name, rfl⟩
  | _ => exact absurd trivial h

end Catalogue

end WebhookBridge
