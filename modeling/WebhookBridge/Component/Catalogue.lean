import WebhookBridge.Table
import WebhookBridge.Text.Quoted

/-!
# The catalogue of components

A component is named by a path `module:member`, which is cut at its first colon. Modules have dotted names; a module is
found only if every module above it is found first, and only a package has modules below it. A component can be used
as a factory if it can be called.

## Contents

* `Member`, `CodeModule`, `Catalogue`: what there is;
* `LoadFault`: why a path names no factory;
* `Catalogue.findModule`, `Catalogue.member?`: looking up;
* `Catalogue.loadFactory`: the factory that a path names.
-/

namespace WebhookBridge

/-! ## What there is -/

/-- A member of a module: something that can be called, by the full name that it was defined under, or a plain
    value. -/
inductive Member where
  | callable (origin : Text)
  | value
  deriving DecidableEq, Repr

/-- A module: whether it is a package, and its members. -/
structure CodeModule where
  isPackage : Bool
  members : Table Member

/-- Modules by their dotted names. -/
abbrev Catalogue := Table CodeModule

/-- Why a path names no factory. -/
inductive LoadFault where
  /-- The path is not of the form `module:member`. -/
  | malformed (path : Text)
  /-- The module has a name relative to another module. -/
  | relative (name : Text)
  /-- There is no module of a name. The module above it is given where that is no package. -/
  | noModule (name : Text) (parent : Option Text)
  /-- The module has no such member. -/
  | noMember (name member : Text)
  /-- The member cannot be called. -/
  | notCallable (path : Text)
  deriving DecidableEq, Repr

/-- The text of a load fault. -/
def LoadFault.message : LoadFault → Text
  | .malformed path => ("runtime factory must look like 'module:callable', got " : Text) ++ path.quoted
  | .relative name =>
    ("the 'package' argument is required to perform a relative import for " : Text) ++ name.quoted
  | .noModule name parent =>
    ("No module named " : Text) ++ name.quoted ++
      (match parent with
        | some parent => ("; " : Text) ++ parent.quoted ++ " is not a package"
        | none => [])
  | .noMember name member => ("module " : Text) ++ name.quoted ++ " has no attribute " ++ member.quoted
  | .notCallable path => path.quoted ++ " is not callable"

namespace Catalogue

/-- The dot between the parts of a module's name. -/
def dot : CodePoint := CodePoint.ofChar '.'

/-- The names of the modules above a module, from the top, and its own name at the end. -/
def lineage (name : Text) : List Text :=
  ((List.range name.length).filter fun n => name[n]? = some dot).map (name.take ·) ++ [name]

/-- The last module of a line, of which each is found before the next; `above` is the module above the first. -/
def findFrom (c : Catalogue) : (above : Option (Text × CodeModule)) → List Text → Except LoadFault CodeModule
  | none, [] => .error (.noModule [] none)
  | some (_, m), [] => .ok m
  | above, name :: rest =>
    match c.get? name with
    | some m => findFrom c (some (name, m)) rest
    | none => .error (.noModule name (above.bind fun (parent, m) => if m.isPackage then none else some parent))

/-- The module of a name. -/
def findModule (c : Catalogue) (name : Text) : Except LoadFault CodeModule :=
  if name.head? = some dot then .error (.relative name) else c.findFrom none (lineage name)

/-- The member of a module; the modules below it are among its members. -/
def member? (c : Catalogue) (name : Text) (m : CodeModule) (member : Text) : Option Member :=
  match m.members.get? member with
  | some found => some found
  | none => (c.get? (name ++ [dot] ++ member)).map fun _ => .value

/-- The full name of the factory that a path names. -/
def loadFactory (c : Catalogue) (path : Text) : Except LoadFault Text :=
  match path.splitFirst? (CodePoint.ofChar ':') with
  | none => .error (.malformed path)
  | some (name, member) =>
    if name.isEmpty || member.isEmpty then .error (.malformed path)
    else do
      let m ← c.findModule name
      match c.member? name m member with
      | none => .error (.noMember name member)
      | some .value => .error (.notCallable path)
      | some (.callable origin) => .ok origin

end Catalogue

end WebhookBridge
