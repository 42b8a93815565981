import TreeQuery.Pseudo.Builtin
import TreeQuery.Text.Word

/-!
# Registries of pseudo-selectors

A registry says which pseudo-selector a name stands for. Registering a name again replaces what
it stood for; names are never removed.

## Main definitions

* `TreeQuery.Registry` — pseudo-selectors under their names.
* `TreeQuery.Registry.standard` — the registry of the built-in ones.
* `TreeQuery.Registry.register` — one more name, with the notices it gives rise to.
-/

namespace TreeQuery

/-- Pseudo-selectors under their names. -/
structure Registry where
  entries : Table Text Pseudo

namespace Registry

/-- The registry without any name. -/
def empty : Registry := ⟨[]⟩

/-- What a name stands for. -/
def find? (r : Registry) (name : Text) : Option Pseudo := r.entries.get? name

/-- The registered names, sorted. -/
def names (r : Registry) : List Text := r.entries.keys

/-- The registry in which `name` stands for `pseudo`. -/
def insert (r : Registry) (name : Text) (pseudo : Pseudo) : Registry :=
  ⟨r.entries.put name pseudo⟩

/-- Whether a name looks as if no occurrence could have it: it is empty or holds a character that
is neither alphanumeric nor an underscore. -/
def seemsUnmatchable (name : Text) : Bool :=
  name.isEmpty || !name.all fun c => Text.isAlphanumeric c || c == '_'

/-- The notices of registering a name. -/
def registrationNotices (r : Registry) (name : Text) : List Notice :=
  (if seemsUnmatchable name then [.unmatchableName name] else []) ++
    if (r.find? name).isSome then [.registeredAgain name] else []

/-- Registers a pseudo-selector under a name. -/
def register (r : Registry) (name : Text) (pseudo : Pseudo) : Registry × List Notice :=
  (r.insert name pseudo, r.registrationNotices name)

/-- The registry of the built-in pseudo-selectors. -/
def standard : Registry :=
  Pseudo.builtins.foldl (fun r entry => r.insert entry.1 entry.2) empty

end Registry

end TreeQuery
