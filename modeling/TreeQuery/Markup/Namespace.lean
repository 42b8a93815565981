import TreeQuery.Markup.Token

/-!
# Namespaces of markup

A qualifier stands for a namespace that the element itself or an element around it declares.
Namespaces decide which names may be used at all and which attributes of an element have the same
name; afterwards they are forgotten, and names are local names.

## Main definitions

* `TreeQuery.Markup.Scope` — the qualifiers in force and their namespaces.
* `TreeQuery.Markup.resolve` — the scope and the attributes of an element from its raw
  attributes.
-/

namespace TreeQuery.Markup

open Text

/-- The qualifiers in force and their namespaces, innermost first. -/
abbrev Scope := List (Text × Text)

/-- The namespace that the qualifier `xml` always has. -/
def xmlNamespace : Text := "http://www.w3.org/XML/1998/namespace".toList

/-- The namespace of namespace declarations, which nothing may be declared to be. -/
def declarationNamespace : Text := "http://www.w3.org/2000/xmlns/".toList

/-- The qualifier of namespace declarations. -/
def declarationQualifier : Text := "xmlns".toList

/-- The qualifier that is always bound. -/
def xmlQualifier : Text := "xml".toList

/-- The namespace of a qualifier in a scope. -/
def Scope.find? (scope : Scope) (qualifier : Text) : Option Text :=
  (List.find? (fun entry => entry.1 = qualifier) scope).map Prod.snd

/-- Declares a namespace for a qualifier, `declared` being what the element has declared
before. -/
def declareQualifier (declared : Scope) (qualifier space : Text) : Except Problem Scope :=
  if space = declarationNamespace then .error .reservedNamespace
  else if (qualifier == xmlQualifier) != (space == xmlNamespace) then .error .reservedNamespace
  else if (declared.find? qualifier).isSome then .error (.repeatedAttribute qualifier)
  else if space = xmlNamespace then .ok declared
  else .ok (declared ++ [(qualifier, space)])

/-- Checks the namespace of unqualified tags, which is not needed any further. -/
def checkDefault (space : Text) : Except Problem Unit :=
  if space = xmlNamespace ∨ space = declarationNamespace then .error .reservedNamespace
  else .ok ()

/-- Separates the declarations of an element from its other attributes, whose values are read on
the way. -/
def separate (declared : Scope) :
    List RawAttribute → Except Problem (Scope × List (QName × Text))
  | [] => .ok (declared, [])
  | (name, raw) :: attributes => do
    let value ← attributeOfRaw raw
    if name.qualifier = declarationQualifier then
      separate (← declareQualifier declared name.name value) attributes
    else if name.name = declarationQualifier then
      checkDefault value
      separate declared attributes
    else
      let (declared, others) ← separate declared attributes
      return (declared, (name, value) :: others)

/-- The namespace of an attribute. Without a qualifier it has none. -/
def attributeNamespace (scope : Scope) (qualifier : Text) : Except Problem (Option Text) :=
  if qualifier.isEmpty then .ok none
  else if qualifier = xmlQualifier then .ok (some xmlNamespace)
  else match scope.find? qualifier with
    | some space => .ok (some space)
    | none => .error (.unboundQualifier qualifier)

/-- Checks that all attributes have namespaces and no two of them the same name, `before` being
the namespaces and names of those before them. -/
def checkAttributes (scope : Scope) (before : List (Option Text × Text)) :
    List (QName × Text) → Except Problem Unit
  | [] => .ok ()
  | (name, _) :: attributes => do
    let full := (← attributeNamespace scope name.qualifier, name.name)
    if before.contains full then throw (.repeatedAttribute name.name)
    checkAttributes scope (full :: before) attributes

/-- Checks that the qualifier of a tag is bound. -/
def checkTag (scope : Scope) (tag : QName) : Except Problem Unit :=
  if tag.qualifier.isEmpty then .ok ()
  else match scope.find? tag.qualifier with
    | some _ => .ok ()
    | none => .error (.unboundQualifier tag.qualifier)

/-- The scope inside an element and its attributes, from the scope around it. -/
def resolve (outer : Scope) (tag : QName) (raw : List RawAttribute) :
    Except Problem (Scope × List (QName × Text)) := do
  let (declared, attributes) ← separate [] raw
  let scope := declared ++ outer
  checkAttributes scope [] attributes
  checkTag scope tag
  return (scope, attributes)

end TreeQuery.Markup
