import TreeQuery.Text.Basic
import TreeQuery.Text.CharRanges

/-!
# Characters and names of markup

Which characters may stand in a marked-up text at all, and what its names look like. The name of
an element or an attribute may be qualified: one colon separates its qualifier from its local
name.

## Main definitions

* `TreeQuery.Markup.isMarkupChar` — the characters that may stand in markup.
* `TreeQuery.Markup.name?` — a plain name, in which colons are letters.
* `TreeQuery.Markup.QName`, `TreeQuery.Markup.qname?` — a qualified name.
* `TreeQuery.Markup.Problem` — why a text is no document.
-/

namespace TreeQuery.Markup

open Text

/-- Why a text is no document. -/
inductive Problem
  /-- The text ends too early. -/
  | endOfText
  /-- Something stands where it may not stand. -/
  | misplaced
  /-- A character may not stand in markup. -/
  | badCharacter (c : Char)
  /-- A name is missing or begins with a wrong character. -/
  | badName
  /-- A document type declaration. -/
  | documentType
  /-- A reference is not complete, or refers to a character that may not stand in markup. -/
  | badReference
  /-- A reference to an entity that is not predefined. -/
  | unknownEntity (name : Text)
  /-- A qualifier that no namespace is bound to. -/
  | unboundQualifier (qualifier : Text)
  /-- A reserved namespace or qualifier is used for something else. -/
  | reservedNamespace
  /-- Two attributes of one element have the same name. -/
  | repeatedAttribute (name : Text)
  /-- An end tag does not belong to the element it would close. -/
  | wrongEndTag
  /-- There is no element. -/
  | noElement
  /-- An element is not closed. -/
  | unclosedElement
  deriving DecidableEq, Repr

/-- The wording of a problem. -/
def Problem.message : Problem → Text
  | endOfText => "unexpected end".toList
  | misplaced => "misplaced markup".toList
  | badCharacter c => "character not allowed: ".toList ++ hexDigits c.toNat
  | badName => "invalid name".toList
  | documentType => "document type declarations are not supported".toList
  | badReference => "malformed reference".toList
  | unknownEntity name => "unknown entity ".toList ++ name
  | unboundQualifier qualifier => "unbound qualifier ".toList ++ qualifier
  | reservedNamespace => "reserved namespace".toList
  | repeatedAttribute name => "repeated attribute ".toList ++ name
  | wrongEndTag => "wrong end tag".toList
  | noElement => "no element".toList
  | unclosedElement => "unclosed element".toList

/-! ## Characters -/

/-- The characters that may stand in markup: no control characters but the spaces, and not the
two noncharacters at the end of the basic plane. -/
def isMarkupChar (c : Char) : Bool :=
  if c.toNat < 0x20 then isSpace c else c.toNat != 0xfffe && c.toNat != 0xffff

/-- The letters that names may begin with, apart from the colon. -/
def nameStart : CharRanges :=
  [ (0x41, 0x5a), (0x5f, 0x5f), (0x61, 0x7a), (0xc0, 0xd6), (0xd8, 0xf6), (0xf8, 0x2ff),
    (0x370, 0x37d), (0x37f, 0x1fff), (0x200c, 0x200d), (0x2070, 0x218f), (0x2c00, 0x2fef),
    (0x3001, 0xd7ff), (0xf900, 0xfdcf), (0xfdf0, 0xfffd), (0x10000, 0xeffff) ]

/-- The characters that names may have after their first letter only. -/
def nameMiddle : CharRanges :=
  [ (0x2d, 0x2e), (0x30, 0x39), (0xb7, 0xb7), (0x300, 0x36f), (0x203f, 0x2040) ]

/-- Whether a name may begin with the character, the colon not being a letter. -/
def isNameStart (c : Char) : Bool := nameStart.holds c

/-- Whether a name may hold the character, the colon not being a letter. -/
def isNameChar (c : Char) : Bool := nameStart.holds c || nameMiddle.holds c

/-! ## Names -/

/-- A name in which colons count as letters. -/
def name? (s : Text) : Option (Text × Text) :=
  match s with
  | [] => none
  | c :: r =>
    if isNameStart c || c == ':' then
      some (c :: r.takeWhile fun d => isNameChar d || d == ':',
        r.dropWhile fun d => isNameChar d || d == ':')
    else none

/-- A name with a qualifier, which may be empty. -/
structure QName where
  qualifier : Text
  /-- The local name. -/
  name : Text
  deriving DecidableEq, Repr

/-- Whether the text begins with a letter that names may begin with. -/
def beginsName (s : Text) : Bool := s.head?.any isNameStart

/-- A qualified name. An empty qualifier in front of a colon is allowed, an empty local name and
a second colon are not. -/
def qname? (s : Text) : Option (QName × Text) :=
  let run := s.takeWhile fun c => isNameChar c || c == ':'
  let rest := s.dropWhile fun c => isNameChar c || c == ':'
  match pieces (· == ':') run with
  | [name] => if beginsName name then some (⟨[], name⟩, rest) else none
  | [qualifier, name] =>
    if (qualifier.isEmpty || beginsName qualifier) && beginsName name then
      some (⟨qualifier, name⟩, rest)
    else none
  | _ => none

theorem length_of_name? {s n rest : Text} (h : name? s = some (n, rest)) :
    rest.length ≤ s.length := by
  unfold name? at h
  split at h
  · simp at h
  · rename_i c r
    split at h
    · simp only [Option.some.injEq, Prod.mk.injEq] at h
      rw [← h.2, List.length_cons]
      exact Nat.le_succ_of_le (List.dropWhile_sublist _).length_le
    · simp at h

theorem length_of_qname? {s rest : Text} {n : QName} (h : qname? s = some (n, rest)) :
    rest.length ≤ s.length := by
  have hle := (List.dropWhile_sublist (fun c => isNameChar c || c == ':') (l := s)).length_le
  unfold qname? at h
  simp only at h
  split at h
  · split at h
    · simp only [Option.some.injEq, Prod.mk.injEq] at h
      rw [← h.2]
      exact hle
    · simp at h
  · split at h
    · simp only [Option.some.injEq, Prod.mk.injEq] at h
      rw [← h.2]
      exact hle
    · simp at h
  · simp at h

end TreeQuery.Markup
