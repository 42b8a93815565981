import TreeQuery.Markup.Name

/-!
# References and line ends

In texts and in attribute values a character is written as itself or as a reference. Characters
written as themselves are subject to rules about line ends and spaces, characters written as
references are not.

## Main definitions

* `TreeQuery.Markup.Chunk` — a character and how it is written.
* `TreeQuery.Markup.chunks` — a raw text as chunks.
* `TreeQuery.Markup.unifyLines` — the content of a text, with one kind of line end.
* `TreeQuery.Markup.flattenSpaces` — the value of an attribute, with one kind of space.
-/

namespace TreeQuery.Markup

open Text

/-- A character and how it is written. -/
inductive Chunk
  /-- Written as itself. -/
  | literal (c : Char)
  /-- Written as a reference. -/
  | reference (c : Char)
  deriving DecidableEq, Repr

/-! ## References -/

/-- The character of a predefined entity. -/
def entity? (name : Text) : Option Char :=
  if name = ['q', 'u', 'o', 't'] then some '"'
  else if name = ['a', 'm', 'p'] then some '&'
  else if name = ['a', 'p', 'o', 's'] then some '\''
  else if name = ['l', 't'] then some '<'
  else if name = ['g', 't'] then some '>'
  else none

/-- The character with a code point of 32 bits; the replacement character if there is none. -/
def charOfCode? (n : Nat) : Option Char :=
  if UInt32.size ≤ n then none
  else
    let c := if n.isValidChar then Char.ofNat n else '\ufffd'
    if isMarkupChar c then some c else none

/-- The digits at the beginning of a text as a number in the given base, and what follows. -/
def number? (base : Nat) (digit? : Char → Option Nat) (s : Text) : Option (Nat × Text) :=
  match s.takeWhile fun c => (digit? c).isSome with
  | [] => none
  | ds =>
    some ((ds.filterMap digit?).foldl (fun n d => base * n + d) 0,
      s.dropWhile fun c => (digit? c).isSome)

/-- The semicolon at the end of a reference. -/
def semicolon? (c : Char) : Text → Except Problem (Char × Text)
  | ';' :: rest => .ok (c, rest)
  | _ => .error .badReference

/-- A character given by its code point; the number sign has been read. -/
def numeric? (s : Text) : Except Problem (Char × Text) :=
  let number := match s with
    | 'x' :: s => number? 16 hexDigit? s
    | s => number? 10 Text.digit? s
  match number with
  | none => .error .badReference
  | some (n, s) =>
    match charOfCode? n with
    | none => .error .badReference
    | some c => semicolon? c s

/-- A reference whose ampersand has been read. -/
def reference? : Text → Except Problem (Char × Text)
  | '#' :: s => numeric? s
  | s =>
    match name? s with
    | none => .error .badReference
    | some (name, s) =>
      match entity? name with
      | some c => semicolon? c s
      | none => .error (.unknownEntity name)

theorem length_of_semicolon? {c d : Char} {s rest : Text} (h : semicolon? c s = .ok (d, rest)) :
    rest.length ≤ s.length := by
  unfold semicolon? at h
  split at h <;> simp_all

theorem length_of_number? {base : Nat} {digit? : Char → Option Nat} {s rest : Text} {n : Nat}
    (h : number? base digit? s = some (n, rest)) : rest.length ≤ s.length := by
  unfold number? at h
  split at h
  · simp at h
  · simp only [Option.some.injEq, Prod.mk.injEq] at h
    rw [← h.2]
    exact (List.dropWhile_sublist _).length_le

theorem length_of_numeric? {c : Char} {s rest : Text} (h : numeric? s = .ok (c, rest)) :
    rest.length ≤ s.length := by
  unfold numeric? at h
  simp only at h
  split at h
  · simp at h
  · rename_i n r hn
    split at h
    · simp at h
    · have h₁ := length_of_semicolon? h
      split at hn
      · have := length_of_number? hn
        simp only [List.length_cons]
        omega
      · have := length_of_number? hn
        omega

theorem length_of_reference? {c : Char} {s rest : Text} (h : reference? s = .ok (c, rest)) :
    rest.length ≤ s.length := by
  unfold reference? at h
  split at h
  · exact Nat.le_succ_of_le (length_of_numeric? h)
  · split at h
    · simp at h
    · rename_i name r hn
      split at h
      · exact Nat.le_trans (length_of_semicolon? h) (length_of_name? hn)
      · simp at h

/-- A raw text as chunks. -/
def chunks (s : Text) : Except Problem (List Chunk) :=
  match s with
  | [] => .ok []
  | '&' :: s =>
    match _h : reference? s with
    | .error e => .error e
    | .ok (c, rest) => (chunks rest).map (.reference c :: ·)
  | c :: s => (chunks s).map (.literal c :: ·)
termination_by s.length
decreasing_by
  · have := length_of_reference? ‹_›
    simp
    omega
  · simp

/-! ## Line ends and spaces -/

/-- The content of a text. A carriage return with the line feed behind it, and a carriage return
alone, become one line feed. A carriage return keeps what it is only where a reference
interrupts the characters written as themselves: directly in front of one, or as the last
character directly behind one. -/
def unifyLines (behindReference : Bool) : List Chunk → Text
  | [] => []
  | .reference c :: s => c :: unifyLines true s
  | .literal '\r' :: .literal '\n' :: s => unifyLines false (.literal '\n' :: s)
  | .literal '\r' :: .literal c :: s => '\n' :: unifyLines false (.literal c :: s)
  | .literal '\r' :: .reference c :: s => '\r' :: unifyLines false (.reference c :: s)
  | [.literal '\r'] => if behindReference then ['\r'] else ['\n']
  | .literal c :: s => c :: unifyLines false s

/-- The value of an attribute. A tab, a line feed, a carriage return, and a carriage return with
the line feed behind it become one space. -/
def flattenSpaces : List Chunk → Text
  | [] => []
  | .reference c :: s => c :: flattenSpaces s
  | .literal '\r' :: .literal '\n' :: s => flattenSpaces (.literal '\n' :: s)
  | .literal c :: s => (if isSpace c then ' ' else c) :: flattenSpaces s

/-- The content of a raw text. -/
def textOfRaw (s : Text) : Except Problem Text := (chunks s).map (unifyLines false)

/-- The content of a verbatim section, in which there are no references. -/
def textOfVerbatim (s : Text) : Text := unifyLines false (s.map .literal)

/-- The value of a raw attribute value. -/
def attributeOfRaw (s : Text) : Except Problem Text := (chunks s).map flattenSpaces

end TreeQuery.Markup
