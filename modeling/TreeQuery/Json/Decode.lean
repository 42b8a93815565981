import TreeQuery.Json.Raw

/-!
# From data texts to values and records

Two ways to take a data text apart. A *free* value is decoded as it stands: every number must
have a value, every string a text, and arrays and objects may be nested only so deeply. A
*record* has fields with known names; it is given as an object, whose unknown members are passed
over whatever they hold, or as an array of the fields in order, whose last fields may be left
out.

## Main definitions

* `TreeQuery.Json.depthLimit` — how deeply arrays and objects may be nested.
* `TreeQuery.Json.Raw.decode` — the free value of a structure.
* `TreeQuery.Json.Raw.fields` — the fields of a record.
* `TreeQuery.Json.parse` — the free value of a text.

## Main results

* `TreeQuery.Json.Raw.width_of_fields` — a field is narrower than its record.
-/

namespace TreeQuery.Json

open Text

/-- How deeply arrays and objects may be nested, the outermost one counted. -/
def depthLimit : Nat := 127

/-! ## Free values -/

mutual

/-- The free value of a structure in which `levels` nested arrays and objects are allowed. -/
def Raw.decode (levels : Nat) : Raw → Except Problem Json
  | .null => .ok .null
  | .bool b => .ok (.bool b)
  | .number n => n.value?.elim (.error .numberTooLarge) .ok
  | .string text => text.elim (.error .loneSurrogate) fun t => .ok (.string t)
  | .array items =>
    if levels = 0 then .error .tooDeep
    else (decodeItems (levels - 1) items).map .array
  | .object members =>
    if levels = 0 then .error .tooDeep
    else (decodeMembers (levels - 1) [] members).map .object

/-- The values of the items of an array. -/
def decodeItems (levels : Nat) : List Raw → Except Problem (List Json)
  | [] => .ok []
  | item :: items => do
    let value ← item.decode levels
    let values ← decodeItems levels items
    return value :: values

/-- The fields of an object, added to those before them. Of two fields with one name the later
one counts. -/
def decodeMembers (levels : Nat) (before : Table Text Json) :
    List (Option Text × Raw) → Except Problem (Table Text Json)
  | [] => .ok before
  | (name, item) :: members => do
    let name ← name.elim (.error .loneSurrogate) .ok
    let value ← item.decode levels
    decodeMembers levels (before.put name value) members

end

/-- The free value of a whole text. -/
def parse (s : Text) : Except Problem Json :=
  match Raw.parse? s with
  | none => .error .malformed
  | some raw => raw.decode depthLimit

/-! ## Records -/

/-- The first member with the given name. -/
def member? (name : Text) : List (Option Text × Raw) → Option Raw
  | [] => none
  | (n, item) :: members => if n = some name then some item else member? name members

/-- The number of members with the given name. -/
def countMember (name : Text) (members : List (Option Text × Raw)) : Nat :=
  (members.filter fun m => m.1 = some name).length

/-- The fields of a record in the order of their names, each present or not. -/
def Raw.fields (names : List Text) : Raw → Except Problem (List (Option Raw))
  | .array items =>
    if names.length < items.length then .error .tooManyItems
    else .ok ((List.range names.length).map fun i => items[i]?)
  | .object members =>
    if members.any fun m => m.1.isNone then .error .loneSurrogate
    else match names.find? fun name => 1 < countMember name members with
      | some name => .error (.repeatedField name)
      | none => .ok (names.map fun name => member? name members)
  | _ => .error (.wrongKind "a record".toList)

/-- The text of a string. -/
def Raw.text : Raw → Except Problem Text
  | .string text => text.elim (.error .loneSurrogate) .ok
  | _ => .error (.wrongKind "a string".toList)

/-- A field that must be there. -/
def required (name : Text) (field : Option Raw) : Except Problem Raw :=
  field.elim (.error (.missingField name)) .ok

/-- A field that may be left out or null. -/
def optional {α : Type} (read : Raw → Except Problem α) : Option Raw → Except Problem (Option α)
  | none => .ok none
  | some .null => .ok none
  | some raw => (read raw).map some

/-! ## Fields are narrower than their record -/

theorem width_lt_of_mem_items {item : Raw} {items : List Raw} (h : item ∈ items) :
    item.width < itemsWidth items := by
  induction items with
  | nil => simp at h
  | cons first items ih =>
    simp only [itemsWidth]
    rcases List.mem_cons.1 h with rfl | h
    · omega
    · have := ih h
      omega

theorem width_lt_of_member? {name : Text} {item : Raw} {members : List (Option Text × Raw)}
    (h : member? name members = some item) : item.width < membersWidth members := by
  induction members with
  | nil => simp [member?] at h
  | cons first members ih =>
    obtain ⟨n, v⟩ := first
    simp only [membersWidth]
    unfold member? at h
    split at h
    · simp only [Option.some.injEq] at h
      subst h
      omega
    · have := ih h
      omega

/-- A field of a record is narrower than the record. -/
theorem Raw.width_of_fields {names : List Text} {raw : Raw} {fields : List (Option Raw)}
    (h : raw.fields names = .ok fields) {field : Raw} (hf : some field ∈ fields) :
    field.width < raw.width := by
  unfold Raw.fields at h
  split at h
  · rename_i items
    split at h
    · simp at h
    · simp only [Except.ok.injEq] at h
      subst h
      obtain ⟨i, -, hi⟩ := List.mem_map.1 hf
      have := width_lt_of_mem_items (List.mem_of_getElem? hi)
      simp only [Raw.width]
      omega
  · rename_i members
    split at h
    · simp at h
    · split at h
      · simp at h
      · simp only [Except.ok.injEq] at h
        subst h
        obtain ⟨name, -, hi⟩ := List.mem_map.1 hf
        have := width_lt_of_member? hi
        simp only [Raw.width]
        omega
  · simp at h

/-- The text of a string is shorter than the string is wide. -/
theorem Raw.length_of_text {raw : Raw} {t : Text} (h : raw.text = .ok t) :
    t.length < raw.width := by
  unfold Raw.text at h
  split at h
  · rename_i text
    cases text with
    | none => simp at h
    | some u =>
      simp only [Option.elim_some, Except.ok.injEq] at h
      subst h
      simp [Raw.width, stringWidth]
  · simp at h

end TreeQuery.Json
