import Mathlib.Algebra.Group.Int.Defs
import Mathlib.Order.Lattice
import Mathlib.Tactic.Lemma
import TreeQuery.Json.Decode
import TreeQuery.Json.Printer
import TreeQuery.Proofs.Text.Reading

set_option relaxedAutoImplicit false
set_option autoImplicit false

/-!
# Reading back what was written

The written form of a data value is read as the structure of the value, whatever stands behind
it, and the structure is decoded to the value again. This is proved for the values without
doubles. A double is written with the fewest digits that single it out but read in steps of which
each rounds, so that nothing of the kind holds for doubles in general.

The readers are bounded by fuel. Each step of a reader is paid for by half a character of the
text that it reads, which is what twice the length of the text provides.

## Main definitions

* `TreeQuery.Json.Plain` — values without doubles whose integers are in the range of the readers
  and whose objects are tables.
* `TreeQuery.Json.toRaw` — the structure that the written form of a value has.
* `TreeQuery.Json.depth` — how deeply arrays and objects are nested in a value.

## Main results

* `TreeQuery.Json.Raw.parse?_render` — the written form of a value has the structure of the value.
* `TreeQuery.Json.decode_toRaw` — the structure of a value is decoded to the value if it is not
  nested too deeply, and else rejected for that reason only.
* `TreeQuery.Json.parse_render` — both together: reading undoes writing.
-/

namespace TreeQuery.Json

open Text

/-! ## Values and their structure -/

/-- Values without doubles. An integer is in the range that readers keep apart from doubles, and
the fields of an object are in the order of their names, each name once. -/
inductive Plain : Json → Prop
  | null : Plain .null
  | bool (b : Bool) : Plain (.bool b)
  | int {n : Int} (least : -2 ^ 63 ≤ n) (most : n < 2 ^ 64) : Plain (.int n)
  | string (s : Text) : Plain (.string s)
  | array {items : List Json} (parts : ∀ item ∈ items, Plain item) : Plain (.array items)
  | object {fields : List (Text × Json)} (sorted : fields.Pairwise fun e f => e.1 < f.1)
      (parts : ∀ f ∈ fields, Plain f.2) : Plain (.object fields)

/-- The decimal digits of a number, the most significant first. -/
def decimal (n : Nat) : List Nat := (Nat.toDigits 10 n).filterMap digit?

mutual

/-- The structure of the written form of a value. -/
def toRaw : Json → Raw
  | .null => .null
  | .bool b => .bool b
  | .int n => .number ⟨n < 0, decimal n.natAbs, none, none⟩
  | .double x => .number ((numeral? x.render).elim ⟨false, [], none, none⟩ Prod.fst)
  | .string s => .string (some s)
  | .array items => .array (rawItems items)
  | .object fields => .object (rawMembers fields)

/-- The structures of the items of an array. -/
def rawItems : List Json → List Raw
  | [] => []
  | item :: items => item.toRaw :: rawItems items

/-- The structures of the fields of an object. -/
def rawMembers : List (Text × Json) → List (Option Text × Raw)
  | [] => []
  | (name, value) :: fields => (some name, value.toRaw) :: rawMembers fields

end

mutual

/-- How deeply arrays and objects are nested, the outermost one counted. -/
def depth : Json → Nat
  | .array items => itemsDepth items + 1
  | .object fields => fieldsDepth fields + 1
  | _ => 0

/-- The greatest depth of an item. -/
def itemsDepth : List Json → Nat
  | [] => 0
  | item :: items => max item.depth (itemsDepth items)

/-- The greatest depth of the value of a field. -/
def fieldsDepth : List (Text × Json) → Nat
  | [] => 0
  | (_, value) :: fields => max value.depth (fieldsDepth fields)

end

/-! ## Spaces -/

lemma skipSpace_cons {c : Char} (hc : isSpace c = false) (s : Text) :
    skipSpace (c :: s) = c :: s := List.dropWhile_cons_of_neg (by simp [hc])

/-! ## Numerals -/

/-- The characters that a numeral can go on with. -/
def continuesNumeral (c : Char) : Bool := c.isDigit || c == '.' || c == 'e' || c == 'E'

lemma ofDigits_filterMap_digit? {cs : List Char} (h : ∀ c ∈ cs, c.isDigit = true) :
    ofDigits (cs.filterMap digit?) = Nat.ofDigitChars 10 cs 0 := by
  rw [Nat.ofDigitChars_eq_foldl, ofDigits]
  generalize 0 = start
  induction cs generalizing start with
  | nil => rfl
  | cons c cs ih =>
    have hc : digit? c = some (c.toNat - '0'.toNat) := by simp [digit?, h c]
    rw [List.filterMap_cons_some hc, List.foldl_cons, List.foldl_cons]
    exact ih (fun b hb => h b (by simp [hb])) _

/-- The first character of a written number, which has only digits. -/
lemma exists_toDigits_eq_cons (n : Nat) :
    ∃ c s, Nat.toDigits 10 n = c :: s ∧ ∀ b ∈ c :: s, b.isDigit = true := by
  obtain ⟨c, s, hcs⟩ := List.exists_cons_of_ne_nil (Nat.toDigits_ne_nil (n := n) (b := 10))
  exact ⟨c, s, hcs, fun b hb => Nat.isDigit_of_mem_toDigits (by decide) (by decide) (hcs ▸ hb)⟩

lemma ofDigits_decimal (n : Nat) : ofDigits (decimal n) = n := by
  rw [decimal, ofDigits_filterMap_digit? fun c hc =>
    Nat.isDigit_of_mem_toDigits (by decide) (by decide) hc, Nat.ofDigitChars_ten_toDigits]

/-- A number other than zero is not written with a zero in front. -/
lemma head?_toDigits_ne_zero {n : Nat} (hn : n ≠ 0) : (Nat.toDigits 10 n).head? ≠ some '0' := by
  induction n using Nat.strongRecOn with
  | _ n ih =>
    rw [Nat.toDigits_eq_if (by decide)]
    split
    · simpa using hn
    · rw [List.head?_append, Option.or_of_isSome (by simp [Nat.toDigits_ne_nil])]
      exact ih (n / 10) (by omega) (by omega)

/-- The first character of a written integer. -/
lemma exists_renderInt_eq_cons (n : Int) :
    ∃ c s, renderInt n = c :: s ∧ (c = '-' ∨ c.isDigit = true) := by
  cases n with
  | ofNat n =>
    obtain ⟨c, s, hcs, hd⟩ := exists_toDigits_eq_cons n
    exact ⟨c, s, hcs, .inr (hd c (by simp))⟩
  | negSucc n => exact ⟨'-', _, rfl, .inl rfl⟩

lemma whole?_toDigits (n : Nat) {rest : Text} (hr : Stops Char.isDigit rest) :
    whole? (Nat.toDigits 10 n ++ rest) = some (decimal n, rest) := by
  by_cases hn : n = 0
  · subst hn
    rfl
  obtain ⟨c, s, hcs, hd⟩ := exists_toDigits_eq_cons n
  have hc : c ≠ '0' := by
    rintro rfl
    exact head?_toDigits_ne_zero hn (by rw [hcs]; rfl)
  have hfirst : digit? c = some (c.toNat - '0'.toNat) := by simp [digit?, hd c]
  have hdigits : digits (c :: s ++ rest) = (decimal n, rest) := by
    rw [digits, takeWhile_append_of_stops hd hr, dropWhile_append_of_stops hd hr, decimal, hcs]
  rw [decimal, hcs, List.filterMap_cons_some hfirst] at hdigits ⊢
  rw [List.cons_append] at hdigits ⊢
  simp [whole?, hc, digits?, hdigits]

lemma stops_isDigit {rest : Text} (hr : Stops continuesNumeral rest) :
    Stops Char.isDigit rest := fun c hc => by
  have := hr c hc
  simp_all [continuesNumeral]

/-- A numeral ends where it has neither a point nor an exponent mark. -/
lemma fraction?_of_stops {rest : Text} (hr : Stops continuesNumeral rest) :
    fraction? rest = some (none, rest) := by
  cases rest with
  | nil => rfl
  | cons c rest =>
    have hc : c ≠ '.' := by
      rintro rfl
      simp [continuesNumeral] at hr
    simp [fraction?, hc]

lemma exponent?_of_stops {rest : Text} (hr : Stops continuesNumeral rest) :
    exponent? rest = some (none, rest) := by
  cases rest with
  | nil => rfl
  | cons c rest =>
    have hc : ¬ (c = 'e' ∨ c = 'E') := by
      rintro (rfl | rfl) <;> simp [continuesNumeral] at hr
    simp [exponent?, hc]

lemma numeral?_renderInt (n : Int) {rest : Text} (hr : Stops continuesNumeral rest) :
    numeral? (renderInt n ++ rest) =
      some (⟨n < 0, decimal n.natAbs, none, none⟩, rest) := by
  have hw := fun m => whole?_toDigits m (stops_isDigit hr)
  cases n with
  | ofNat n =>
    obtain ⟨c, s, hcs, hd⟩ := exists_toDigits_eq_cons n
    have hc : c ≠ '-' := by
      rintro rfl
      simpa using hd '-' (by simp)
    have hs : sign (Nat.toDigits 10 n ++ rest) = (false, Nat.toDigits 10 n ++ rest) := by
      simp [hcs, sign, hc]
    simp [numeral?, renderInt, hs, hw, fraction?_of_stops hr, exponent?_of_stops hr]
  | negSucc n =>
    simp [numeral?, renderInt, sign, hw, fraction?_of_stops hr, exponent?_of_stops hr]

/-- An integer in the range of the readers has its value back. -/
lemma value?_of_int {n : Int} (least : -2 ^ 63 ≤ n) (most : n < 2 ^ 64) :
    Numeral.value? ⟨n < 0, decimal n.natAbs, none, none⟩ = some (.int n) := by
  simp only [Numeral.value?, ofDigits_decimal, UInt64.size, decide_eq_true_eq]
  split
  · have hm : n.natAbs ≤ Nat.pow 2 63 := by
      simp only [Nat.pow_eq]
      omega
    have hn : -(n.natAbs : Int) = n := by omega
    rw [if_pos ⟨by omega, hm⟩, hn]
  · have hn : (n.natAbs : Int) = n := by omega
    rw [if_pos (by omega), hn]

/-! ## Strings -/

/-- The unit that a character of a string is written as. Control characters without a short
escape are written by their code. -/
def writtenUnit (c : Char) : StringUnit :=
  if c.toNat < 0x20 ∧ c ∉ ['\x08', '\x0c', '\n', '\r', '\t'] then .code c.toNat else .char c

lemma hexCode?_of_control : ∀ n < 0x20,
    hexCode? '0' '0' (Nat.digitChar (n / 16)) (Nat.digitChar (n % 16)) = some n := by
  decide

lemma stringUnits?_renderChar (c : Char) (s : Text) :
    stringUnits? (renderChar c ++ s) =
      (stringUnits? s).map fun (units, rest) => (writtenUnit c :: units, rest) := by
  by_cases hs : c ∈ ['"', '\\', '\x08', '\x0c', '\n', '\r', '\t']
  · simp only [List.mem_cons, List.not_mem_nil, or_false] at hs
    rcases hs with rfl | rfl | rfl | rfl | rfl | rfl | rfl <;>
      cases h : stringUnits? s <;>
      simp [renderChar, writtenUnit, stringUnits?, shortEscape?, h]
  simp only [List.mem_cons, List.not_mem_nil, or_false, not_or] at hs
  by_cases hc : c.toNat < 0x20
  · have hw : writtenUnit c = .code c.toNat := by simp [writtenUnit, hc, hs]
    have hr : renderChar c =
        ['\\', 'u', '0', '0', Nat.digitChar (c.toNat / 16), Nat.digitChar (c.toNat % 16)] := by
      simp [renderChar, hc, hs]
    cases h : stringUnits? s <;> simp [hw, hr, stringUnits?, hexCode?_of_control _ hc, h]
  · have hw : writtenUnit c = .char c := by simp [writtenUnit, hc]
    have hr : renderChar c = [c] := by simp [renderChar, hc, hs]
    cases h : stringUnits? s <;> simp [hw, hr, stringUnits?, hc, hs, h]

lemma stringUnits?_flatMap_renderChar (s rest : Text) :
    stringUnits? (s.flatMap renderChar ++ '"' :: rest) = some (s.map writtenUnit, rest) := by
  induction s with
  | nil => simp [stringUnits?]
  | cons c s ih => simp [stringUnits?_renderChar, ih]

/-- A code outside the surrogates stands for its character, whatever follows. -/
lemma unitsText?_code {n : Nat} (hn : n < 0xd800) (units : List StringUnit) :
    unitsText? (.code n :: units) = (unitsText? units).map (Char.ofNat n :: ·) := by
  have hlow : ¬ 0xd800 ≤ n := by omega
  have hhigh : ¬ 0xdc00 ≤ n := by omega
  rcases units with - | ⟨c | low, units⟩ <;> simp [unitsText?, hlow, hhigh]

lemma unitsText?_writtenUnit (c : Char) (units : List StringUnit) :
    unitsText? (writtenUnit c :: units) = (unitsText? units).map (c :: ·) := by
  unfold writtenUnit
  split
  · rename_i hc
    rw [unitsText?_code (by omega), Char.ofNat_toNat]
  · rw [unitsText?]

lemma unitsText?_map_writtenUnit (s : Text) : unitsText? (s.map writtenUnit) = some s := by
  induction s with
  | nil => rfl
  | cons c s ih => rw [List.map_cons, unitsText?_writtenUnit, ih, Option.map_some]

/-- A written string is read to its closing quote and has its text back. -/
lemma string?_flatMap_renderChar (s rest : Text) :
    string? (s.flatMap renderChar ++ '"' :: rest) = some (some s, rest) := by
  simp only [string?, stringUnits?_flatMap_renderChar, Option.map_some, unitsText?_map_writtenUnit]

lemma memberName?_renderString (name rest : Text) :
    memberName? (renderString name ++ ':' :: rest) = some (some name, rest) := by
  simp [memberName?, renderString, skipSpace_cons, isSpace, string?_flatMap_renderChar]

/-! ## Values -/

/-- The characters that the written form of a value begins with. -/
def beginsValue (c : Char) : Bool := c ∈ ['n', 't', 'f', '"', '[', '\x7b', '-'] || c.isDigit

lemma not_isSpace_of_beginsValue {c : Char} (hc : beginsValue c = true) : isSpace c = false := by
  rw [Bool.eq_false_iff]
  intro hs
  simp only [isSpace, Bool.or_eq_true, beq_iff_eq] at hs
  rcases hs with ((rfl | rfl) | rfl) | rfl <;> revert hc <;> decide

lemma beginsValue_of_number {c : Char} (hc : c = '-' ∨ c.isDigit = true) :
    beginsValue c = true := by
  rcases hc with rfl | hc
  · decide
  · simp [beginsValue, hc]

/-- The written form of a value begins at once, without a space or a closing bracket. -/
lemma Plain.exists_render_eq_cons {j : Json} (hj : j.Plain) :
    ∃ c s, render j = c :: s ∧ beginsValue c = true := by
  cases hj with
  | null => exact ⟨_, _, rfl, by decide⟩
  | bool b => cases b <;> exact ⟨_, _, rfl, by decide⟩
  | int least most =>
    obtain ⟨c, s, hcs, hc⟩ := exists_renderInt_eq_cons _
    exact ⟨c, s, hcs, beginsValue_of_number hc⟩
  | string s => exact ⟨_, _, rfl, by decide⟩
  | array parts => rename_i items; cases items <;> exact ⟨_, _, rfl, by decide⟩
  | object sorted parts => rename_i fields; cases fields <;> exact ⟨_, _, rfl, by decide⟩

/-- The value has its structure back, in whatever fuel pays for its text and whatever follows. -/
def ReadsBack (j : Json) : Prop :=
  ∀ (fuel : Nat) (rest : Text), 2 * (render j).length ≤ fuel → Stops continuesNumeral rest →
    value? fuel (render j ++ rest) = some (j.toRaw, rest)

/-- A text that begins with a minus sign or a digit is read as a numeral. -/
lemma value?_of_numeral? {fuel : Nat} {c : Char} {s rest : Text} {n : Numeral}
    (hc : c = '-' ∨ c.isDigit = true) (h : numeral? (c :: s) = some (n, rest)) :
    value? (fuel + 1) (c :: s) = some (.number n, rest) := by
  have hne : ∀ b ∈ ['"', '[', '\x7b', 'n', 't', 'f'], b ≠ c := by
    have hb : ∀ b ∈ ['"', '[', '\x7b', 'n', 't', 'f'], ¬ (b = '-' ∨ b.isDigit = true) := by simp
    rintro b hm rfl
    exact hb b hm hc
  simp only [List.mem_cons, List.not_mem_nil, or_false, forall_eq_or_imp, forall_eq] at hne
  obtain ⟨hquote, hbracket, hbrace, hwords⟩ := hne
  have hs : skipSpace (c :: s) = c :: s :=
    skipSpace_cons (not_isSpace_of_beginsValue (beginsValue_of_number hc)) s
  have hk : keyword? (c :: s) = none := by simp [keyword?, after?, hwords]
  simp [value?, hs, hk, h, hquote.symm, hbracket.symm, hbrace.symm]

lemma exists_fuel {length fuel : Nat} (h : 2 * (length + 1) ≤ fuel) :
    ∃ k, fuel = k + 1 ∧ 2 * length ≤ k := ⟨fuel - 1, by omega, by omega⟩

lemma readsBack_null : ReadsBack .null := by
  intro fuel rest hf _
  obtain ⟨k, rfl, -⟩ := exists_fuel hf
  simp [render, value?, skipSpace_cons, isSpace, keyword?, after?, toRaw]

lemma readsBack_bool (b : Bool) : ReadsBack (.bool b) := by
  intro fuel rest hf _
  cases b <;> obtain ⟨k, rfl, -⟩ := exists_fuel hf <;>
    simp [render, value?, skipSpace_cons, isSpace, keyword?, after?, toRaw]

lemma readsBack_int (n : Int) : ReadsBack (.int n) := by
  intro fuel rest hf hr
  obtain ⟨c, s, hcs, hc⟩ := exists_renderInt_eq_cons n
  have hn := numeral?_renderInt n hr
  rw [render, hcs] at hf
  obtain ⟨k, rfl, -⟩ := exists_fuel hf
  rw [hcs, List.cons_append] at hn
  rw [render, hcs, List.cons_append, value?_of_numeral? hc hn, toRaw]

lemma readsBack_string (s : Text) : ReadsBack (.string s) := by
  intro fuel rest hf _
  obtain ⟨k, rfl, -⟩ := exists_fuel hf
  simp [render, renderString, value?, skipSpace_cons, isSpace, string?_flatMap_renderChar, toRaw]

/-- What follows an item of an array does not go on a numeral. -/
lemma stops_renderItems (items : List Json) (rest : Text) :
    Stops continuesNumeral (renderItems items ++ rest) := by
  cases items <;> simp [renderItems, continuesNumeral]

lemma stops_renderFields (fields : List (Text × Json)) (rest : Text) :
    Stops continuesNumeral (renderFields fields ++ rest) := by
  cases fields <;> simp [renderFields, continuesNumeral]

/-- The items of an array are read back if each of them is. -/
lemma items?_renderItems (item : Json) (items : List Json)
    (parts : ∀ i ∈ item :: items, i.ReadsBack) (fuel : Nat) (rest : Text)
    (hf : 2 * (render item ++ renderItems items).length ≤ fuel) :
    items? fuel (render item ++ renderItems items ++ rest) =
      some (rawItems (item :: items), rest) := by
  induction items generalizing item fuel with
  | nil =>
    rw [List.length_append] at hf
    obtain ⟨k, rfl, hk⟩ := exists_fuel hf
    have hv := parts item (by simp) k _ hk (stops_renderItems [] rest)
    rw [List.append_assoc, items?, hv]
    simp [renderItems, rawItems, skipSpace_cons, isSpace]
  | cons next items ih =>
    have hl : (render item ++ renderItems (next :: items)).length =
        (render item).length + (render next ++ renderItems items).length + 1 := by
      simp [renderItems]
      omega
    rw [hl] at hf
    obtain ⟨k, rfl, hk⟩ := exists_fuel hf
    have hv := parts item (by simp) k _ (by omega) (stops_renderItems (next :: items) rest)
    have hi := ih next (fun i hi => parts i (by simp_all)) k (by omega)
    rw [List.append_assoc] at hi
    rw [List.append_assoc, items?, hv]
    simp [renderItems, rawItems, skipSpace_cons, isSpace, hi]

/-- The fields of an object are read back if the value of each of them is. -/
lemma members?_renderFields (name : Text) (value : Json) (fields : List (Text × Json))
    (parts : ∀ f ∈ (name, value) :: fields, f.2.ReadsBack) (fuel : Nat) (rest : Text)
    (hf : 2 * (render value ++ renderFields fields).length ≤ fuel) :
    members? fuel (renderString name ++ ':' :: (render value ++ renderFields fields ++ rest)) =
      some (rawMembers ((name, value) :: fields), rest) := by
  induction fields generalizing name value fuel with
  | nil =>
    rw [List.length_append] at hf
    obtain ⟨k, rfl, hk⟩ := exists_fuel hf
    have hv := parts (name, value) (by simp) k _ hk (stops_renderFields [] rest)
    rw [List.append_assoc, members?, memberName?_renderString]
    simp only [hv]
    simp [renderFields, rawMembers, skipSpace_cons, isSpace]
  | cons next fields ih =>
    obtain ⟨nextName, next⟩ := next
    have hl : (render value ++ renderFields ((nextName, next) :: fields)).length =
        (render value).length + (renderString nextName).length +
          (render next ++ renderFields fields).length + 2 := by
      simp [renderFields]
      omega
    rw [hl] at hf
    obtain ⟨k, rfl, hk⟩ := exists_fuel hf
    have hv := parts (name, value) (by simp) k _ (by simp only; omega)
      (stops_renderFields ((nextName, next) :: fields) rest)
    have hi := ih nextName next (fun i hi => parts i (by simp_all)) k (by omega)
    rw [List.append_assoc] at hi
    rw [List.append_assoc, members?, memberName?_renderString]
    simp only [hv]
    simp [renderFields, rawMembers, skipSpace_cons, isSpace, hi]

lemma readsBack_array {items : List Json} (plain : ∀ item ∈ items, item.Plain)
    (parts : ∀ item ∈ items, item.ReadsBack) : ReadsBack (.array items) := by
  intro fuel rest hf _
  cases items with
  | nil =>
    obtain ⟨k, rfl, -⟩ := exists_fuel hf
    simp [render, value?, skipSpace_cons, isSpace, toRaw, rawItems]
  | cons item items =>
    obtain ⟨k, rfl, hk⟩ := exists_fuel hf
    have hi := items?_renderItems item items parts k rest hk
    obtain ⟨c, s, hcs, hc⟩ := (plain item (by simp)).exists_render_eq_cons
    have hb : c ≠ ']' := by
      rintro rfl
      revert hc
      decide
    have hs := skipSpace_cons (not_isSpace_of_beginsValue hc)
    simp only [hcs, List.cons_append, List.append_assoc] at hi
    simp [render, hcs, value?, skipSpace_cons (c := '['), isSpace, hs, hb, hi, toRaw]

lemma readsBack_object {fields : List (Text × Json)} (parts : ∀ f ∈ fields, f.2.ReadsBack) :
    ReadsBack (.object fields) := by
  intro fuel rest hf _
  cases fields with
  | nil =>
    obtain ⟨k, rfl, -⟩ := exists_fuel hf
    simp [render, value?, skipSpace_cons, isSpace, toRaw, rawMembers]
  | cons f fields =>
    obtain ⟨name, value⟩ := f
    obtain ⟨k, rfl, hk⟩ := exists_fuel hf
    have hm := members?_renderFields name value fields parts k rest (by simp at hk ⊢; omega)
    simp_all [render, renderString, value?, skipSpace_cons, isSpace, toRaw]

/-- Every value without doubles is read back.

**Proof sketch.** Induction on the value. What follows an item of an array or the value of a
field is a separator or a bracket, so that no numeral goes on there, and the separator pays for
the step to the next part. -/
theorem Plain.readsBack {j : Json} (hj : j.Plain) : j.ReadsBack := by
  induction hj with
  | null => exact readsBack_null
  | bool b => exact readsBack_bool b
  | int => exact readsBack_int _
  | string s => exact readsBack_string s
  | array parts ih => exact readsBack_array parts ih
  | object _ _ ih => exact readsBack_object ih

/-- The written form of a value has the structure of the value. -/
theorem Raw.parse?_render {j : Json} (hj : j.Plain) : Raw.parse? (render j) = some j.toRaw := by
  have h := hj.readsBack (2 * (render j).length + 2) [] (by omega) (stops_nil _)
  rw [List.append_nil] at h
  rw [Raw.parse?, h]
  rfl

/-! ## Decoding -/

/-- A key after all others is written at the end of the table. -/
lemma put_of_forall_lt {α : Type} {t : Table Text α} {name : Text} {value : α}
    (h : ∀ e ∈ t, e.1 < name) : t.put name value = t ++ [(name, value)] := by
  induction t with
  | nil => rfl
  | cons e t ih =>
    have he : e.1 < name := h e (by simp)
    have hne : name ≠ e.1 := fun hn => List.lt_irrefl name (hn ▸ he)
    rw [Table.put, if_neg hne, if_neg (List.lt_asymm he), ih fun e he => h e (by simp [he]),
      List.cons_append]

/-- The outcome of decoding a structure that is nested too deeply or not at all too deeply. -/
def withinDepth {α : Type} (value : α) (depth levels : Nat) : Except Problem α :=
  if depth ≤ levels then .ok value else .error .tooDeep

/-- The structure of the value is decoded to the value, unless it is nested too deeply. -/
def DecodesBack (j : Json) : Prop :=
  ∀ levels, j.toRaw.decode levels = withinDepth j j.depth levels

lemma decodeItems_rawItems {items : List Json} (parts : ∀ item ∈ items, item.DecodesBack)
    (levels : Nat) :
    decodeItems levels (rawItems items) = withinDepth items (itemsDepth items) levels := by
  induction items with
  | nil => simp [rawItems, decodeItems, itemsDepth, withinDepth]
  | cons item items ih =>
    have hi : item.toRaw.decode levels = _ := parts item (by simp) levels
    rw [rawItems, decodeItems, hi, ih fun i hi => parts i (by simp [hi])]
    by_cases h₁ : item.depth ≤ levels <;> by_cases h₂ : itemsDepth items ≤ levels <;>
      simp [withinDepth, itemsDepth, h₁, h₂, bind, Except.bind, pure, Except.pure]

lemma decodeMembers_rawMembers (before fields : List (Text × Json))
    (sorted : (before ++ fields).Pairwise fun e f => e.1 < f.1)
    (parts : ∀ f ∈ fields, f.2.DecodesBack) (levels : Nat) :
    decodeMembers levels before (rawMembers fields) =
      withinDepth (before ++ fields) (fieldsDepth fields) levels := by
  induction fields generalizing before with
  | nil => simp [rawMembers, decodeMembers, fieldsDepth, withinDepth]
  | cons f fields ih =>
    obtain ⟨name, value⟩ := f
    have hv : value.toRaw.decode levels = _ := parts (name, value) (by simp) levels
    have hp : Table.put name value before = before ++ [(name, value)] := put_of_forall_lt
      fun e he => (List.pairwise_append.1 sorted).2.2 e he (name, value) (by simp)
    have hi := ih (before ++ [(name, value)]) (by simpa using sorted)
      fun f hf => parts f (by simp [hf])
    rw [rawMembers, decodeMembers, hv]
    by_cases h₁ : value.depth ≤ levels <;> by_cases h₂ : fieldsDepth fields ≤ levels <;>
      simp [withinDepth, fieldsDepth, h₁, h₂, hp, hi, bind, Except.bind]

/-- The structure of a value is decoded to the value if its arrays and objects are nested in at
most as many levels as are allowed, and is too deep otherwise. -/
theorem decode_toRaw {j : Json} (hj : j.Plain) : j.DecodesBack := by
  induction hj with
  | null | bool | string =>
    intro levels
    simp [toRaw, Raw.decode, depth, withinDepth]
  | int least most =>
    intro levels
    simp [toRaw, Raw.decode, depth, withinDepth, value?_of_int least most]
  | array parts ih =>
    intro levels
    cases levels with
    | zero => simp [toRaw, Raw.decode, depth, withinDepth]
    | succ levels =>
      rw [toRaw, Raw.decode, if_neg (by simp), Nat.add_sub_cancel, decodeItems_rawItems ih]
      simp only [withinDepth, depth, Nat.add_le_add_iff_right]
      split <;> rfl
  | object sorted parts ih =>
    intro levels
    cases levels with
    | zero => simp [toRaw, Raw.decode, depth, withinDepth]
    | succ levels =>
      rw [toRaw, Raw.decode, if_neg (by simp), Nat.add_sub_cancel,
        decodeMembers_rawMembers [] _ sorted ih]
      simp only [withinDepth, depth, Nat.add_le_add_iff_right]
      split <;> rfl

/-- A written value is read as the value, unless it is nested too deeply. -/
theorem parse_render {j : Json} (hj : j.Plain) :
    parse (render j) = withinDepth j j.depth depthLimit := by
  rw [parse, Raw.parse?_render hj]
  exact decode_toRaw hj depthLimit

end TreeQuery.Json
