import TreeQuery.Proofs.Engine.Parse
import TreeQuery.Proofs.Text.Trimming

set_option relaxedAutoImplicit false
set_option autoImplicit false

/-!
# Values as they are written

The rules of the escaping describe what may stand between the double quotes of an occurrence with
the default template, and what it stands for: a backslash with any character, of which only another
backslash and a double quote lose the backslash, and any other character but the double quote. Such
a value is recognised and decoded unit by unit, with one exception. A backslash in front of a line
feed is a unit by the rules, but the reader of values does not take a line feed along with a
backslash. Then it finds no value at all, and no occurrence either: the whole text is left as native
text.

## Main definitions

* `TreeQuery.Template.ValueUnit` — the units of a written value, their text and what they stand for.
* `TreeQuery.Template.quoting` — a selector that is one occurrence with a value of units.

## Main results

* `TreeQuery.Template.value?_units` — the reader of values on a value of units.
* `TreeQuery.Template.unescape_units` — what a value of units stands for.
* `TreeQuery.Engine.parse_quoting` — how a selector of one occurrence is taken apart.
* `TreeQuery.Engine.escapedLineFeed_hidesOccurrence` — a value that is not recognised.
-/

namespace TreeQuery

open Text

namespace Template

/-! ## Units -/

/-- A unit of a value between double quotes, by the rules of the escaping. -/
inductive ValueUnit
  /-- A backslash with the character behind it. -/
  | escaped (c : Char)
  /-- A character by itself. -/
  | plain (c : Char) (hb : c ≠ '\\') (hq : c ≠ '"')
  deriving DecidableEq

namespace ValueUnit

/-- The unit as it is written. -/
def text : ValueUnit → Text
  | escaped c => ['\\', c]
  | plain c _ _ => [c]

/-- What the unit stands for. Only in front of a backslash and of a double quote a backslash is
dropped. -/
def decoded : ValueUnit → Text
  | escaped '\\' => ['\\']
  | escaped '"' => ['"']
  | escaped c => ['\\', c]
  | plain c _ _ => [c]

lemma decoded_of_ne {c : Char} (hb : c ≠ '\\') (hq : c ≠ '"') :
    (escaped c).decoded = ['\\', c] := by
  unfold decoded
  split <;> simp_all

end ValueUnit

open ValueUnit

/-- The selector that is one occurrence with the default template, its value being written in
units. -/
def quoting (name : Text) (us : List ValueUnit) : Text :=
  "advanced-selector-".toList ++ name ++ "(\"".toList ++ us.flatMap text ++ "\")".toList

/-! ## The reader of values -/

/-- The reader of values takes a backslash and the character behind it along, unless that is a line
feed. -/
lemma value?_escaped (c : Char) (s : Text) :
    value? Template.default.closing ((escaped c).text ++ s) =
      if c = '\n' then none
      else (value? Template.default.closing s).map fun (v, r) => ((escaped c).text ++ v, r) := by
  show value? Template.default.closing ('\\' :: c :: s) = _
  have hafter : after? Template.default.closing ('\\' :: c :: s) = none := rfl
  rw [value?.eq_def]
  simp only [hafter, if_true]
  rfl

/-- The reader of values takes a character along that is neither a backslash nor a double quote. -/
lemma value?_plain {c : Char} (hb : c ≠ '\\') (hq : c ≠ '"') (s : Text) :
    value? Template.default.closing ((plain c hb hq).text ++ s) =
      (value? Template.default.closing s).map fun (v, r) => ((plain c hb hq).text ++ v, r) := by
  show value? Template.default.closing (c :: s) = _
  have hafter : after? Template.default.closing (c :: s) = none := by
    rw [after?_eq_none_iff]
    rintro ⟨rest, h⟩
    exact hq (List.cons.inj h).1.symm
  rw [value?.eq_def]
  simp only [hafter, if_neg hb]
  rfl

/-- **A value of units is read to its end**, unless one of the units is a backslash in front of a
line feed; then nothing is read. -/
theorem value?_units (us : List ValueUnit) (rest : Text) :
    value? Template.default.closing (us.flatMap text ++ (Template.default.closing ++ rest)) =
      if escaped '\n' ∈ us then none else some (us.flatMap text, rest) := by
  induction us with
  | nil => rfl
  | cons u us ih =>
    rw [List.flatMap_cons, List.append_assoc]
    cases u with
    | escaped c =>
      rw [value?_escaped, ih]
      by_cases hc : c = '\n'
      · rw [if_pos hc, if_pos (by simp [hc])]
      · have hmem : escaped '\n' ∈ escaped c :: us ↔ escaped '\n' ∈ us := by simp [Ne.symm hc]
        simp only [if_neg hc, hmem]
        split <;> rfl
    | plain c hb hq =>
      have hmem : escaped '\n' ∈ plain c hb hq :: us ↔ escaped '\n' ∈ us := by simp
      rw [value?_plain hb hq, ih]
      simp only [hmem]
      split <;> rfl

/-! ## Unescaping -/

lemma unescape_escaped (c : Char) (s : Text) :
    unescape ['"'] ('\\' :: c :: s) = (escaped c).decoded ++ unescape ['"'] s := by
  by_cases hb : c = '\\'
  · subst hb
    simp [unescape, decoded]
  rw [unescape.eq_3 _ _ (fun _ h => hb (List.cons.inj h).1)]
  by_cases hq : c = '"'
  · subst hq
    split
    · rename_i rest h
      rw [afterWrapper?_singleton, if_pos rfl, Option.some.injEq] at h
      rw [← h]
      rfl
    · rename_i h
      simp [afterWrapper?_singleton] at h
  · split
    · rename_i rest h
      rw [afterWrapper?_singleton, if_neg (Ne.symm hq)] at h
      simp at h
    · rw [unescape.eq_4 _ _ _ (fun _ h _ => hb h) hb, decoded_of_ne hb hq]
      rfl

/-- **A value of units stands for what its units stand for**, one after the other. -/
theorem unescape_units (us : List ValueUnit) :
    unescape ['"'] (us.flatMap text) = us.flatMap decoded := by
  induction us with
  | nil => simp
  | cons u us ih =>
    rw [List.flatMap_cons, List.flatMap_cons, ← ih]
    cases u with
    | escaped c => exact unescape_escaped c _
    | plain c hb hq => exact unescape.eq_4 _ _ _ (fun _ h _ => hb h) hb

/-! ## Occurrences in the selector -/

lemma quoting_eq_written (name : Text) (us : List ValueUnit) :
    quoting name us = Template.default.written ⟨name, us.flatMap text⟩ := by
  have hopen : "(\"".toList = ['(', '"'] := by decide
  have hclose : "\")".toList = ['"', ')'] := by decide
  have hlead : Template.default.lead = "advanced-selector-".toList := rfl
  have htrail : Template.default.trail = [] := rfl
  have hwrapper : Template.default.wrapper = ['"'] := rfl
  unfold quoting written
  rw [hopen, hclose, htrail, hwrapper, hlead]
  generalize "advanced-selector-".toList = lead
  simp

/-- A value without an escaped line feed makes the selector one occurrence. -/
lemma decompose_quoting {name : Text} (hne : name ≠ []) (hword : ∀ c ∈ name, isWord c = true)
    {us : List ValueUnit} (h : escaped '\n' ∉ us) :
    Template.default.decompose (quoting name us) =
      .cons [] ⟨name, us.flatMap text⟩ (.last []) := by
  have hread := value?_units us []
  rw [if_neg h, List.append_nil] at hread
  obtain ⟨-, hunits, hshort⟩ := value?_sound hread
  have hoccurrence : occurrence? Template.default (quoting name us) =
      some (⟨name, us.flatMap text⟩, []) :=
    occurrence?_eq_some_iff.2
      ⟨by rw [quoting_eq_written, List.append_nil], ⟨hne, hword, hunits⟩, hshort⟩
  rw [decompose_of_occurrence? hoccurrence, decompose_nil]

/-! ## Where an occurrence may begin -/

/-- An opening parenthesis in a unit is its last character. -/
lemma eq_nil_of_text {u : ValueUnit} {a b : Text} (h : u.text = a ++ '(' :: b) : b = [] := by
  cases u with
  | plain c hb hq =>
    have hlength := congrArg List.length h
    simp only [ValueUnit.text, List.length_cons, List.length_append, List.length_nil] at hlength
    exact List.length_eq_zero_iff.1 (by omega)
  | escaped c =>
    cases a with
    | nil => simp [ValueUnit.text] at h
    | cons c' a =>
      have hlength := congrArg List.length h
      simp only [ValueUnit.text, List.length_cons, List.length_append, List.length_nil] at hlength
      exact List.length_eq_zero_iff.1 (by omega)

/-- If a value of units with the closing wrapper behind it begins with a double quote, that is the
closing wrapper. -/
lemma eq_of_units_eq_quote {us : List ValueUnit} {b : Text}
    (h : us.flatMap text ++ Template.default.closing = '"' :: b) : b = [')'] := by
  cases us with
  | nil => exact (List.cons.inj h).2.symm
  | cons u us =>
    cases u with
    | escaped c => exact absurd (List.cons.inj h).1 (by decide)
    | plain c hb hq => exact absurd (List.cons.inj h).1 hq

/-- In a value of units with the closing wrapper behind it no double quote follows an opening
parenthesis directly, unless it is the last one: all others are escaped. -/
lemma not_mem_of_opening {us : List ValueUnit} {a b : Text}
    (h : us.flatMap text ++ Template.default.closing = a ++ '(' :: '"' :: b) : '"' ∉ b := by
  induction us generalizing a with
  | nil =>
    have hclosing : ['"', ')'] = a ++ '(' :: '"' :: b := h
    cases a with
    | nil => simp at hclosing
    | cons c a =>
      have hlength := congrArg List.length hclosing
      simp only [List.length_cons, List.length_append, List.length_nil] at hlength
      omega
  | cons u us ih =>
    rw [List.flatMap_cons, List.append_assoc] at h
    rcases List.append_eq_append_iff.1 h with ⟨a', -, hrest⟩ | ⟨x, hu, hrest⟩
    · exact ih hrest
    · cases x with
      | nil => exact ih (a := []) hrest.symm
      | cons c x =>
        obtain ⟨rfl, hquote⟩ := List.cons.inj hrest
        obtain rfl := eq_nil_of_text hu
        rw [eq_of_units_eq_quote hquote.symm]
        decide

/-- Behind a text without an opening parenthesis a value of units is opened at one place only. -/
lemma eq_of_opening {us : List ValueUnit} {w a b : Text} (hw : '(' ∉ w) (hb : '"' ∈ b)
    (h : w ++ '(' :: '"' :: (us.flatMap text ++ Template.default.closing) =
      a ++ '(' :: '"' :: b) : us.flatMap text ++ Template.default.closing = b := by
  rcases List.append_eq_append_iff.1 h with ⟨a', -, hrest⟩ | ⟨x, rfl, hrest⟩
  · rcases a' with _ | ⟨c, _ | ⟨c', a'⟩⟩
    · exact (List.cons.inj (List.cons.inj hrest).2).2
    · exact absurd (List.cons.inj (List.cons.inj hrest).2).1 (by decide)
    · exact absurd hb (not_mem_of_opening (List.cons.inj (List.cons.inj hrest).2).2)
  · cases x with
    | nil => exact (List.cons.inj (List.cons.inj hrest).2).2.symm
    | cons c x =>
      obtain ⟨rfl, -⟩ := List.cons.inj hrest
      simp at hw

/-- If an occurrence with the default template stands somewhere in the selector, the reader of
values finds its value behind the opening wrapper of the selector. -/
lemma isSome_value?_of_begins {name z y : Text} (hword : ∀ c ∈ name, isWord c = true)
    {us : List ValueUnit} (hy : quoting name us = z ++ y) (h : Template.default.Begins y) :
    (value? Template.default.closing (us.flatMap text ++ Template.default.closing)).isSome =
      true := by
  obtain ⟨⟨name', raw⟩, rest, hwf, rfl⟩ := h
  have hopen : isWord '(' = false := by decide +kernel
  have hname : '(' ∉ name := fun hc => by simpa [hopen] using hword '(' hc
  have hlead : '(' ∉ Template.default.lead := by decide
  have hw : '(' ∉ Template.default.lead ++ name := by simp [hname, hlead]
  have htext : Template.default.lead ++ name ++
      '(' :: '"' :: (us.flatMap text ++ Template.default.closing) =
      z ++ (Template.default.lead ++ name') ++
        '(' :: '"' :: (raw ++ Template.default.closing ++ rest) := by
    have htrail : Template.default.trail = [] := rfl
    have hwrapper : Template.default.wrapper = ['"'] := rfl
    rw [quoting_eq_written] at hy
    simpa [written, closing, htrail, hwrapper] using hy
  have hmem : '"' ∈ raw ++ Template.default.closing ++ rest := by
    have hquote : '"' ∈ Template.default.closing := by decide
    simp [hquote]
  rw [eq_of_opening hw hmem htext]
  exact isSome_value? Template.default.closing_ne_nil hwf.units_raw rest

/-- A value with an escaped line feed hides the occurrence: nothing is found in the selector. -/
lemma decompose_quoting_of_lineFeed {name : Text} (hword : ∀ c ∈ name, isWord c = true)
    {us : List ValueUnit} (h : escaped '\n' ∈ us) :
    Template.default.decompose (quoting name us) = .last (quoting name us) := by
  have hread := value?_units us []
  rw [if_pos h, List.append_nil] at hread
  have hnowhere : Decomposition.NowhereIn Template.default.Begins (quoting name us) [] := by
    refine .of_forall fun z y hy hbegins => ?_
    have hsome := isSome_value?_of_begins hword hy hbegins
    rw [hread] at hsome
    exact Bool.false_ne_true hsome
  exact decompose_text (g := .last (quoting name us)) ⟨trivial, hnowhere⟩

/-- The selector neither begins nor ends with a blank. -/
lemma trim_quoting (name : Text) (us : List ValueUnit) :
    trim (quoting name us) = quoting name us := by
  have hbegin : Stops isBlank (quoting name us) := by
    rw [quoting_eq_written]
    exact stops_cons.2 (by decide)
  have hend : EndsSolid (quoting name us) := by
    have hclose : EndsSolid [')'] := ⟨')', rfl, by decide⟩
    rw [quoting_eq_written, written]
    exact hclose.append _
  have hnone : ∀ c ∈ ([] : Text), isBlank c = true := by simp
  simpa using trim_append_append hnone hnone hbegin hend

end Template

namespace Engine

open Template ValueUnit

/-! ## Taking the selector apart -/

/-- **Values are recognised and decoded unit by unit, but for an escaped line feed.** The name is
made of one or more word characters, and the value is any sequence of units. If none of them is a
backslash in front of a line feed, the selector is one occurrence: its base is empty, and the name
is looked up with what the units stand for, one after the other. If one of them is, nothing is found
in the selector, and the whole of it is left as its base.

**Proof sketch.** Scanning finds the occurrence if the reader of values finds the value
(`value?_units`). If it does not, no other occurrence can be found either, because inside the value
all double quotes are escaped and so none opens a value (`isSome_value?_of_begins`). -/
theorem parse_quoting (registry : Registry) {name : Text} (hne : name ≠ [])
    (hword : ∀ c ∈ name, isWord c = true) (us : List ValueUnit) :
    let q : Engine := ⟨.default, registry⟩
    let s := quoting name us
    (escaped '\n' ∉ us → q.TakesApart s [] [⟨name, us.flatMap decoded⟩]) ∧
      (escaped '\n' ∈ us → q.TakesApart s s []) := by
  intro q s
  have htakes := q.takesApart_decompose s
  refine ⟨fun h => ?_, fun h => ?_⟩
  · have hdecompose : q.template.decompose s = .cons [] ⟨name, us.flatMap text⟩ (.last []) :=
      decompose_quoting hne hword h
    have hlookup : q.template.lookup ⟨name, us.flatMap text⟩ = ⟨name, us.flatMap decoded⟩ :=
      congrArg (Lookup.mk name) (unescape_units us)
    have htrim : trim [] = [] := rfl
    rw [hdecompose] at htakes
    simpa [Decomposition.fragments, Decomposition.items, hlookup, htrim] using htakes
  · have hdecompose : q.template.decompose s = .last s := decompose_quoting_of_lineFeed hword h
    rw [hdecompose] at htakes
    simpa [Decomposition.fragments, Decomposition.items, s, trim_quoting] using htakes

/-- A value with each kind of unit: the escaped wrapper is followed by a closing parenthesis, and
another carriage return is escaped than the one that stands by itself. -/
theorem parse_quoting_eachKind :
    let us : List ValueUnit := [.escaped '"', .plain ')' (by decide) (by decide), .escaped '\\',
      .escaped '\r', .plain '\n' (by decide) (by decide), .escaped 'n',
      .plain '(' (by decide) (by decide)]
    quoting "exact".toList us = "advanced-selector-exact(\"\\\")\\\\\\\r\n\\n(\")".toList ∧
      TakesApart ⟨.default, .standard⟩ (quoting "exact".toList us) []
        [⟨"exact".toList, "\")\\\\\r\n\\n(".toList⟩] := by
  intro us
  have hword : "exact".toList.all isWord = true := by decide +kernel
  have hdecoded : us.flatMap decoded = "\")\\\\\r\n\\n(".toList := by decide
  refine ⟨by decide, ?_⟩
  rw [← hdecoded]
  exact (parse_quoting .standard (by decide) (List.all_eq_true.1 hword) us).1 (by decide)

/-- **An escaped line feed hides the occurrence.** By the rules of the escaping the value stands for
a backslash and a line feed between two letters; but nothing is looked up, and the whole selector is
left as its base. -/
theorem escapedLineFeed_hidesOccurrence :
    let us : List ValueUnit := [.plain 'x' (by decide) (by decide), .escaped '\n',
      .plain 'y' (by decide) (by decide)]
    let s := quoting "exact".toList us
    s = "advanced-selector-exact(\"x\\\ny\")".toList ∧
      us.flatMap decoded = ['x', '\\', '\n', 'y'] ∧
      TakesApart ⟨.default, .standard⟩ s s [] ∧
      ¬ TakesApart ⟨.default, .standard⟩ s [] [⟨"exact".toList, us.flatMap decoded⟩] := by
  intro us s
  have hword : "exact".toList.all isWord = true := by decide +kernel
  have hdecompose : Template.default.decompose s = .last s :=
    decompose_quoting_of_lineFeed (List.all_eq_true.1 hword) (by decide)
  have htakes := takesApart_decompose ⟨.default, .standard⟩ s
  rw [hdecompose] at htakes
  have hnothing : TakesApart ⟨.default, .standard⟩ s s [] := by
    simpa [Decomposition.fragments, Decomposition.items, s, trim_quoting] using htakes
  refine ⟨by decide, rfl, hnothing, ?_⟩
  rintro ⟨calls, hparse, -⟩
  obtain ⟨calls', hparse', -⟩ := hnothing
  have hbase : s = [] := by
    have hresult := congrArg Eval.result (hparse'.symm.trans hparse)
    exact congrArg Parsed.base (Except.ok.inj hresult)
  exact absurd hbase (by decide)

end Engine

end TreeQuery
