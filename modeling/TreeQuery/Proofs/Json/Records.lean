import Mathlib.Data.List.Nodup
import TreeQuery.Context
import TreeQuery.Proofs.Json.Rendering

set_option relaxedAutoImplicit false
set_option autoImplicit false

/-!
# Rules and templates as data

A record is written as an object that has its fields under their names, or as an array of the
values of its fields. Both have the same fields for the reader, and so rules and templates that
were written in one way or the other are read back as they were. A branch that a rule does not
have is written as null, which is not the same as a branch whose value is null.

A rule is rejected only if its values make it nest too deeply. Reading a template as a patch
gives a patch of all tokens, and nothing of the template that it is applied to is left.

## Main definitions

* `TreeQuery.Json.RecordForm` — the two ways to write a record.
* `TreeQuery.Assignment.write`, `TreeQuery.Rule.write`, `TreeQuery.Template.write`,
  `TreeQuery.Template.Patch.write` — the data value of a record in a form.

## Main results

* `TreeQuery.Rule.ofJson_write` — what reading a written rule gives.
* `TreeQuery.Template.ofJson_write`, `TreeQuery.Template.Patch.ofJson_write` — written templates
  and patches are read back.
* `TreeQuery.written_records_readBack` — rules and templates are read as they were written.
-/

namespace TreeQuery

open Json

/-! ## Records -/

namespace Json

/-- The two ways to write a record: with the names of the fields, or with the values only. -/
inductive RecordForm
  | object
  | array
  deriving DecidableEq, Repr

/-- The record of the given fields. -/
def RecordForm.write (names : List Text) (values : List Json) : RecordForm → Json
  | object => .object (names.zip values)
  | array => .array values

lemma rawItems_eq_map (items : List Json) : rawItems items = items.map toRaw := by
  induction items with
  | nil => rfl
  | cons item items ih => rw [rawItems, ih, List.map_cons]

lemma rawMembers_eq_map (fields : List (Text × Json)) :
    rawMembers fields = fields.map fun f => (some f.1, f.2.toRaw) := by
  induction fields with
  | nil => rfl
  | cons f fields ih => rw [rawMembers, ih, List.map_cons]

lemma nodup_of_sorted {names : List Text} (sorted : names.Pairwise (· < ·)) : names.Nodup :=
  sorted.imp fun h => by
    rintro rfl
    exact List.lt_irrefl _ h

lemma countMember_rawMembers (name : Text) (fields : List (Text × Json)) :
    countMember name (rawMembers fields) = (fields.map Prod.fst).count name := by
  simp [countMember, rawMembers_eq_map, List.filter_map, List.count_eq_countP,
    List.countP_eq_length_filter, Function.comp_def, beq_eq_decide]

/-- Every field of a record is found under its name. -/
lemma map_member?_zip {names : List Text} {values : List Json} (nodup : names.Nodup)
    (hl : values.length = names.length) :
    (names.map fun name => member? name (rawMembers (names.zip values))) =
      values.map fun v => some v.toRaw := by
  induction names generalizing values with
  | nil => simp_all
  | cons name names ih =>
    obtain ⟨v, values, rfl⟩ := List.exists_cons_of_length_pos (l := values) (by simp [hl])
    rw [List.nodup_cons] at nodup
    simp only [List.map_cons, List.zip_cons_cons, rawMembers, member?, if_true]
    rw [← ih nodup.2 (by simpa using hl)]
    congr 1
    refine List.map_congr_left fun n hn => if_neg ?_
    rintro h
    exact nodup.1 (Option.some.inj h ▸ hn)

/-- A field that is there and not null is read. -/
lemma optional_some {α : Type} (read : Raw → Except Problem α) {raw : Raw} (h : raw ≠ .null) :
    Json.optional read (some raw) = (read raw).map some := by
  unfold Json.optional
  split <;> simp_all

@[simp] lemma text_toRaw_string (s : Text) : (Json.string s).toRaw.text = .ok s := rfl

/-- Both forms of a record have the fields of the record. -/
lemma fields_toRaw_write {names : List Text} {values : List Json} (form : RecordForm)
    (sorted : names.Pairwise (· < ·)) (hl : values.length = names.length) :
    (form.write names values).toRaw.fields names = .ok (values.map fun v => some v.toRaw) := by
  have nodup := nodup_of_sorted sorted
  cases form with
  | array =>
    simp only [RecordForm.write, toRaw, Raw.fields, rawItems_eq_map, List.length_map, hl,
      Nat.lt_irrefl, if_false]
    congr 1
    refine List.ext_getElem (by simp [hl]) fun i hi _ => ?_
    simp only [List.length_map, List.length_range] at hi
    simp [hl, hi]
  | object =>
    have hs : ((rawMembers (names.zip values)).any fun m => m.1.isNone) = false := by
      simp [rawMembers_eq_map]
    have hc : (names.find? fun name =>
        decide (1 < countMember name (rawMembers (names.zip values)))) = none := by
      rw [List.find?_eq_none]
      intro name _
      rw [countMember_rawMembers, List.map_fst_zip (by omega)]
      simpa using List.nodup_iff_count_le_one.1 nodup name
    simp only [RecordForm.write, toRaw, Raw.fields, hs, hc, Bool.false_eq_true, if_false,
      map_member?_zip nodup hl]

lemma plain_write {names : List Text} {values : List Json} (form : RecordForm)
    (sorted : names.Pairwise (· < ·)) (hl : values.length = names.length)
    (plain : ∀ v ∈ values, v.Plain) : (form.write names values).Plain := by
  cases form with
  | array => exact .array plain
  | object =>
    refine .object ?_ fun f hf => plain f.2 (List.of_mem_zip hf).2
    rw [← List.pairwise_map (f := Prod.fst), List.map_fst_zip (by omega)]
    exact sorted

lemma depth_write {names : List Text} {values : List Json} (form : RecordForm)
    (hl : values.length = names.length) :
    (form.write names values).depth = itemsDepth values + 1 := by
  cases form with
  | array => rfl
  | object =>
    rw [RecordForm.write, depth]
    congr 1
    induction names generalizing values with
    | nil => simp_all [fieldsDepth, itemsDepth]
    | cons name names ih =>
      obtain ⟨v, values, rfl⟩ := List.exists_cons_of_length_pos (l := values) (by simp [hl])
      rw [List.zip_cons_cons, fieldsDepth, itemsDepth, ih (by simpa using hl)]

end Json

/-! ## Assignments -/

namespace Assignment

/-- The assignment as a data value in one of the two forms. -/
def write (form : RecordForm) (a : Assignment) : Json :=
  form.write fieldNames [.string a.property, a.value]

lemma depth_write (form : RecordForm) (a : Assignment) :
    (a.write form).depth = a.value.depth + 1 := by
  rw [write, Json.depth_write form rfl]
  simp [itemsDepth, depth]

lemma plain_write {a : Assignment} (form : RecordForm) (ha : a.value.Plain) :
    (a.write form).Plain :=
  Json.plain_write form (by decide) rfl (by simp [ha, Plain.string])

/-- A written assignment is never taken for an absent one, whatever its value. -/
lemma toRaw_write_ne_null (form : RecordForm) (a : Assignment) : (a.write form).toRaw ≠ .null := by
  cases form <;> simp [write, RecordForm.write, toRaw]

lemma ofRaw_write {a : Assignment} (form : RecordForm) (ha : a.value.Plain) (levels : Nat) :
    ofRaw levels (a.write form).toRaw = withinDepth a a.value.depth levels := by
  have hf : (a.write form).toRaw.fields fieldNames = _ :=
    fields_toRaw_write form (by decide) rfl
  have hv : a.value.toRaw.decode levels = _ := decode_toRaw ha levels
  by_cases h : a.value.depth ≤ levels <;>
    simp [ofRaw, hf, hv, h, required, withinDepth, bind, Except.bind, pure,
      Except.pure]

end Assignment

/-! ## Rules -/

namespace Rule

/-- A branch as a data value; null if there is none. -/
def writeBranch (form : RecordForm) (b : Option Assignment) : Json :=
  b.elim .null (Assignment.write form)

/-- The rule as a data value. The rule and its two branches are written each in a form of its
own. -/
def write (form : RecordForm) (branchForm : Bool → RecordForm) (r : Rule) : Json :=
  form.write fieldNames [.string r.selector, writeBranch (branchForm true) r.whenMatch,
    writeBranch (branchForm false) r.whenNoMatch]

lemma write_object (r : Rule) : r.write .object (fun _ => .object) = r.toJson := rfl

/-- The values that the rule assigns contain no doubles. -/
structure PlainValues (r : Rule) : Prop where
  whenMatch : ∀ a ∈ r.whenMatch, a.value.Plain
  whenNoMatch : ∀ a ∈ r.whenNoMatch, a.value.Plain

/-- How deeply a branch is nested. -/
def branchDepth (b : Option Assignment) : Nat := b.elim 0 fun a => a.value.depth + 1

lemma depth_writeBranch (form : RecordForm) (b : Option Assignment) :
    (writeBranch form b).depth = branchDepth b := by
  cases b with
  | none => rfl
  | some a => exact a.depth_write form

lemma depth_write (form : RecordForm) (branchForm : Bool → RecordForm) (r : Rule) :
    (r.write form branchForm).depth =
      max (branchDepth r.whenMatch) (branchDepth r.whenNoMatch) + 1 := by
  rw [write, Json.depth_write form rfl]
  simp [itemsDepth, depth, depth_writeBranch]

lemma plain_writeBranch (form : RecordForm) {b : Option Assignment}
    (hb : ∀ a ∈ b, a.value.Plain) : (writeBranch form b).Plain := by
  cases b with
  | none => exact .null
  | some a => exact Assignment.plain_write form (hb a rfl)

lemma plain_write {r : Rule} (form : RecordForm) (branchForm : Bool → RecordForm)
    (hr : r.PlainValues) : (r.write form branchForm).Plain := by
  have hm := plain_writeBranch (branchForm true) hr.whenMatch
  have hn := plain_writeBranch (branchForm false) hr.whenNoMatch
  exact Json.plain_write form (by decide) rfl (by simp [Plain.string, hm, hn])

/-- A written branch is read back, and an absent one is absent again. -/
lemma optional_writeBranch (form : RecordForm) {b : Option Assignment}
    (hb : ∀ a ∈ b, a.value.Plain) (levels : Nat) :
    Json.optional (Assignment.ofRaw levels) (some (writeBranch form b).toRaw) =
      withinDepth b (branchDepth b) (levels + 1) := by
  cases b with
  | none => rfl
  | some a =>
    have ha := a.ofRaw_write form (hb a rfl) levels
    have hn := a.toRaw_write_ne_null form
    by_cases h : a.value.depth ≤ levels <;>
      simp [writeBranch, branchDepth, optional_some _ hn, ha, h, withinDepth, Except.map]

/-- The structure of a written rule is read as the rule, unless its values make it nest too
deeply. -/
lemma ofRaw_write {r : Rule} (form : RecordForm) (branchForm : Bool → RecordForm)
    (hr : r.PlainValues) :
    ofRaw (r.write form branchForm).toRaw = withinDepth r r.toJson.depth depthLimit := by
  have hf : (r.write form branchForm).toRaw.fields fieldNames = _ :=
    fields_toRaw_write form (by decide) rfl
  have hm := optional_writeBranch (branchForm true) hr.whenMatch (depthLimit - 2)
  have hn := optional_writeBranch (branchForm false) hr.whenNoMatch (depthLimit - 2)
  have hd : r.toJson.depth ≤ depthLimit ↔ branchDepth r.whenMatch ≤ depthLimit - 2 + 1 ∧
      branchDepth r.whenNoMatch ≤ depthLimit - 2 + 1 := by
    rw [← write_object, depth_write, depthLimit]
    omega
  by_cases h₁ : branchDepth r.whenMatch ≤ depthLimit - 2 + 1 <;>
    by_cases h₂ : branchDepth r.whenNoMatch ≤ depthLimit - 2 + 1 <;>
    simp [ofRaw, hf, hm, hn, hd, h₁, h₂, withinDepth, bind, Except.bind, pure, Except.pure]

/-- A written rule is read as the rule, unless its values make it nest too deeply. The form in
which it is written makes no difference. -/
theorem ofJson_write {r : Rule} (form : RecordForm) (branchForm : Bool → RecordForm)
    (hr : r.PlainValues) :
    ofJson (render (r.write form branchForm)) = withinDepth r r.toJson.depth depthLimit := by
  rw [ofJson, Raw.parse?_render (plain_write form branchForm hr)]
  exact ofRaw_write form branchForm hr

end Rule

/-! ## Templates -/

namespace Template

/-- The patch as a data value in one of the two forms, with null for the tokens that it leaves
alone. -/
def Patch.write (form : RecordForm) (p : Patch) : Json :=
  form.write fieldNames [tokenJson p.lead, tokenJson p.trail, tokenJson p.wrapper]

lemma Patch.write_object (p : Patch) : p.write .object = p.toJson := rfl

/-- The patch of all tokens to those of the template. -/
def asPatch (t : Template) : Patch := ⟨some t.lead, some t.trail, some t.wrapper⟩

/-- The template as a data value in one of the two forms. -/
def write (form : RecordForm) (t : Template) : Json := t.asPatch.write form

lemma write_object (t : Template) : t.write .object = t.toJson := t.asPatch.write_object

lemma plain_tokenJson (token : Option Text) : (tokenJson token).Plain := by
  cases token with
  | none => exact .null
  | some s => exact .string s

lemma Patch.parse?_write (form : RecordForm) (p : Patch) :
    Raw.parse? (render (p.write form)) = some (p.write form).toRaw :=
  Raw.parse?_render (plain_write form (by decide) rfl (by simp [plain_tokenJson]))

lemma Patch.fields_write (form : RecordForm) (p : Patch) :
    (p.write form).toRaw.fields fieldNames =
      .ok ([p.lead, p.trail, p.wrapper].map fun token => some (tokenJson token).toRaw) :=
  fields_toRaw_write form (by decide) rfl

lemma optional_tokenJson (token : Option Text) :
    optional Raw.text (some (tokenJson token).toRaw) = .ok token := by
  cases token <;> rfl

/-- A written patch is read as the patch. -/
theorem Patch.ofJson_write (form : RecordForm) (p : Patch) :
    Patch.ofJson (render (p.write form)) = .ok p := by
  simp [Patch.ofJson, p.parse?_write, Patch.ofRaw, p.fields_write, optional_tokenJson, bind,
    Except.bind, pure, Except.pure]

/-- A written template is read as the template. -/
theorem ofJson_write (form : RecordForm) (t : Template) :
    ofJson (render (t.write form)) = .ok t := by
  rw [ofJson, write, Patch.parse?_write, Option.elim_some, ofRaw, Patch.fields_write]
  rfl

/-- Of the template that a patch of all tokens is applied to nothing is left. -/
lemma apply_asPatch (u t : Template) : u.apply t.asPatch = t := rfl

end Template

/-! ## Reading back -/

/-- **Rules and templates are read as they were written.**

A rule whose values are free of doubles and nested within the limit of the reader is the same
after its text is read, whichever of the two forms the text gives the rule and each of its
branches. The text of a template, read as a patch, turns every template into the one that was
written, and a context that is configured by it has that template and is otherwise as before.

**Proof sketch.** Both forms of a record have its fields, and the structure of a written value is
that of the value, so each field is read from the structure of its own value. There the values of
the branches are decoded with two levels less than the whole text, and this is what they are
nested in. -/
theorem written_records_readBack :
    (∀ r : Rule, r.PlainValues → r.toJson.depth ≤ depthLimit →
      Rule.ofJson (render r.toJson) = .ok r ∧
      ∀ (form : RecordForm) (branchForm : Bool → RecordForm),
        Rule.ofJson (render (r.write form branchForm)) = .ok r) ∧
    ∀ t : Template, ∀ written ∈ [t.toJson, t.write .array],
      (∃ p, Template.Patch.ofJson (render written) = .ok p ∧ ∀ u : Template, u.apply p = t) ∧
      ∀ c : Context, c.configureJson (render written) = .ok { c with template := t } := by
  constructor
  · intro r hr hd
    have hw : ∀ form branchForm, Rule.ofJson (render (r.write form branchForm)) = .ok r := by
      intro form branchForm
      rw [Rule.ofJson_write form branchForm hr, withinDepth, if_pos hd]
    exact ⟨r.write_object ▸ hw .object fun _ => .object, hw⟩
  · intro t written hw
    obtain ⟨form, rfl⟩ : ∃ form, written = t.write form := by
      simp only [List.mem_cons, List.not_mem_nil, or_false] at hw
      exact hw.elim (fun h => ⟨.object, h.trans t.write_object.symm⟩) fun h => ⟨.array, h⟩
    have hp : Template.Patch.ofJson (render (t.write form)) = .ok t.asPatch :=
      t.asPatch.ofJson_write form
    refine ⟨⟨t.asPatch, hp, fun u => u.apply_asPatch t⟩, fun c => ?_⟩
    rw [Context.configureJson, hp]
    rfl

/-- A rule whose selector needs every kind of escape, with a nested value for one outcome and
null for the other. -/
def escapedRule : Rule where
  selector := "a[b=\"\\\"]\n\x01é𝄞".toList
  whenMatch := some ⟨"p".toList, .array [.null, .bool true, .int (-2 ^ 63), .int (2 ^ 64 - 1),
    .object [([], .string "\t/".toList), ("k".toList, .array [])]]⟩
  whenNoMatch := some ⟨[], .null⟩

lemma plainValues_escapedRule : escapedRule.PlainValues where
  whenMatch := by
    rintro a ⟨⟩
    have hk : Plain (.object [([], .string "\t/".toList), ("k".toList, .array [])]) :=
      .object (by decide) (by simp [Plain.string, Plain.array])
    exact .array (by simpa [Plain.null, Plain.bool, Plain.int] using hk)
  whenNoMatch := by
    rintro a ⟨⟩
    exact .null

/-- The values of the rule are plain and its nesting is within the limit, so that its text in either
form is read as the rule; and the text of the built-in template leaves a new context as it is. -/
theorem written_records_readBack_escapedRule :
    escapedRule.PlainValues ∧ escapedRule.toJson.depth ≤ depthLimit ∧
    Rule.ofJson (render escapedRule.toJson) = .ok escapedRule ∧
    Rule.ofJson (render (escapedRule.write .array fun found => if found then .array else .object)) =
      .ok escapedRule ∧
    (Context.new true).configureJson (render (Template.default.write .array)) =
      .ok (Context.new true) := by
  have hd : escapedRule.toJson.depth ≤ depthLimit := by decide
  have h := written_records_readBack.1 escapedRule plainValues_escapedRule hd
  exact ⟨plainValues_escapedRule, hd, h.1, h.2 _ _,
    (written_records_readBack.2 Template.default _ (by simp)).2 _⟩

end TreeQuery
