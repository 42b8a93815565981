import TreeQuery.Proofs.Native.Unambiguity
import TreeQuery.Proofs.Text.Trimming

set_option relaxedAutoImplicit false
set_option autoImplicit false

/-!
# Blanks around native selectors

Nothing that is derived from the grammar begins or ends with a blank, for a selector list begins
like a compound and ends with a name, a star or a closing bracket. So of a derived text with blanks
around it trimming leaves the derived text, whatever blanks these are; inside, the grammar allows
the four spaces only.

## Main results

* `TreeQuery.Native.stops_isBlank_list`, `TreeQuery.Native.endsSolid_list` — the two ends of a
  derived text.
* `TreeQuery.Native.parse_eq_ok_of_text` — a derived text with blanks around it is accepted.
* `TreeQuery.Native.exists_of_parse` — what is accepted is a derived text with blanks around it.
-/

namespace TreeQuery.Native

open Text Grammar

/-! ## Characters -/

/-- No blank belongs to names. -/
lemma isNameChar_of_isBlank {c : Char} (h : isBlank c = true) : isNameChar c = false := by
  have hranges : Property.whiteSpace.all (fun run => (List.range' run.1 (run.2 + 1 - run.1)).all
      fun n => !isNameChar (Char.ofNat n)) = true := by decide +kernel
  obtain ⟨run, hrun, hlo, hhi⟩ := CharRanges.holds_iff.1 h
  have hrange := List.all_eq_true.1 (List.all_eq_true.1 hranges run hrun) c.toNat
    (List.mem_range'_1.2 ⟨hlo, by omega⟩)
  rw [Char.ofNat_toNat] at hrange
  simpa using hrange

/-- No blank begins a compound. -/
lemma beginsCompound_of_isBlank {c : Char} (h : isBlank c = true) : beginsCompound c = false := by
  have hne : ∀ m ∈ ['#', '.', '[', '*'], c ≠ m := by
    rintro m hm rfl
    have hmarks : ['#', '.', '[', '*'].all (fun m => !isBlank m) = true := by decide
    simpa [h] using List.all_eq_true.1 hmarks c hm
  have hname := isNameChar_of_isBlank h
  simp only [List.mem_cons, List.not_mem_nil, or_false, forall_eq_or_imp, forall_eq] at hne
  simp [beginsCompound, continuesCompound, hname, hne]

/-! ## Beginnings -/

/-- A derived complex selector does not begin with a blank. -/
lemma stops_isBlank_complex (x : Grammar.Complex) (r : Text) : Stops isBlank (x.text ++ r) := by
  obtain ⟨a, s, hc, ha⟩ := exists_cons_of_compound x.head
  rw [Complex.text, hc, List.cons_append, List.cons_append, stops_cons]
  cases hblank : isBlank a with
  | false => rfl
  | true => simp [beginsCompound_of_isBlank hblank] at ha

/-- A derived selector list does not begin with a blank. -/
lemma stops_isBlank_list (t : Grammar.SelectorList) (r : Text) : Stops isBlank (t.text ++ r) := by
  rw [SelectorList.text, List.append_assoc]
  exact stops_isBlank_complex t.head _

/-! ## Ends -/

/-- A name ends with a character of names. -/
lemma endsSolid_name (n : Name) : EndsSolid n.1 := by
  obtain ⟨s, hne, hs⟩ := n
  refine ⟨s.getLast hne, List.getLast?_eq_some_getLast hne, ?_⟩
  cases hblank : isBlank (s.getLast hne) with
  | false => rfl
  | true => simpa [isNameChar_of_isBlank hblank] using hs _ (List.getLast_mem hne)

lemma endsSolid_simple (x : Grammar.Simple) : EndsSolid x.text := by
  cases x with
  | id n => exact (endsSolid_name n).append ['#']
  | className n => exact (endsSolid_name n).append ['.']
  | «attribute» a =>
    have hclose : EndsSolid [']'] := ⟨']', rfl, by decide⟩
    have h := hclose.append ('[' :: (a.before.1 ++ (a.name.1 ++ (a.after.1 ++
      a.comparison.elim [] Comparison.text))))
    simpa [Simple.text, Grammar.Attribute.inner] using h

lemma endsSolid_compound (c : Grammar.Compound) : EndsSolid c.text := by
  obtain ⟨type, xs, hne⟩ := c
  rcases List.eq_nil_or_concat xs with rfl | ⟨xs, x, rfl⟩
  · match type with
    | none => simp at hne
    | some .any => exact ⟨'*', rfl, by decide⟩
    | some (.tag n) =>
      show EndsSolid (n.1 ++ [])
      rw [List.append_nil]
      exact endsSolid_name n
  · have h := (endsSolid_simple x).append (type.elim [] TypeSelector.text ++ xs.flatMap Simple.text)
    simpa [Compound.text, List.flatMap_append] using h

lemma endsSolid_complex (x : Grammar.Complex) : EndsSolid x.text := by
  obtain ⟨c, ls⟩ := x
  rcases List.eq_nil_or_concat ls with rfl | ⟨ls, l, rfl⟩
  · show EndsSolid (c.text ++ [])
    rw [List.append_nil]
    exact endsSolid_compound c
  · have h := (endsSolid_compound l.2).append (c.text ++ (ls.flatMap Link.text ++ l.1.text))
    simpa [Complex.text, Link.text, List.flatMap_append] using h

/-- A derived selector list does not end with a blank. -/
lemma endsSolid_list (t : Grammar.SelectorList) : EndsSolid t.text := by
  obtain ⟨x, is⟩ := t
  rcases List.eq_nil_or_concat is with rfl | ⟨is, i, rfl⟩
  · show EndsSolid (x.text ++ [])
    rw [List.append_nil]
    exact endsSolid_complex x
  · have h := (endsSolid_complex i.complex).append
      (x.text ++ (is.flatMap Item.text ++ (i.before.1 ++ ',' :: i.after.1)))
    simpa [SelectorList.text, Item.text, List.flatMap_append] using h

/-! ## Trimming and parsing -/

/-- **A derived text is accepted**, with any blanks around it, as what its derivation means. -/
theorem parse_eq_ok_of_text (t : Grammar.SelectorList) {before after : Text}
    (hbefore : ∀ c ∈ before, isBlank c = true) (hafter : ∀ c ∈ after, isBlank c = true) :
    SelectorList.parse (before ++ t.text ++ after) = .ok t.list := by
  have hbegin : Stops isBlank t.text := by simpa using stops_isBlank_list t []
  rw [parse_eq_ok_iff_list?, trim_append_append hbefore hafter hbegin (endsSolid_list t)]
  exact list?_text t

/-- **What is accepted** is a derived text with blanks around it, and the selector list is what its
derivation means. -/
theorem exists_of_parse {s : Text} {list : SelectorList} (h : SelectorList.parse s = .ok list) :
    ∃ (t : Grammar.SelectorList) (before after : Text), t.list = list ∧
      (∀ c ∈ before, isBlank c = true) ∧ (∀ c ∈ after, isBlank c = true) ∧
      s = before ++ t.text ++ after := by
  obtain ⟨t, htext, hlist, -⟩ := (parse_eq_ok_iff s list).1 h
  obtain ⟨before, after, hbefore, hafter, hs⟩ := exists_trim s
  exact ⟨t, before, after, hlist, hbefore, hafter, by rw [htext]; exact hs⟩

end TreeQuery.Native
