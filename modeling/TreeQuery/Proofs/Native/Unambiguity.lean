import TreeQuery.Proofs.Native.Readers

set_option relaxedAutoImplicit false
set_option autoImplicit false

/-!
# Native selectors have one derivation

No text has two derivations in the grammar of native selectors. For every symbol, a derived text
can be cancelled from the front of a longer text together with its derivation: if two derived
texts go on to the same text, and neither of the two rests could go on the last repetition, then
the derivations and the rests are the same (`…_append_inj`).

Where the derived text ends is known from the reader of the symbol, which cannot leave two
different rests. What remains is to tell derivations of one and the same text apart, and there
the first character decides between the alternatives of a rule.

## Main results

* `TreeQuery.Native.Grammar.SelectorList.text_injective` — the grammar is unambiguous.
* `TreeQuery.Native.parse_eq_ok_iff` — a text is accepted as a selector list if and only if it
  has a derivation, and the list is the one that its only derivation describes.
-/

namespace TreeQuery.Native

open Text Grammar

/-! ## Names, spaces and values -/

lemma spaces_append_inj {v w : Spaces} {r u : Text} (hr : Stops isSpace r) (hu : Stops isSpace u)
    (h : v.1 ++ r = w.1 ++ u) : v = w ∧ r = u :=
  (append_inj_of_stops v.2 w.2 hr hu h).imp_left Subtype.ext

lemma name_append_inj {m n : Name} {r u : Text} (hr : Stops isNameChar r)
    (hu : Stops isNameChar u) (h : m.1 ++ r = n.1 ++ u) : m = n ∧ r = u :=
  (append_inj_of_stops m.2.2 n.2.2 hr hu h).imp_left Subtype.ext

/-- No name begins with a mark. -/
lemma mark_cons_ne_name {c : Char} (hc : c ∈ marks) (n : Name) (s r : Text) :
    c :: s ≠ n.1 ++ r := by
  intro h
  obtain ⟨a, s', hn, ha⟩ := exists_cons_of_name n
  rw [hn, List.cons_append] at h
  exact ne_of_isNameChar ha hc (List.cons.inj h).1.symm

lemma quoted_append_inj {q : Char} {v w r u : Text} (hv : q ∉ v) (hw : q ∉ w)
    (h : v ++ q :: r = w ++ q :: u) : v = w ∧ r = u := by
  have hread := quotedValue?_append hv r
  rw [h, quotedValue?_append hw u] at hread
  simpa [eq_comm] using hread

lemma value_append_inj {v w : Value} {r u : Text} (hr : Stops isNameChar r)
    (hu : Stops isNameChar u) (h : v.text ++ r = w.text ++ u) : v = w ∧ r = u := by
  match v, w with
  | .doubleQuoted v hv, .doubleQuoted w hw =>
    obtain ⟨rfl, rfl⟩ := quoted_append_inj hv hw (by simpa [Value.text] using h)
    exact ⟨rfl, rfl⟩
  | .singleQuoted v hv, .singleQuoted w hw =>
    obtain ⟨rfl, rfl⟩ := quoted_append_inj hv hw (by simpa [Value.text] using h)
    exact ⟨rfl, rfl⟩
  | .bare m, .bare n =>
    obtain ⟨rfl, rfl⟩ := name_append_inj hr hu h
    exact ⟨rfl, rfl⟩
  | .doubleQuoted v _, .singleQuoted w _ => simp [Value.text] at h
  | .singleQuoted v _, .doubleQuoted w _ => simp [Value.text] at h
  | .doubleQuoted v _, .bare n => exact absurd h (mark_cons_ne_name (by decide) n _ _)
  | .singleQuoted v _, .bare n => exact absurd h (mark_cons_ne_name (by decide) n _ _)
  | .bare m, .doubleQuoted w _ => exact absurd h.symm (mark_cons_ne_name (by decide) m _ _)
  | .bare m, .singleQuoted w _ => exact absurd h.symm (mark_cons_ne_name (by decide) m _ _)

/-! ## Simple selectors -/

lemma comparison_append_inj {c d : Comparison} {r u : Text} (hrn : Stops isNameChar r)
    (hrs : Stops isSpace r) (hun : Stops isNameChar u) (hus : Stops isSpace u)
    (h : c.text ++ r = d.text ++ u) : c = d ∧ r = u := by
  obtain ⟨op, before, v, after⟩ := c
  obtain ⟨op', before', v', after'⟩ := d
  simp only [Comparison.text, List.append_assoc] at h
  have hop := congrArg operator? h
  rw [operator?_append, operator?_append, Option.some.injEq, Prod.mk.injEq] at hop
  obtain ⟨rfl, hbefore⟩ := hop
  obtain ⟨rfl, hvalue⟩ :=
    spaces_append_inj (stops_isSpace_value v _) (stops_isSpace_value v' _) hbefore
  obtain ⟨rfl, hafter⟩ := value_append_inj (stops_isNameChar_spaces after hrn)
    (stops_isNameChar_spaces after' hun) hvalue
  obtain ⟨rfl, rfl⟩ := spaces_append_inj hrs hus hafter
  exact ⟨rfl, rfl⟩

/-- No operator begins with a closing bracket. -/
lemma closing_ne_comparison (c : Comparison) (s r : Text) : ']' :: s ≠ c.text ++ r := by
  obtain ⟨op, before, v, after⟩ := c
  cases op <;> simp [Comparison.text, Operator.sign]

lemma attribute_append_inj {a b : Grammar.Attribute} {r u : Text}
    (h : a.inner ++ r = b.inner ++ u) : a = b ∧ r = u := by
  obtain ⟨before, n, after, c⟩ := a
  obtain ⟨before', n', after', c'⟩ := b
  simp only [Grammar.Attribute.inner, List.append_assoc, List.singleton_append] at h
  obtain ⟨hname, hspace⟩ := stops_comparison c r
  obtain ⟨hname', hspace'⟩ := stops_comparison c' u
  obtain ⟨rfl, hn⟩ := spaces_append_inj (stops_isSpace_name n _) (stops_isSpace_name n' _) h
  obtain ⟨rfl, hafter⟩ := name_append_inj (stops_isNameChar_spaces after hname)
    (stops_isNameChar_spaces after' hname') hn
  obtain ⟨rfl, hc⟩ := spaces_append_inj hspace hspace' hafter
  cases c with
  | none =>
    cases c' with
    | none => simpa using hc
    | some d => exact absurd hc (closing_ne_comparison d _ _)
  | some c =>
    cases c' with
    | none => exact absurd hc.symm (closing_ne_comparison c _ _)
    | some d =>
      have hn (s : Text) : Stops isNameChar (']' :: s) := stops_isNameChar_mark (by decide) s
      have hs (s : Text) : Stops isSpace (']' :: s) := stops_cons.2 (by decide)
      obtain ⟨rfl, hclose⟩ := comparison_append_inj (hn r) (hs r) (hn u) (hs u) hc
      exact ⟨rfl, (List.cons.inj hclose).2⟩

lemma simple_append_inj {x y : Grammar.Simple} {r u : Text} (hr : Stops isNameChar r)
    (hu : Stops isNameChar u) (h : x.text ++ r = y.text ++ u) : x = y ∧ r = u := by
  match x, y with
  | .id m, .id n =>
    obtain ⟨rfl, rfl⟩ := name_append_inj hr hu (List.cons.inj h).2
    exact ⟨rfl, rfl⟩
  | .className m, .className n =>
    obtain ⟨rfl, rfl⟩ := name_append_inj hr hu (List.cons.inj h).2
    exact ⟨rfl, rfl⟩
  | .attribute a, .attribute b =>
    obtain ⟨rfl, rfl⟩ := attribute_append_inj (List.cons.inj h).2
    exact ⟨rfl, rfl⟩
  | .id _, .className _ => simp [Simple.text] at h
  | .id _, .attribute _ => simp [Simple.text] at h
  | .className _, .id _ => simp [Simple.text] at h
  | .className _, .attribute _ => simp [Simple.text] at h
  | .attribute _, .id _ => simp [Simple.text] at h
  | .attribute _, .className _ => simp [Simple.text] at h

/-- A text with which no compound goes on does not begin with a simple selector. -/
lemma ne_simple_of_stops {r : Text} (hr : Stops continuesCompound r) (x : Grammar.Simple)
    (s : Text) : r ≠ x.text ++ s := by
  rintro rfl
  obtain ⟨c, s', hx, hc⟩ := exists_cons_of_simple x
  rw [hx, List.cons_append, stops_cons] at hr
  rcases hc with rfl | rfl | rfl <;> simp [continuesCompound] at hr

lemma simples_append_inj {xs ys : List Grammar.Simple} {r u : Text}
    (hr : Stops continuesCompound r) (hu : Stops continuesCompound u)
    (h : xs.flatMap Simple.text ++ r = ys.flatMap Simple.text ++ u) : xs = ys ∧ r = u := by
  have hname := stops_isNameChar_of_continuesCompound hr
  have hname' := stops_isNameChar_of_continuesCompound hu
  induction xs generalizing ys with
  | nil =>
    cases ys with
    | nil => exact ⟨rfl, h⟩
    | cons y ys =>
      rw [List.flatMap_cons, List.append_assoc] at h
      exact absurd h (ne_simple_of_stops hr y _)
  | cons x xs ih =>
    rw [List.flatMap_cons, List.append_assoc] at h
    cases ys with
    | nil => exact absurd h.symm (ne_simple_of_stops hu x _)
    | cons y ys =>
      rw [List.flatMap_cons, List.append_assoc] at h
      obtain ⟨rfl, hxs⟩ := simple_append_inj (stops_isNameChar_simples xs hname)
        (stops_isNameChar_simples ys hname') h
      obtain ⟨rfl, rfl⟩ := ih hxs
      exact ⟨rfl, rfl⟩

/-! ## Compounds -/

lemma typeSelector_append_inj {t t' : TypeSelector} {r u : Text} (hr : Stops isNameChar r)
    (hu : Stops isNameChar u) (h : t.text ++ r = t'.text ++ u) : t = t' ∧ r = u := by
  match t, t' with
  | .any, .any => exact ⟨rfl, (List.cons.inj h).2⟩
  | .tag m, .tag n =>
    obtain ⟨rfl, rfl⟩ := name_append_inj hr hu h
    exact ⟨rfl, rfl⟩
  | .any, .tag n => exact absurd h (mark_cons_ne_name (by decide) n _ _)
  | .tag m, .any => exact absurd h.symm (mark_cons_ne_name (by decide) m _ _)

/-- A compound with a type selector does not begin like one without. -/
lemma typeSelector_ne_simples {t : TypeSelector} {xs ys : List Grammar.Simple} {r u : Text}
    (hr : Stops continuesCompound r) (hys : ys ≠ []) :
    t.text ++ (xs.flatMap Simple.text ++ r) ≠ ys.flatMap Simple.text ++ u := by
  intro h
  obtain ⟨y, ys, rfl⟩ := List.exists_cons_of_ne_nil hys
  have hread := typeSelector?_append t
    (stops_isNameChar_simples xs (stops_isNameChar_of_continuesCompound hr))
  rw [h, List.flatMap_cons, List.append_assoc, typeSelector?_simple] at hread
  contradiction

lemma compound_append_inj {c d : Grammar.Compound} {r u : Text}
    (hr : Stops continuesCompound r) (hu : Stops continuesCompound u)
    (h : c.text ++ r = d.text ++ u) : c = d ∧ r = u := by
  obtain ⟨type, xs, hne⟩ := c
  obtain ⟨type', ys, hne'⟩ := d
  simp only [Compound.text, List.append_assoc] at h
  cases type with
  | none =>
    cases type' with
    | none =>
      obtain ⟨rfl, rfl⟩ := simples_append_inj hr hu h
      exact ⟨rfl, rfl⟩
    | some t' =>
      have hxs : xs ≠ [] := hne.resolve_left fun h => h rfl
      exact absurd h.symm (typeSelector_ne_simples hu hxs)
  | some t =>
    cases type' with
    | none =>
      have hys : ys ≠ [] := hne'.resolve_left fun h => h rfl
      exact absurd h (typeSelector_ne_simples hr hys)
    | some t' =>
      obtain ⟨rfl, hxs⟩ := typeSelector_append_inj
        (stops_isNameChar_simples xs (stops_isNameChar_of_continuesCompound hr))
        (stops_isNameChar_simples ys (stops_isNameChar_of_continuesCompound hu)) h
      obtain ⟨rfl, rfl⟩ := simples_append_inj hr hu hxs
      exact ⟨rfl, rfl⟩

/-! ## Complex selectors -/

/-- Two combinators of one text mean the same, since only one of the two can be read in front of
a compound, and then they have the same spaces. -/
lemma combinator_append_inj {k l : Grammar.Combinator} {c d : Grammar.Compound}
    {r u : Text} (h : k.text ++ (c.text ++ r) = l.text ++ (d.text ++ u)) :
    k = l ∧ c.text ++ r = d.text ++ u := by
  have hread := combinator?_append k c r
  rw [h, combinator?_append, Option.some.injEq, Prod.mk.injEq] at hread
  obtain ⟨hkind, hrest⟩ := hread
  rw [hrest, List.append_left_inj] at h
  refine ⟨?_, hrest.symm⟩
  match k, l with
  | .child before after, .child before' after' =>
    have hsign (s : Text) : Stops isSpace ('>' :: s) := stops_cons.2 (by decide)
    simp only [Combinator.text] at h
    obtain ⟨rfl, hafter⟩ := spaces_append_inj (hsign _) (hsign _) h
    rw [Subtype.ext (List.cons.inj hafter).2]
  | .descendant w _, .descendant w' _ =>
    obtain rfl : w = w' := Subtype.ext h
    rfl
  | .child _ _, .descendant _ _ => contradiction
  | .descendant _ _, .child _ _ => contradiction

/-- A text behind a complex selector does not begin with a link. -/
lemma ne_link_of_endsComplex {r u : Text} (hr : EndsComplex r) (l : Link) (ls : List Link)
    (hu : EndsComplex u) : r ≠ l.1.text ++ (l.2.text ++ (ls.flatMap Link.text ++ u)) := by
  rintro rfl
  have hnone := hr.compound?_eq_none (combinator?_append l.1 l.2 _)
  rw [compound?_append l.2 (stops_links ls hu)] at hnone
  contradiction

lemma links_append_inj {ls ms : List Link} {r u : Text} (hr : EndsComplex r)
    (hu : EndsComplex u) (h : ls.flatMap Link.text ++ r = ms.flatMap Link.text ++ u) :
    ls = ms ∧ r = u := by
  induction ls generalizing ms with
  | nil =>
    cases ms with
    | nil => exact ⟨rfl, h⟩
    | cons m ms =>
      simp only [List.flatMap_cons, Link.text, List.append_assoc] at h
      exact absurd h (ne_link_of_endsComplex hr m ms hu)
  | cons l ls ih =>
    simp only [List.flatMap_cons, Link.text, List.append_assoc] at h
    cases ms with
    | nil => exact absurd h.symm (ne_link_of_endsComplex hu l ls hr)
    | cons m ms =>
      simp only [List.flatMap_cons, Link.text, List.append_assoc] at h
      obtain ⟨hk, hcompound⟩ := combinator_append_inj h
      obtain ⟨hc, hlinks⟩ :=
        compound_append_inj (stops_links ls hr) (stops_links ms hu) hcompound
      obtain ⟨rfl, rfl⟩ := ih hlinks
      exact ⟨by rw [Prod.ext hk hc], rfl⟩

lemma complex_append_inj {x y : Grammar.Complex} {r u : Text} (hr : EndsComplex r)
    (hu : EndsComplex u) (h : x.text ++ r = y.text ++ u) : x = y ∧ r = u := by
  obtain ⟨c, ls⟩ := x
  obtain ⟨d, ms⟩ := y
  simp only [Complex.text, List.append_assoc] at h
  obtain ⟨rfl, hlinks⟩ := compound_append_inj (stops_links ls hr) (stops_links ms hu) h
  obtain ⟨rfl, rfl⟩ := links_append_inj hr hu hlinks
  exact ⟨rfl, rfl⟩

/-! ## Lists -/

lemma items_inj {is js : List Item} (h : is.flatMap Item.text = js.flatMap Item.text) :
    is = js := by
  induction is generalizing js with
  | nil =>
    cases js with
    | nil => rfl
    | cons j js => simp [Item.text] at h
  | cons i is ih =>
    cases js with
    | nil => simp [Item.text] at h
    | cons j js =>
      obtain ⟨before, after, x⟩ := i
      obtain ⟨before', after', y⟩ := j
      simp only [List.flatMap_cons, Item.text, List.append_assoc, List.cons_append] at h
      have hcomma (s : Text) : Stops isSpace (',' :: s) := stops_cons.2 (by decide)
      obtain ⟨rfl, hsign⟩ := spaces_append_inj (hcomma _) (hcomma _) h
      obtain ⟨rfl, hx⟩ := spaces_append_inj (stops_isSpace_complex x _)
        (stops_isSpace_complex y _) (List.cons.inj hsign).2
      obtain ⟨rfl, hitems⟩ :=
        complex_append_inj (endsComplex_items is) (endsComplex_items js) hx
      rw [ih hitems]

/-- **The grammar is unambiguous.** Two derivations of the same text are the same. -/
theorem Grammar.SelectorList.text_injective : Function.Injective SelectorList.text := by
  rintro ⟨x, is⟩ ⟨y, js⟩ h
  obtain ⟨rfl, hitems⟩ := complex_append_inj (endsComplex_items is) (endsComplex_items js) h
  rw [items_inj hitems]

/-- Parsing is reading the trimmed text to its end. The empty text needs no case of its own,
since no compound can be read from it. -/
lemma parse_eq_ok_iff_list? (s : Text) (list : SelectorList) :
    SelectorList.parse s = .ok list ↔ list? (trim s) = some (list, []) := by
  unfold SelectorList.parse
  split
  · rename_i h
    rw [List.isEmpty_iff.1 h]
    have hnone : list? [] = none := by
      rw [list?, complex?, compound?_eq_none_of_stops (stops_nil _)]
      rfl
    simp [hnone]
  · split <;> simp_all

/-- **Native selectors are parsed by the grammar.** A text is accepted with a selector list if
and only if the text without blanks at its two ends has a derivation that describes this list,
and then this is its only derivation.

**Proof sketch.** If the text is accepted, what the readers have consumed has a derivation, and
the grammar is unambiguous. If there is a derivation, the readers consume its whole text. -/
theorem parse_eq_ok_iff (s : Text) (list : SelectorList) :
    SelectorList.parse s = .ok list ↔
      ∃ t : Grammar.SelectorList, t.text = trim s ∧ t.list = list ∧
        ∀ t' : Grammar.SelectorList, t'.text = trim s → t' = t := by
  rw [parse_eq_ok_iff_list?]
  constructor
  · intro h
    obtain ⟨t, hlist, htext⟩ := list?_sound h
    rw [List.append_nil] at htext
    refine ⟨t, htext.symm, hlist, fun t' h' => ?_⟩
    exact SelectorList.text_injective (h'.trans htext)
  · rintro ⟨t, htext, rfl, -⟩
    rw [← htext]
    exact list?_text t

end TreeQuery.Native
