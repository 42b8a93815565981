import TreeQuery.Proofs.Native.Blanks

set_option relaxedAutoImplicit false
set_option autoImplicit false

/-!
# Where a text ceases to be a native selector

A text that is rejected is rejected at a definite place: behind the longest beginning of it that is
derived from the grammar. The readers go on as long as they can, give back what they have read of
an unfinished part, and never try another way. Still they stop nowhere too early, for the beginning
of a text leaves them no choice: whatever follows a derived text, they read at least the derived
text. The last name of it may go on, and further parts may follow, but nothing of it is given back.

## Main definitions

* `TreeQuery.Native.Derived` — the texts that are derived from the grammar.
* `TreeQuery.Native.IsLongestDerived` — the longest derived beginning of a text.

## Main results

* `TreeQuery.Native.list?_readsThrough` — the reader of lists does not stop inside a derived text.
* `TreeQuery.Native.parse_rejects_behind_longest` — where a rejected text is rejected, and why.
-/

namespace TreeQuery.Native

open Text Grammar

/-! ## Readers that do not stop inside a text -/

/-- The reader reads at least the text `s` if `r` stands behind it: what it leaves is an end of
`r`. -/
def ReadsThrough {α : Type} (read : Text → Option (α × Text)) (s r : Text) : Prop :=
  ∃ a rest, read (s ++ r) = some (a, rest) ∧ rest <:+ r

/-- A reader that reads exactly a text does not stop inside it. -/
lemma ReadsThrough.of_eq {α : Type} {read : Text → Option (α × Text)} {s r : Text} {a : α}
    (h : read (s ++ r) = some (a, r)) : ReadsThrough read s r :=
  ⟨a, r, h, List.suffix_refl r⟩

/-- A name goes on with the characters of names that stand behind it. -/
lemma name?_readsThrough (n : Name) (r : Text) : ReadsThrough name? n.1 r := by
  have hall : ∀ c ∈ n.1 ++ r.takeWhile isNameChar, isNameChar c = true := fun c hc =>
    (List.mem_append.1 hc).elim (n.2.2 c) List.mem_takeWhile_imp
  have hread := name?_append ⟨n.1 ++ r.takeWhile isNameChar, by simp [n.2.1], hall⟩
    (stops_dropWhile isNameChar r)
  rw [List.append_assoc, List.takeWhile_append_dropWhile] at hread
  exact ⟨_, _, hread, List.dropWhile_suffix _⟩

lemma simple?_readsThrough (x : Grammar.Simple) (r : Text) : ReadsThrough simple? x.text r := by
  cases x with
  | id n =>
    obtain ⟨name, rest, hread, hrest⟩ := name?_readsThrough n r
    exact ⟨.id name, rest, by simp [Simple.text, simple?, hread], hrest⟩
  | className n =>
    obtain ⟨name, rest, hread, hrest⟩ := name?_readsThrough n r
    exact ⟨.className name, rest, by simp [Simple.text, simple?, hread], hrest⟩
  | «attribute» a =>
    refine .of_eq (a := .attribute a.test) ?_
    simp [Simple.text, simple?, attributeTest?_append]

lemma typeSelector?_readsThrough (t : TypeSelector) (r : Text) :
    ReadsThrough typeSelector? t.text r := by
  cases t with
  | any => exact .of_eq rfl
  | tag n =>
    obtain ⟨name, rest, hread, hrest⟩ := name?_readsThrough n r
    obtain ⟨c, s, hn, hc⟩ := exists_cons_of_name n
    refine ⟨some name, rest, ?_, hrest⟩
    rw [TypeSelector.text, typeSelector?.eq_2, hread]
    · rfl
    · intro s' h
      rw [hn, List.cons_append] at h
      exact ne_of_isNameChar hc (by decide) (List.cons.inj h).1

/-! ## What repetitions leave -/

lemma simples_suffix (s : Text) : (simples s).2 <:+ s := by
  obtain ⟨xs, -, hs⟩ := simples_sound s
  exact ⟨_, hs.symm⟩

lemma extendComplex_suffix (left : Native.Complex) (s : Text) : (extendComplex left s).2 <:+ s := by
  obtain ⟨ls, -, hs⟩ := extendComplex_sound left s
  exact ⟨_, hs.symm⟩

lemma moreComplex_suffix (s : Text) : (moreComplex s).2 <:+ s := by
  obtain ⟨is, -, hs⟩ := moreComplex_sound s
  exact ⟨_, hs.symm⟩

/-! ## Repetitions that do not stop inside a text

Of several parts in a row all but the last one are read exactly, for the next part does not go on
with them; the last one may go on, and further parts may follow. -/

/-- No name goes on with a simple selector. -/
lemma stops_isNameChar_simple (x : Grammar.Simple) (r : Text) : Stops isNameChar (x.text ++ r) := by
  obtain ⟨c, s, hx, hc⟩ := exists_cons_of_simple x
  rw [hx]
  refine stops_isNameChar_mark ?_ _
  rcases hc with rfl | rfl | rfl <;> decide

/-- No compound goes on with a combinator. -/
lemma stops_combinator (k : Grammar.Combinator) (r : Text) :
    Stops continuesCompound (k.text ++ r) := by
  obtain ⟨a, s, hk, ha⟩ := exists_cons_of_combinator k
  rw [hk]
  exact stops_cons.2 (continuesCompound_eq_false (ha.imp_right .inl))

/-- Derived simple selectors in a row are read through. -/
lemma simple?_simples (x : Grammar.Simple) (xs : List Grammar.Simple) (r : Text) :
    ∃ y rest, simple? (x.text ++ (xs.flatMap Simple.text ++ r)) = some (y, rest) ∧
      (simples rest).2 <:+ r := by
  induction xs generalizing x with
  | nil =>
    obtain ⟨y, rest, hread, hrest⟩ := simple?_readsThrough x r
    exact ⟨y, rest, hread, (simples_suffix rest).trans hrest⟩
  | cons x' xs ih =>
    obtain ⟨y, rest, hread, hrest⟩ := ih x'
    rw [List.flatMap_cons, List.append_assoc]
    refine ⟨x.simple, _, simple?_append x (stops_isNameChar_simple x' _), ?_⟩
    rw [simples_of_some hread]
    exact hrest

lemma compound?_of_typeSelector? {s rest : Text} {tag : Option Text}
    (h : typeSelector? s = some (tag, rest)) :
    compound? s = some (.ofSimples tag (simples rest).1, (simples rest).2) := by
  rw [compound?, h]

lemma compound?_of_simple? {s rest : Text} {x : Native.Simple} (htype : typeSelector? s = none)
    (h : simple? s = some (x, rest)) :
    compound? s = some (.ofSimples none (x :: (simples rest).1), (simples rest).2) := by
  rw [compound?, htype]
  dsimp only
  rw [simples_of_some h]

lemma compound?_readsThrough (c : Grammar.Compound) (r : Text) :
    ReadsThrough compound? c.text r := by
  obtain ⟨type, xs, hne⟩ := c
  unfold ReadsThrough
  simp only [Compound.text, List.append_assoc]
  cases type with
  | some t =>
    cases xs with
    | nil =>
      obtain ⟨tag, rest, hread, hrest⟩ := typeSelector?_readsThrough t r
      exact ⟨_, _, compound?_of_typeSelector? hread, (simples_suffix rest).trans hrest⟩
    | cons x xs =>
      obtain ⟨y, rest, hread, hrest⟩ := simple?_simples x xs r
      have htype := typeSelector?_append t (stops_isNameChar_simple x (xs.flatMap Simple.text ++ r))
      rw [List.flatMap_cons, List.append_assoc]
      refine ⟨_, _, compound?_of_typeSelector? htype, ?_⟩
      rw [simples_of_some hread]
      exact hrest
  | none =>
    obtain ⟨x, xs, rfl⟩ := List.exists_cons_of_ne_nil (hne.resolve_left fun h => h rfl)
    obtain ⟨y, rest, hread, hrest⟩ := simple?_simples x xs r
    rw [List.flatMap_cons, List.append_assoc]
    exact ⟨_, _, compound?_of_simple? (typeSelector?_simple x _) hread, hrest⟩

/-- A derived compound with derived links behind it is read through. -/
lemma compound?_links (c : Grammar.Compound) (ls : List Link) (r : Text) :
    ∃ c' rest, compound? (c.text ++ (ls.flatMap Link.text ++ r)) = some (c', rest) ∧
      ∀ left, (extendComplex left rest).2 <:+ r := by
  induction ls generalizing c with
  | nil =>
    obtain ⟨c', rest, hread, hrest⟩ := compound?_readsThrough c r
    exact ⟨c', rest, hread, fun left => (extendComplex_suffix left rest).trans hrest⟩
  | cons l ls ih =>
    obtain ⟨c', rest, hread, hrest⟩ := ih l.2
    rw [List.flatMap_cons, Link.text, List.append_assoc, List.append_assoc]
    refine ⟨c.compound, _, compound?_append c (stops_combinator l.1 _), fun left => ?_⟩
    rw [extendComplex_of_some (combinator?_append l.1 l.2 _) hread]
    exact hrest _

lemma complex?_readsThrough (x : Grammar.Complex) (r : Text) : ReadsThrough complex? x.text r := by
  obtain ⟨c, rest, hread, hrest⟩ := compound?_links x.head x.links r
  refine ⟨(extendComplex (.single c) rest).1, _, ?_, hrest (.single c)⟩
  rw [Complex.text, List.append_assoc, complex?, hread]
  rfl

/-- A derived complex selector with derived items behind it is read through. -/
lemma complex?_items (x : Grammar.Complex) (is : List Item) (r : Text) :
    ∃ y rest, complex? (x.text ++ (is.flatMap Item.text ++ r)) = some (y, rest) ∧
      (moreComplex rest).2 <:+ r := by
  induction is generalizing x with
  | nil =>
    obtain ⟨y, rest, hread, hrest⟩ := complex?_readsThrough x r
    exact ⟨y, rest, hread, (moreComplex_suffix rest).trans hrest⟩
  | cons i is ih =>
    obtain ⟨y, rest, hread, hrest⟩ := ih i.complex
    simp only [List.flatMap_cons, Item.text, List.append_assoc, List.cons_append]
    have hcomma := comma?_append i.before i.after
      (stops_isSpace_complex i.complex (is.flatMap Item.text ++ r))
    refine ⟨x.complex, _, complex?_append x (endsComplex_comma i.before _), ?_⟩
    rw [moreComplex_of_some hcomma hread]
    exact hrest

/-- **The reader of lists does not stop inside a derived text**, whatever stands behind it. -/
theorem list?_readsThrough (t : Grammar.SelectorList) (r : Text) :
    ReadsThrough list? t.text r := by
  obtain ⟨y, rest, hread, hrest⟩ := complex?_items t.head t.items r
  refine ⟨y :: (moreComplex rest).1, _, ?_, hrest⟩
  rw [SelectorList.text, List.append_assoc, list?, hread]
  rfl

/-! ## The longest derived beginning -/

/-- The text is derived from the grammar. -/
def Derived (p : Text) : Prop := ∃ t : Grammar.SelectorList, t.text = p

/-- The text `p` is the longest beginning of `s` that is derived from the grammar. -/
structure IsLongestDerived (s p : Text) : Prop where
  isPrefix : p <+: s
  derived : Derived p
  length_le : ∀ p', p' <+: s → Derived p' → p'.length ≤ p.length

/-- A derived text is not empty. -/
lemma Derived.ne_nil {p : Text} (h : Derived p) : p ≠ [] := by
  obtain ⟨t, rfl⟩ := h
  obtain ⟨c, hc, -⟩ := endsSolid_list t
  rintro hnil
  simp [hnil] at hc

/-- A derived text is accepted. -/
lemma Derived.exists_parse {p : Text} (h : Derived p) :
    ∃ list, SelectorList.parse p = .ok list := by
  obtain ⟨t, rfl⟩ := h
  refine ⟨t.list, ?_⟩
  have hnone : ∀ c ∈ ([] : Text), isBlank c = true := by simp
  simpa using parse_eq_ok_of_text t hnone hnone

/-- What the reader of lists consumes is the longest derived beginning. -/
lemma isLongestDerived_of_list? {p rest : Text} {list : Native.SelectorList}
    (h : list? (p ++ rest) = some (list, rest)) : IsLongestDerived (p ++ rest) p := by
  obtain ⟨t, -, ht⟩ := list?_sound h
  obtain rfl := List.append_cancel_right ht
  refine ⟨List.prefix_append _ _, ⟨t, rfl⟩, ?_⟩
  rintro _ ⟨rest', hrest'⟩ ⟨t', rfl⟩
  obtain ⟨list', left, hread, hleft⟩ := list?_readsThrough t' rest'
  rw [hrest', h] at hread
  obtain ⟨-, rfl⟩ := Prod.mk.inj (Option.some.inj hread)
  have hlength := congrArg List.length hrest'
  have hle := hleft.length_le
  simp only [List.length_append] at hlength
  omega

/-- Where the reader of lists reads nothing, no beginning is derived. -/
lemma not_derived_of_list? {s : Text} (h : list? s = none) :
    ¬ ∃ p, p <+: s ∧ Derived p := by
  rintro ⟨_, ⟨rest, hrest⟩, t, rfl⟩
  obtain ⟨list, left, hread, -⟩ := list?_readsThrough t rest
  rw [hrest, h] at hread
  simp at hread

/-! ## Rejections -/

/-- **A text is rejected behind its longest derived beginning.** The text is more than blanks and is
rejected. If some beginning of the trimmed text that is not empty is derived from the grammar, then
the trimmed text is the longest one of them with something behind it, and that is reported as
unexpected; the longest one by itself is accepted. If there is none, the trimmed text as a whole is
reported as unreadable. The rejection holds the text as it was given, untrimmed.

**Proof sketch.** Whatever follows a derived text, the reader of lists reads at least this text
(`list?_readsThrough`). What it consumes is derived, so that nothing longer is; and where it
consumes nothing, there is nothing to consume. -/
theorem parse_rejects_behind_longest (s : Text) (e : InvalidSelector) (hne : trim s ≠ [])
    (h : SelectorList.parse s = .error e) :
    e.selector = s ∧
      ((∃ p, p ≠ [] ∧ p <+: trim s ∧ Derived p) →
        ∃ p rest, trim s = p ++ rest ∧ p ≠ [] ∧ rest ≠ [] ∧ IsLongestDerived (trim s) p ∧
          (∃ list, SelectorList.parse p = .ok list) ∧ e.reason = .unexpected rest ∧
          e.reason.message = "unexpected input at '".toList ++ rest ++ "'".toList) ∧
      ((¬ ∃ p, p ≠ [] ∧ p <+: trim s ∧ Derived p) →
        e.reason = .unreadable (trim s) ∧
          e.reason.message = "Parsing Error: Error \x7b input: ".toList ++ quoted (trim s) ++
            ", code: Verify \x7d".toList) := by
  unfold SelectorList.parse at h
  rw [if_neg (by simpa using hne)] at h
  cases hlist : list? (trim s) with
  | none =>
    rw [hlist] at h
    obtain rfl := Except.error.inj h
    refine ⟨rfl, ?_, fun _ => ⟨rfl, rfl⟩⟩
    rintro ⟨p, -, hp, hderived⟩
    exact absurd ⟨p, hp, hderived⟩ (not_derived_of_list? hlist)
  | some read =>
    obtain ⟨list, rest⟩ := read
    rw [hlist] at h
    cases rest with
    | nil => simp at h
    | cons c rest =>
      obtain rfl := Except.error.inj h
      obtain ⟨t, -, ht⟩ := list?_sound hlist
      have hlongest : IsLongestDerived (trim s) t.text := by
        rw [ht] at hlist ⊢
        exact isLongestDerived_of_list? hlist
      have hderived : Derived t.text := ⟨t, rfl⟩
      refine ⟨rfl, fun _ => ⟨t.text, c :: rest, ht, hderived.ne_nil, List.cons_ne_nil _ _,
        hlongest, hderived.exists_parse, rfl, rfl⟩, fun hnone => ?_⟩
      exact absurd ⟨t.text, hderived.ne_nil, hlongest.isPrefix, hderived⟩ hnone

/-- A second complex selector that breaks off inside an attribute test, so that the combinator in
front of the bracket is given back as well; and a text that begins with a combinator. -/
theorem parse_rejects_behind_longest_unfinished :
    let s : Text := "\u00a0a, .b > [c='d\n".toList
    let e : InvalidSelector := ⟨s, .unexpected " > [c='d".toList⟩
    let s' : Text := "> \"a\" ".toList
    let e' : InvalidSelector := ⟨s', .unreadable "> \"a\"".toList⟩
    (trim s ≠ [] ∧ SelectorList.parse s = .error e ∧ IsLongestDerived (trim s) "a, .b".toList) ∧
      trim s' ≠ [] ∧ SelectorList.parse s' = .error e' ∧
      e'.reason.message = "Parsing Error: Error \x7b input: ".toList ++ quoted (trim s') ++
        ", code: Verify \x7d".toList := by
  intro s e s' e'
  have hs : trim s = "a, .b > [c='d".toList := by decide
  have hs' : trim s' = "> \"a\"".toList := by decide
  have hne : trim s ≠ [] := by rw [hs]; decide
  have hne' : trim s' ≠ [] := by rw [hs']; decide
  have hparse : SelectorList.parse s = .error e := by decide +kernel
  have hparse' : SelectorList.parse s' = .error e' := by decide +kernel
  have hnone : list? (trim s') = none := by rw [hs']; decide +kernel
  have hname : ['a'].all isNameChar = true := by decide +kernel
  have ha : Derived ['a'] := by
    let n : Name := ⟨['a'], by decide, List.all_eq_true.1 hname⟩
    exact ⟨⟨⟨⟨some (.tag n), [], .inl (by simp)⟩, []⟩, []⟩, rfl⟩
  obtain ⟨-, hlongest, -⟩ := parse_rejects_behind_longest s e hne hparse
  obtain ⟨-, -, hunreadable⟩ := parse_rejects_behind_longest s' e' hne' hparse'
  obtain ⟨p, rest, htext, -, -, hp, -, hrest, -⟩ :=
    hlongest ⟨['a'], by decide, by rw [hs]; decide, ha⟩
  obtain rfl := Reason.unexpected.inj hrest
  have hcut : "a, .b".toList ++ " > [c='d".toList = p ++ " > [c='d".toList := by
    rw [← htext, hs]
    decide
  obtain rfl := List.append_cancel_right hcut
  refine ⟨⟨hne, hparse, hp⟩, hne', hparse', (hunreadable ?_).2⟩
  rintro ⟨p, -, hp⟩
  exact not_derived_of_list? hnone ⟨p, hp⟩

end TreeQuery.Native
