import TreeQuery.Proofs.Native.Grammar
import TreeQuery.Proofs.Text.Reading

set_option relaxedAutoImplicit false
set_option autoImplicit false

/-!
# The readers of native selectors against the grammar

For every symbol of the grammar there are two lemmas about its reader. What the reader returns
has a derivation whose text is what was consumed (`…_sound`). And the reader consumes the whole
text of a derivation and returns what the derivation means, if the text behind it cannot go on
the last repetition (`…_append`). A reader that always goes on as long as it can loses no
derivation because of the second condition: what may follow a symbol in a selector list never
begins like a further part of it.

## Main definitions

* `TreeQuery.Native.beginsCompound`, `TreeQuery.Native.continuesCompound` — the characters with
  which compounds may begin and go on.
* `TreeQuery.Native.EndsComplex` — what may stand behind a complex selector.

## Main results

* `TreeQuery.Native.list?_sound`, `TreeQuery.Native.list?_text` — the reader of lists.
-/

namespace TreeQuery.Native

open Text Grammar

/-! ## Characters -/

/-- The characters other than those of names with which the grammar is written. -/
def marks : Text :=
  ['#', '.', '[', ']', '*', '"', '\'', '>', ',', '=', '~', '^', '$', ' ', '\t', '\r', '\n']

/-- No mark belongs to names. -/
lemma isNameChar_of_mem_marks : ∀ c ∈ marks, isNameChar c = false := by
  have h : marks.all (fun c => !isNameChar c) = true := by decide +kernel
  simpa using h

lemma mem_marks_of_isSpace {c : Char} (h : isSpace c = true) : c ∈ marks := by
  simp only [isSpace, Bool.or_eq_true, beq_iff_eq] at h
  rcases h with ((rfl | rfl) | rfl) | rfl <;> decide

lemma isSpace_of_isNameChar {c : Char} (h : isNameChar c = true) : isSpace c = false := by
  cases hs : isSpace c with
  | false => rfl
  | true => simp [isNameChar_of_mem_marks c (mem_marks_of_isSpace hs)] at h

/-- A name does not go on with a mark. -/
lemma stops_isNameChar_mark {c : Char} (h : c ∈ marks) (s : Text) : Stops isNameChar (c :: s) :=
  stops_cons.2 (isNameChar_of_mem_marks c h)

/-- A name does not go on with spaces. -/
lemma stops_isNameChar_spaces (w : Spaces) {r : Text} (hr : Stops isNameChar r) :
    Stops isNameChar (w.1 ++ r) := by
  obtain ⟨s, hs⟩ := w
  cases s with
  | nil => exact hr
  | cons c s =>
    exact stops_isNameChar_mark (mem_marks_of_isSpace (hs c List.mem_cons_self)) _

/-- Spaces do not go on with a name. -/
lemma stops_isSpace_name (n : Name) (r : Text) : Stops isSpace (n.1 ++ r) := by
  obtain ⟨s, hne, hs⟩ := n
  cases s with
  | nil => exact absurd rfl hne
  | cons c s => exact stops_cons.2 (isSpace_of_isNameChar (hs c List.mem_cons_self))

/-! ## Names and spaces -/

lemma name?_append (n : Name) {r : Text} (hr : Stops isNameChar r) :
    name? (n.1 ++ r) = some (n.1, r) := by
  obtain ⟨s, hne, hs⟩ := n
  obtain ⟨c, s', rfl⟩ := List.exists_cons_of_ne_nil hne
  rw [name?, takeWhile_append_of_stops hs hr, dropWhile_append_of_stops hs hr]

lemma name?_sound {s n r : Text} (h : name? s = some (n, r)) :
    ∃ N : Name, N.1 = n ∧ s = N.1 ++ r := by
  unfold name? at h
  split at h
  · simp at h
  · rename_i c cs hn
    simp only [Option.some.injEq, Prod.mk.injEq] at h
    obtain ⟨rfl, rfl⟩ := h
    have hs := List.takeWhile_append_dropWhile (p := isNameChar) (l := s)
    rw [hn] at hs
    refine ⟨⟨c :: cs, List.cons_ne_nil _ _, fun d hd => ?_⟩, rfl, hs.symm⟩
    rw [← hn] at hd
    exact List.mem_takeWhile_imp hd

lemma name?_eq_none_of_stops {s : Text} (h : Stops isNameChar s) : name? s = none := by
  cases s with
  | nil => rfl
  | cons c s => simp [name?, stops_cons.1 h]

lemma skipSpace_append (w : Spaces) {r : Text} (hr : Stops isSpace r) :
    skipSpace (w.1 ++ r) = r :=
  dropWhile_append_of_stops w.2 hr

lemma skipSpace_sound (s : Text) : ∃ w : Spaces, s = w.1 ++ skipSpace s :=
  ⟨⟨s.takeWhile isSpace, fun _ hc => List.mem_takeWhile_imp hc⟩,
    List.takeWhile_append_dropWhile.symm⟩

/-! ## Values -/

lemma quotedValue?_append {q : Char} {v : Text} (hv : q ∉ v) (r : Text) :
    quotedValue? q (v ++ q :: r) = some (v, r) := by
  have hp : ∀ c ∈ v, (c != q) = true := fun c hc => by
    simpa using fun h : c = q => hv (h ▸ hc)
  have hq : Stops (· != q) (q :: r) := by simp
  rw [quotedValue?, takeWhile_append_of_stops hp hq, dropWhile_append_of_stops hp hq]

lemma quotedValue?_sound {q : Char} {s v r : Text} (h : quotedValue? q s = some (v, r)) :
    q ∉ v ∧ s = v ++ q :: r := by
  unfold quotedValue? at h
  split at h
  · simp at h
  · rename_i c rest hd
    simp only [Option.some.injEq, Prod.mk.injEq] at h
    obtain ⟨rfl, rfl⟩ := h
    have hc := stops_dropWhile (· != q) s
    rw [hd, stops_cons, bne_eq_false_iff_eq] at hc
    have hs := List.takeWhile_append_dropWhile (p := (· != q)) (l := s)
    rw [hd, hc] at hs
    exact ⟨fun hq => by simpa using List.mem_takeWhile_imp hq, hs.symm⟩

/-- The first character of a name is no mark. -/
lemma ne_of_isNameChar {c m : Char} (h : isNameChar c = true) (hm : m ∈ marks) : c ≠ m := by
  rintro rfl
  simp [isNameChar_of_mem_marks c hm] at h

/-- A name begins with a character of names. -/
lemma exists_cons_of_name (n : Name) : ∃ c s, n.1 = c :: s ∧ isNameChar c = true := by
  obtain ⟨s, hne, hs⟩ := n
  obtain ⟨c, s', rfl⟩ := List.exists_cons_of_ne_nil hne
  exact ⟨c, s', rfl, hs c List.mem_cons_self⟩

lemma value?_append (v : Value) {r : Text} (hr : Stops isNameChar r) :
    value? (v.text ++ r) = some (v.value, r) := by
  cases v with
  | doubleQuoted v hv => simpa [Value.text, Value.value, value?] using quotedValue?_append hv r
  | singleQuoted v hv => simpa [Value.text, Value.value, value?] using quotedValue?_append hv r
  | bare n =>
    obtain ⟨c, s, hn, hc⟩ := exists_cons_of_name n
    have hname := name?_append n hr
    rw [Value.text, Value.value, value?.eq_3, hname]
    · rintro s' h
      rw [hn, List.cons_append] at h
      exact ne_of_isNameChar hc (by decide) (List.cons.inj h).1
    · rintro s' h
      rw [hn, List.cons_append] at h
      exact ne_of_isNameChar hc (by decide) (List.cons.inj h).1

lemma value?_sound {s v r : Text} (h : value? s = some (v, r)) :
    ∃ V : Value, V.value = v ∧ s = V.text ++ r := by
  unfold value? at h
  split at h
  · obtain ⟨hv, rfl⟩ := quotedValue?_sound h
    exact ⟨.doubleQuoted v hv, rfl, by simp [Value.text]⟩
  · obtain ⟨hv, rfl⟩ := quotedValue?_sound h
    exact ⟨.singleQuoted v hv, rfl, by simp [Value.text]⟩
  · obtain ⟨n, rfl, rfl⟩ := name?_sound h
    exact ⟨.bare n, rfl, rfl⟩

/-- Spaces do not go on with a value. -/
lemma stops_isSpace_value (v : Value) (r : Text) : Stops isSpace (v.text ++ r) := by
  cases v with
  | doubleQuoted v hv => exact stops_cons.2 (by decide)
  | singleQuoted v hv => exact stops_cons.2 (by decide)
  | bare n => exact stops_isSpace_name n r

/-! ## Attribute tests -/

@[simp] lemma operator?_append (op : Operator) (r : Text) :
    operator? (op.sign ++ r) = some (op, r) := by
  cases op <;> rfl

lemma operator?_sound {s r : Text} {op : Operator} (h : operator? s = some (op, r)) :
    s = op.sign ++ r := by
  unfold operator? at h
  split at h
  all_goals simp only [Option.some.injEq, Prod.mk.injEq, reduceCtorEq] at h
  all_goals
    obtain ⟨rfl, rfl⟩ := h
    rfl

/-- Neither names nor spaces go on with a comparison or a closing bracket. -/
lemma stops_comparison (c : Option Comparison) (r : Text) :
    Stops isNameChar (c.elim [] Comparison.text ++ ']' :: r) ∧
      Stops isSpace (c.elim [] Comparison.text ++ ']' :: r) := by
  cases c with
  | none => exact ⟨stops_isNameChar_mark (by decide) _, stops_cons.2 (by decide)⟩
  | some c =>
    obtain ⟨op, before, v, after⟩ := c
    cases op <;> exact ⟨stops_isNameChar_mark (by decide) _, stops_cons.2 (by decide)⟩

lemma comparison?_append (c : Comparison) {r : Text} (hn : Stops isNameChar r)
    (hs : Stops isSpace r) :
    comparison? (c.text ++ r) = some ((c.operator, c.value.value), r) := by
  obtain ⟨op, before, v, after⟩ := c
  simp only [Comparison.text, List.append_assoc]
  rw [comparison?, operator?_append]
  dsimp only
  rw [skipSpace_append before (stops_isSpace_value v _),
    value?_append v (stops_isNameChar_spaces after hn)]
  dsimp only
  rw [skipSpace_append after hs]

lemma comparison?_sound {s r : Text} {c : Operator × Text} (h : comparison? s = some (c, r)) :
    ∃ C : Comparison, (C.operator, C.value.value) = c ∧ s = C.text ++ r := by
  unfold comparison? at h
  split at h
  · simp at h
  · rename_i op s' hop
    split at h
    · simp at h
    · rename_i v r' hv
      simp only [Option.some.injEq, Prod.mk.injEq] at h
      obtain ⟨rfl, rfl⟩ := h
      obtain ⟨before, hbefore⟩ := skipSpace_sound s'
      obtain ⟨V, rfl, hV⟩ := value?_sound hv
      obtain ⟨after, hafter⟩ := skipSpace_sound r'
      refine ⟨⟨op, before, V, after⟩, rfl, ?_⟩
      simp only [Comparison.text, List.append_assoc]
      rw [← hafter, ← hV, ← hbefore]
      exact operator?_sound hop

lemma attributeTest?_append (a : Grammar.Attribute) (r : Text) :
    attributeTest? (a.inner ++ r) = some (a.test, r) := by
  obtain ⟨before, n, after, c⟩ := a
  obtain ⟨hname, hspace⟩ := stops_comparison c r
  simp only [Grammar.Attribute.inner, List.append_assoc, List.singleton_append]
  rw [attributeTest?, skipSpace_append before (stops_isSpace_name n _),
    name?_append n (stops_isNameChar_spaces after hname)]
  dsimp only
  rw [skipSpace_append after hspace]
  cases c with
  | none => rfl
  | some c =>
    have hclose : Stops isNameChar (']' :: r) := stops_isNameChar_mark (by decide) _
    rw [Option.elim_some, comparison?_append c hclose (stops_cons.2 (by decide))]
    rfl

lemma closeBracket?_sound {t u : AttributeTest} {s r : Text}
    (h : closeBracket? t s = some (u, r)) : t = u ∧ s = ']' :: r := by
  unfold closeBracket? at h
  split at h
  · simpa using h
  · simp at h

lemma attributeTest?_sound {s r : Text} {t : AttributeTest}
    (h : attributeTest? s = some (t, r)) :
    ∃ a : Grammar.Attribute, a.test = t ∧ s = a.inner ++ r := by
  unfold attributeTest? at h
  split at h
  · simp at h
  · rename_i name s' hn
    obtain ⟨before, hbefore⟩ := skipSpace_sound s
    obtain ⟨n, rfl, hs'⟩ := name?_sound hn
    obtain ⟨after, hafter⟩ := skipSpace_sound s'
    split at h
    · rename_i c s'' hc
      obtain ⟨C, rfl, hC⟩ := comparison?_sound hc
      obtain ⟨rfl, rfl⟩ := closeBracket?_sound h
      refine ⟨⟨before, n, after, some C⟩, rfl, ?_⟩
      rw [hbefore, hs', hafter, hC]
      simp [Grammar.Attribute.inner]
    · obtain ⟨rfl, hclose⟩ := closeBracket?_sound h
      refine ⟨⟨before, n, after, none⟩, rfl, ?_⟩
      rw [hbefore, hs', hafter, hclose]
      simp [Grammar.Attribute.inner]

/-! ## Simple selectors -/

/-- What a derivation of a simple selector means. -/
def Grammar.Simple.simple : Grammar.Simple → Native.Simple
  | .id n => .id n.1
  | .className n => .className n.1
  | .attribute a => .attribute a.test

lemma simple?_append (x : Grammar.Simple) {r : Text} (hr : Stops isNameChar r) :
    simple? (x.text ++ r) = some (x.simple, r) := by
  cases x with
  | id n => simp [Simple.text, Simple.simple, simple?, name?_append n hr]
  | className n => simp [Simple.text, Simple.simple, simple?, name?_append n hr]
  | «attribute» a => simp [Simple.text, Simple.simple, simple?, attributeTest?_append]

lemma simple?_sound {s r : Text} {x : Native.Simple} (h : simple? s = some (x, r)) :
    ∃ X : Grammar.Simple, X.simple = x ∧ s = X.text ++ r := by
  unfold simple? at h
  split at h
  · obtain ⟨n, rfl, hn⟩ := of_map_eq_some h
    obtain ⟨N, rfl, rfl⟩ := name?_sound hn
    exact ⟨.id N, rfl, rfl⟩
  · obtain ⟨n, rfl, hn⟩ := of_map_eq_some h
    obtain ⟨N, rfl, rfl⟩ := name?_sound hn
    exact ⟨.className N, rfl, rfl⟩
  · obtain ⟨t, rfl, ht⟩ := of_map_eq_some h
    obtain ⟨a, rfl, rfl⟩ := attributeTest?_sound ht
    exact ⟨.attribute a, rfl, rfl⟩
  · simp at h

/-- The characters with which a compound may go on. -/
def continuesCompound (c : Char) : Bool := isNameChar c || c == '#' || c == '.' || c == '['

lemma stops_isNameChar_of_continuesCompound {r : Text} (h : Stops continuesCompound r) :
    Stops isNameChar r := by
  intro c hc
  have hc' := h c hc
  simp only [continuesCompound, Bool.or_eq_false_iff] at hc'
  exact hc'.1.1.1

lemma simple?_eq_none_of_stops {r : Text} (h : Stops continuesCompound r) : simple? r = none := by
  unfold simple?
  split
  · simp [continuesCompound] at h
  · simp [continuesCompound] at h
  · simp [continuesCompound] at h
  · rfl

/-- A simple selector begins with its sign. -/
lemma exists_cons_of_simple (x : Grammar.Simple) :
    ∃ c s, x.text = c :: s ∧ (c = '#' ∨ c = '.' ∨ c = '[') := by
  cases x with
  | id n => exact ⟨_, _, rfl, .inl rfl⟩
  | className n => exact ⟨_, _, rfl, .inr (.inl rfl)⟩
  | «attribute» a => exact ⟨_, _, rfl, .inr (.inr rfl)⟩

/-- No name goes on with simple selectors. -/
lemma stops_isNameChar_simples (xs : List Grammar.Simple) {r : Text}
    (hr : Stops isNameChar r) : Stops isNameChar (xs.flatMap Simple.text ++ r) := by
  cases xs with
  | nil => exact hr
  | cons x xs =>
    obtain ⟨c, s, hx, hc⟩ := exists_cons_of_simple x
    rw [List.flatMap_cons, hx]
    refine stops_isNameChar_mark ?_ _
    rcases hc with rfl | rfl | rfl <;> decide

lemma simples_of_none {s : Text} (h : simple? s = none) : simples s = ([], s) := by
  rw [simples]
  split
  · rfl
  · simp_all

lemma simples_of_some {s r : Text} {x : Native.Simple} (h : simple? s = some (x, r)) :
    simples s = (x :: (simples r).1, (simples r).2) := by
  rw [simples]
  split
  · simp_all
  · simp_all

lemma simples_append (xs : List Grammar.Simple) {r : Text} (hr : Stops continuesCompound r) :
    simples (xs.flatMap Simple.text ++ r) = (xs.map Simple.simple, r) := by
  have hname := stops_isNameChar_of_continuesCompound hr
  induction xs with
  | nil => exact simples_of_none (simple?_eq_none_of_stops hr)
  | cons x xs ih =>
    have hx := simple?_append x (stops_isNameChar_simples xs hname)
    rw [List.flatMap_cons, List.append_assoc, simples_of_some hx, ih]
    rfl

lemma simples_sound (s : Text) :
    ∃ xs : List Grammar.Simple, xs.map Simple.simple = (simples s).1 ∧
      s = xs.flatMap Simple.text ++ (simples s).2 := by
  fun_induction simples s with
  | case1 s h => exact ⟨[], rfl, rfl⟩
  | case2 s x rest h ih =>
    obtain ⟨X, rfl, hs⟩ := simple?_sound h
    obtain ⟨xs, hxs, hrest⟩ := ih
    refine ⟨X :: xs, by simp [hxs], ?_⟩
    rw [hs, List.flatMap_cons, List.append_assoc, ← hrest]

/-! ## Compounds -/

/-- The parts of a derived compound, sorted by kind, are those of the simple selectors read. -/
lemma compound_eq_ofSimples (c : Grammar.Compound) :
    c.compound = .ofSimples (c.type.bind TypeSelector.tag?) (c.simples.map Simple.simple) := by
  simp only [Compound.compound, Compound.ofSimples, List.filterMap_map]
  congr 2
  all_goals
    funext x
    cases x <;> rfl

lemma typeSelector?_append (t : TypeSelector) {r : Text} (hr : Stops isNameChar r) :
    typeSelector? (t.text ++ r) = some (t.tag?, r) := by
  cases t with
  | any => rfl
  | tag n =>
    obtain ⟨c, s, hn, hc⟩ := exists_cons_of_name n
    rw [TypeSelector.text, TypeSelector.tag?, typeSelector?.eq_2, name?_append n hr]
    · rfl
    · intro s' h
      rw [hn, List.cons_append] at h
      exact ne_of_isNameChar hc (by decide) (List.cons.inj h).1

lemma typeSelector?_sound {s r : Text} {tag : Option Text}
    (h : typeSelector? s = some (tag, r)) :
    ∃ t : TypeSelector, t.tag? = tag ∧ s = t.text ++ r := by
  unfold typeSelector? at h
  split at h
  · simp only [Option.some.injEq, Prod.mk.injEq] at h
    obtain ⟨rfl, rfl⟩ := h
    exact ⟨.any, rfl, rfl⟩
  · obtain ⟨n, rfl, hn⟩ := of_map_eq_some h
    obtain ⟨N, rfl, rfl⟩ := name?_sound hn
    exact ⟨.tag N, rfl, rfl⟩

/-- A simple selector is no type selector. -/
lemma typeSelector?_simple (x : Grammar.Simple) (r : Text) :
    typeSelector? (x.text ++ r) = none := by
  obtain ⟨c, s, hx, hc⟩ := exists_cons_of_simple x
  have hmark : c ∈ marks := by rcases hc with rfl | rfl | rfl <;> decide
  rw [hx, List.cons_append, typeSelector?.eq_2,
    name?_eq_none_of_stops (stops_isNameChar_mark hmark _)]
  · rfl
  · intro s' h
    obtain rfl := (List.cons.inj h).1
    simp at hc

lemma compound?_append (c : Grammar.Compound) {r : Text} (hr : Stops continuesCompound r) :
    compound? (c.text ++ r) = some (c.compound, r) := by
  have hname := stops_isNameChar_of_continuesCompound hr
  rw [compound_eq_ofSimples]
  obtain ⟨type, xs, hne⟩ := c
  simp only [Compound.text, List.append_assoc]
  cases type with
  | some t =>
    rw [Option.elim_some, compound?,
      typeSelector?_append t (stops_isNameChar_simples xs hname)]
    dsimp only
    rw [simples_append xs hr]
    rfl
  | none =>
    obtain ⟨x, xs, rfl⟩ := List.exists_cons_of_ne_nil (hne.resolve_left fun h => h rfl)
    have hnone := typeSelector?_simple x (xs.flatMap Simple.text ++ r)
    rw [← List.append_assoc, ← List.flatMap_cons] at hnone
    rw [Option.elim_none, List.nil_append, compound?, hnone]
    dsimp only
    rw [simples_append (x :: xs) hr]
    rfl

lemma compound?_sound {s r : Text} {c : Native.Compound} (h : compound? s = some (c, r)) :
    ∃ C : Grammar.Compound, C.compound = c ∧ s = C.text ++ r := by
  unfold compound? at h
  split at h
  · rename_i tag rest ht
    simp only [Option.some.injEq, Prod.mk.injEq] at h
    obtain ⟨rfl, rfl⟩ := h
    obtain ⟨t, rfl, hs⟩ := typeSelector?_sound ht
    obtain ⟨xs, hxs, hrest⟩ := simples_sound rest
    refine ⟨⟨some t, xs, .inl (by simp)⟩, ?_, ?_⟩
    · rw [compound_eq_ofSimples, ← hxs]
      rfl
    · simp only [Compound.text, Option.elim_some, List.append_assoc]
      rw [← hrest, hs]
  · split at h
    · simp at h
    · rename_i x xs rest hx
      simp only [Option.some.injEq, Prod.mk.injEq] at h
      obtain ⟨rfl, rfl⟩ := h
      obtain ⟨Xs, hXs, hrest⟩ := simples_sound s
      rw [hx] at hXs hrest
      refine ⟨⟨none, Xs, .inr fun h => by simp [h] at hXs⟩, ?_, ?_⟩
      · exact (compound_eq_ofSimples _).trans (congrArg (Compound.ofSimples none) hXs)
      · simpa [Compound.text] using hrest

/-- The characters with which a compound may begin. -/
def beginsCompound (c : Char) : Bool := continuesCompound c || c == '*'

/-- A compound begins with a character with which compounds may begin. -/
lemma exists_cons_of_compound (c : Grammar.Compound) :
    ∃ a s, c.text = a :: s ∧ beginsCompound a = true := by
  obtain ⟨type, xs, hne⟩ := c
  match type with
  | some .any => exact ⟨'*', xs.flatMap Simple.text, rfl, by decide +kernel⟩
  | some (.tag n) =>
    obtain ⟨a, s, hn, ha⟩ := exists_cons_of_name n
    refine ⟨a, s ++ xs.flatMap Simple.text, ?_, by simp [beginsCompound, continuesCompound, ha]⟩
    simp [Compound.text, TypeSelector.text, hn]
  | none =>
    obtain ⟨x, xs, rfl⟩ := List.exists_cons_of_ne_nil (hne.resolve_left fun h => h rfl)
    obtain ⟨a, s, hx, ha⟩ := exists_cons_of_simple x
    refine ⟨a, s ++ xs.flatMap Simple.text, by simp [Compound.text, hx], ?_⟩
    rcases ha with rfl | rfl | rfl <;> decide +kernel

lemma compound?_eq_none_of_stops {r : Text} (h : Stops beginsCompound r) : compound? r = none := by
  cases hc : compound? r with
  | none => rfl
  | some p =>
    obtain ⟨C, -, hr⟩ := compound?_sound (c := p.1) (r := p.2) hc
    obtain ⟨a, s, hC, ha⟩ := exists_cons_of_compound C
    rw [hr, hC, List.cons_append, stops_cons, ha] at h
    contradiction

/-! ## Combinators -/

/-- No space begins a compound, and neither does a comma or a greater-than sign. -/
lemma beginsCompound_eq_false {c : Char} (h : isSpace c = true ∨ c = '>' ∨ c = ',') :
    beginsCompound c = false := by
  rcases h with h | rfl | rfl
  · simp only [isSpace, Bool.or_eq_true, beq_iff_eq] at h
    rcases h with ((rfl | rfl) | rfl) | rfl <;> decide +kernel
  · decide +kernel
  · decide +kernel

lemma continuesCompound_eq_false {c : Char} (h : isSpace c = true ∨ c = '>' ∨ c = ',') :
    continuesCompound c = false :=
  (Bool.or_eq_false_iff.1 (beginsCompound_eq_false h)).1

/-- Spaces do not go on with a compound. -/
lemma stops_isSpace_compound (c : Grammar.Compound) (r : Text) :
    Stops isSpace (c.text ++ r) := by
  obtain ⟨a, s, hc, ha⟩ := exists_cons_of_compound c
  rw [hc, List.cons_append, stops_cons]
  cases hs : isSpace a with
  | false => rfl
  | true => simp [beginsCompound_eq_false (.inl hs)] at ha

/-- A combinator begins with a space or with its sign. -/
lemma exists_cons_of_combinator (k : Grammar.Combinator) :
    ∃ a s, k.text = a :: s ∧ (isSpace a = true ∨ a = '>') := by
  match k with
  | .child ⟨[], _⟩ after => exact ⟨'>', after.1, rfl, .inr rfl⟩
  | .child ⟨a :: s, hs⟩ after =>
    exact ⟨a, s ++ '>' :: after.1, rfl, .inl (hs a List.mem_cons_self)⟩
  | .descendant ⟨[], _⟩ hne => exact absurd rfl hne
  | .descendant ⟨a :: s, hs⟩ hne => exact ⟨a, s, rfl, .inl (hs a List.mem_cons_self)⟩

/-- Which combinator is read depends on the compound behind it: further spaces would belong to
the combinator, and a greater-than sign would make another one of it. -/
lemma combinator?_append (k : Grammar.Combinator) (c : Grammar.Compound) (r : Text) :
    combinator? (k.text ++ (c.text ++ r)) = some (k.combinator, c.text ++ r) := by
  have hspace := stops_isSpace_compound c r
  cases k with
  | child before after =>
    have hsign : Stops isSpace ('>' :: (after.1 ++ (c.text ++ r))) := stops_cons.2 (by decide)
    simp only [Combinator.text, List.append_assoc, List.cons_append]
    rw [combinator?, skipSpace_append before hsign]
    change some (Native.Combinator.child, skipSpace (after.1 ++ (c.text ++ r))) = _
    rw [skipSpace_append after hspace]
    rfl
  | descendant spaces hne =>
    obtain ⟨a, s, hc, ha⟩ := exists_cons_of_compound c
    obtain ⟨b, w, hw⟩ := List.exists_cons_of_ne_nil hne
    have hb : isSpace b = true := spaces.2 b (by simp [hw])
    rw [Combinator.text, combinator?, skipSpace_append spaces hspace]
    split
    · rename_i rest h
      rw [hc, List.cons_append, List.cons.injEq] at h
      rw [h.1] at ha
      exact absurd ha (by decide +kernel)
    · simp [hw, hb, Combinator.combinator]

lemma combinator?_sound {s r : Text} {k : Native.Combinator} (h : combinator? s = some (k, r)) :
    ∃ K : Grammar.Combinator, K.combinator = k ∧ s = K.text ++ r := by
  obtain ⟨before, hbefore⟩ := skipSpace_sound s
  unfold combinator? at h
  split at h
  · rename_i rest hrest
    simp only [Option.some.injEq, Prod.mk.injEq] at h
    obtain ⟨rfl, rfl⟩ := h
    obtain ⟨after, hafter⟩ := skipSpace_sound rest
    refine ⟨.child before after, rfl, ?_⟩
    rw [hbefore, hrest]
    simp only [Combinator.text, List.append_assoc, List.cons_append]
    rw [← hafter]
  · split at h
    · rename_i hs
      simp only [Option.some.injEq, Prod.mk.injEq] at h
      obtain ⟨rfl, rfl⟩ := h
      refine ⟨.descendant before fun hnil => ?_, rfl, hbefore⟩
      -- Without a space in front nothing is skipped, and `s` would not begin with a space.
      obtain ⟨a, ha, hspace⟩ := (Option.any_eq_true _ _).1 hs
      have hstop : Stops isSpace (skipSpace s) := stops_dropWhile isSpace s
      rw [hnil, List.nil_append] at hbefore
      rw [← hbefore] at hstop
      simp [hstop a ha] at hspace
    · simp at h

/-! ## Complex selectors -/

/-- A complex selector ends here: behind spaces there is nothing but perhaps a comma. -/
def EndsComplex (r : Text) : Prop := Stops (· != ',') (skipSpace r)

lemma endsComplex_nil : EndsComplex [] := stops_nil _

/-- A comma ends complex selectors, with or without spaces before it. -/
lemma endsComplex_comma (w : Spaces) (s : Text) : EndsComplex (w.1 ++ ',' :: s) := by
  have hcomma : Stops isSpace (',' :: s) := stops_cons.2 (by decide)
  rw [EndsComplex, skipSpace_append w hcomma]
  simp

/-- Behind a complex selector its last compound does not go on. -/
lemma EndsComplex.stops {r : Text} (hr : EndsComplex r) : Stops continuesCompound r := by
  cases r with
  | nil => exact stops_nil _
  | cons c r =>
    rw [stops_cons]
    cases hs : isSpace c with
    | true => exact continuesCompound_eq_false (.inl hs)
    | false =>
      rw [EndsComplex, skipSpace, List.dropWhile_cons_of_neg (by simp [hs])] at hr
      exact continuesCompound_eq_false (.inr (.inr (by simpa using hr)))

/-- Behind a complex selector there may be a combinator, namely spaces, but no compound
follows. -/
lemma EndsComplex.compound?_eq_none {r r' : Text} {k : Native.Combinator} (hr : EndsComplex r)
    (h : combinator? r = some (k, r')) : compound? r' = none := by
  unfold EndsComplex at hr
  unfold combinator? at h
  split at h
  · rename_i rest hrest
    simp [hrest] at hr
  · split at h
    · simp only [Option.some.injEq, Prod.mk.injEq] at h
      obtain ⟨-, rfl⟩ := h
      refine compound?_eq_none_of_stops fun c hc => beginsCompound_eq_false (.inr (.inr ?_))
      simpa using hr c hc
    · simp at h

/-- A compound does not go on with further links of a complex selector. -/
lemma stops_links (ls : List Link) {r : Text} (hr : EndsComplex r) :
    Stops continuesCompound (ls.flatMap Link.text ++ r) := by
  cases ls with
  | nil => exact hr.stops
  | cons l ls =>
    obtain ⟨a, s, hk, ha⟩ := exists_cons_of_combinator l.1
    rw [List.flatMap_cons, Link.text, hk]
    exact stops_cons.2 (continuesCompound_eq_false (ha.imp_right .inl))

lemma extendComplex_of_none {left : Native.Complex} {s : Text}
    (h : ∀ k r, combinator? s = some (k, r) → compound? r = none) :
    extendComplex left s = (left, s) := by
  rw [extendComplex]
  split
  · rfl
  · rename_i k r hk
    split
    · rfl
    · simp_all

lemma extendComplex_of_some {left : Native.Complex} {s r rest : Text} {k : Native.Combinator}
    {c : Native.Compound} (hk : combinator? s = some (k, r)) (hc : compound? r = some (c, rest)) :
    extendComplex left s = extendComplex (.extend left k c) rest := by
  rw [extendComplex]
  split
  · simp_all
  · rename_i k' r' hk'
    obtain ⟨rfl, rfl⟩ : k' = k ∧ r' = r := by simpa [hk, eq_comm] using hk'
    split
    · simp_all
    · simp_all

lemma extendComplex_append (left : Native.Complex) (ls : List Link) {r : Text}
    (hr : EndsComplex r) :
    extendComplex left (ls.flatMap Link.text ++ r) = (extendBy left ls, r) := by
  induction ls generalizing left with
  | nil => exact extendComplex_of_none fun k r' hk => hr.compound?_eq_none hk
  | cons l ls ih =>
    have hk := combinator?_append l.1 l.2 (ls.flatMap Link.text ++ r)
    have hc := compound?_append l.2 (stops_links ls hr)
    rw [List.flatMap_cons, Link.text, List.append_assoc, List.append_assoc,
      extendComplex_of_some hk hc, ih]
    rfl

lemma extendComplex_sound (left : Native.Complex) (s : Text) :
    ∃ ls : List Link, extendBy left ls = (extendComplex left s).1 ∧
      s = ls.flatMap Link.text ++ (extendComplex left s).2 := by
  fun_induction extendComplex left s with
  | case1 left s h => exact ⟨[], rfl, rfl⟩
  | case2 left s k r h h' => exact ⟨[], rfl, rfl⟩
  | case3 left s k r h c rest h' ih =>
    obtain ⟨K, rfl, hs⟩ := combinator?_sound h
    obtain ⟨C, rfl, hr⟩ := compound?_sound h'
    obtain ⟨ls, hls, hrest⟩ := ih
    refine ⟨(K, C) :: ls, hls, ?_⟩
    simp only [List.flatMap_cons, Link.text, List.append_assoc]
    rw [← hrest, ← hr, hs]

lemma complex?_append (x : Grammar.Complex) {r : Text} (hr : EndsComplex r) :
    complex? (x.text ++ r) = some (x.complex, r) := by
  rw [Complex.text, List.append_assoc, complex?, compound?_append x.head (stops_links x.links hr),
    Option.map_some]
  dsimp only
  rw [extendComplex_append _ x.links hr]
  rfl

lemma complex?_sound {s r : Text} {x : Native.Complex} (h : complex? s = some (x, r)) :
    ∃ X : Grammar.Complex, X.complex = x ∧ s = X.text ++ r := by
  obtain ⟨⟨c, rest⟩, hc, he⟩ := Option.map_eq_some_iff.1 h
  obtain ⟨C, rfl, hs⟩ := compound?_sound hc
  obtain ⟨ls, hls, hrest⟩ := extendComplex_sound (.single C.compound) rest
  dsimp only at he
  rw [he] at hls hrest
  refine ⟨⟨C, ls⟩, hls, ?_⟩
  rw [hs, hrest, Complex.text, List.append_assoc]

/-! ## Lists -/

lemma comma?_append (before after : Spaces) {r : Text} (hr : Stops isSpace r) :
    comma? (before.1 ++ ',' :: (after.1 ++ r)) = some r := by
  have hcomma : Stops isSpace (',' :: (after.1 ++ r)) := stops_cons.2 (by decide)
  rw [comma?, skipSpace_append before hcomma]
  exact congrArg some (skipSpace_append after hr)

lemma comma?_sound {s r : Text} (h : comma? s = some r) :
    ∃ before after : Spaces, s = before.1 ++ ',' :: (after.1 ++ r) := by
  obtain ⟨before, hbefore⟩ := skipSpace_sound s
  unfold comma? at h
  split at h
  · rename_i rest hrest
    obtain ⟨after, hafter⟩ := skipSpace_sound rest
    rw [Option.some.injEq] at h
    refine ⟨before, after, ?_⟩
    rw [← h, ← hafter, ← hrest]
    exact hbefore
  · simp at h

/-- Spaces do not go on with a complex selector. -/
lemma stops_isSpace_complex (x : Grammar.Complex) (r : Text) :
    Stops isSpace (x.text ++ r) := by
  rw [Complex.text, List.append_assoc]
  exact stops_isSpace_compound _ _

/-- Further items end the complex selector before them. -/
lemma endsComplex_items (is : List Item) : EndsComplex (is.flatMap Item.text) := by
  cases is with
  | nil => exact endsComplex_nil
  | cons i is =>
    rw [List.flatMap_cons, Item.text, List.append_assoc]
    exact endsComplex_comma i.before _

lemma moreComplex_of_some {s r rest : Text} {x : Native.Complex} (hcomma : comma? s = some r)
    (hx : complex? r = some (x, rest)) :
    moreComplex s = (x :: (moreComplex rest).1, (moreComplex rest).2) := by
  rw [moreComplex]
  split
  · simp_all
  · rename_i r' hr'
    obtain rfl : r' = r := by simpa [hcomma, eq_comm] using hr'
    split
    · simp_all
    · simp_all

lemma moreComplex_text (is : List Item) :
    moreComplex (is.flatMap Item.text) = (is.map fun i => i.complex.complex, []) := by
  induction is with
  | nil =>
    rw [moreComplex]
    rfl
  | cons i is ih =>
    have hcomma := comma?_append i.before i.after
      (stops_isSpace_complex i.complex (is.flatMap Item.text))
    have hx := complex?_append i.complex (endsComplex_items is)
    simp only [List.flatMap_cons, Item.text, List.append_assoc, List.cons_append]
    rw [moreComplex_of_some hcomma hx, ih]
    rfl

lemma moreComplex_sound (s : Text) :
    ∃ is : List Item, is.map (fun i => i.complex.complex) = (moreComplex s).1 ∧
      s = is.flatMap Item.text ++ (moreComplex s).2 := by
  fun_induction moreComplex s with
  | case1 s h => exact ⟨[], rfl, rfl⟩
  | case2 s r h h' => exact ⟨[], rfl, rfl⟩
  | case3 s r h x rest h' ih =>
    obtain ⟨before, after, hs⟩ := comma?_sound h
    obtain ⟨X, rfl, hr⟩ := complex?_sound h'
    obtain ⟨is, his, hrest⟩ := ih
    refine ⟨⟨before, after, X⟩ :: is, by simp [his], ?_⟩
    simp only [List.flatMap_cons, Item.text, List.append_assoc, List.cons_append]
    rw [← hrest, ← hr, hs]

/-- **Completeness.** Whatever is derived from the grammar is read to its end, and the reader
returns what the derivation means. -/
theorem list?_text (t : Grammar.SelectorList) : list? t.text = some (t.list, []) := by
  rw [SelectorList.text, list?, complex?_append t.head (endsComplex_items t.items),
    Option.map_some]
  dsimp only
  rw [moreComplex_text]
  rfl

/-- **Soundness.** What the reader consumes is derived from the grammar, and the reader returns
what a derivation of it means. -/
theorem list?_sound {s r : Text} {list : Native.SelectorList} (h : list? s = some (list, r)) :
    ∃ t : Grammar.SelectorList, t.list = list ∧ s = t.text ++ r := by
  obtain ⟨⟨x, rest⟩, hx, he⟩ := Option.map_eq_some_iff.1 h
  obtain ⟨X, rfl, hs⟩ := complex?_sound hx
  obtain ⟨is, his, hrest⟩ := moreComplex_sound rest
  simp only [Prod.mk.injEq] at he
  obtain ⟨rfl, rfl⟩ := he
  refine ⟨⟨X, is⟩, ?_, ?_⟩
  · rw [SelectorList.list, his]
  · rw [SelectorList.text, List.append_assoc, ← hrest, hs]

end TreeQuery.Native
