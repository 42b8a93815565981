import TreeQuery.Engine
import TreeQuery.Proofs.Template.Decomposition
import TreeQuery.Proofs.Template.Escape

set_option relaxedAutoImplicit false
set_option autoImplicit false

/-!
# Taking selectors apart

What `TreeQuery.Engine.parse` does with a selector is settled by three things: the text that is
left as its native base, the names that are looked up with their arguments, and the registry that
says which of them are known. The first two are read off the only exact decomposition of the
selector, for every template and every text; and a selector that was written from fragments,
names and arguments gives back exactly these.

## Main definitions

* `TreeQuery.Template.Lookup` — a name that is looked up, and the argument that goes with it.
* `TreeQuery.Engine.TakesApart` — what `parse` answers for a given base and given lookups.

## Main results

* `TreeQuery.Engine.parse_decomposition` — base and lookups of any selector.
* `TreeQuery.Engine.parse_written` — base and lookups of a selector that was written.
-/

namespace TreeQuery

open Text

namespace Template

/-- A name that is looked up in a registry, and the argument for what it stands for. -/
structure Lookup where
  name : Text
  argument : Text
  deriving DecidableEq, Repr

/-- What is looked up for an occurrence. -/
def lookup (t : Template) (o : Occurrence) : Lookup := ⟨o.name, unescape t.wrapper o.raw⟩

/-- The occurrence for which a given name with a given argument is looked up. -/
def occurrenceFor (t : Template) (l : Lookup) : Occurrence :=
  ⟨l.name, escape t.wrapper l.argument⟩

/-- The text of the occurrence for which a given name with a given argument is looked up. -/
def writtenFor (t : Template) (l : Lookup) : Text := t.written (t.occurrenceFor l)

end Template

namespace Engine

open Template

/-! ## What parsing answers -/

/-- Taking `s` apart leaves `base` and looks up `lookups` in order. A registered name gives its
pseudo-selector with the argument; for any other there is one notice and nothing else. -/
def TakesApart (q : Engine) (s base : Text) (lookups : List Lookup) : Prop :=
  ∃ calls : List (Call s.length),
    q.parse s = ⟨.ok ⟨base, calls⟩, lookups.filterMap fun l =>
      if (q.registry.find? l.name).isSome then none
      else some (.notice (.unknownPseudo l.name s))⟩ ∧
    calls.map (fun c => (@c.pseudo, c.argument)) = lookups.filterMap fun l =>
      (q.registry.find? l.name).map fun p => (p, l.argument)

/-- The calls of a selector are the registered ones among its lookups, in order. -/
lemma map_calls (q : Engine) (s : Text) :
    (q.calls s).map (fun c => (@c.pseudo, c.argument)) =
      ((q.template.occurrences s).map q.template.lookup).filterMap fun l =>
        (q.registry.find? l.name).map fun p => (p, l.argument) := by
  rw [Engine.calls, List.map_filterMap, List.filterMap_map]
  conv_rhs => rw [← List.attach_map_subtype_val (q.template.occurrences s), List.filterMap_map]
  congr 1
  funext x
  obtain ⟨o, h⟩ := x
  cases hp : q.registry.find? o.name with
  | none => simp [lookup, hp]
  | some p => simp [lookup, hp, argument]

/-- Parsing leaves the base of the template and looks up the occurrences of the template. -/
lemma takesApart_occurrences (q : Engine) (s : Text) :
    q.TakesApart s (q.template.base s) ((q.template.occurrences s).map q.template.lookup) := by
  refine ⟨q.calls s, ?_, q.map_calls s⟩
  simp only [parse, Eval.bind_eq, Eval.pure_eq, Eval.andThen, Eval.notices, Eval.ok,
    unknownNotices, List.append_nil, List.map_filterMap, List.filterMap_map]
  congr 2
  funext o
  by_cases hp : (q.registry.find? o.name).isSome <;> simp [lookup, hp]

/-- Parsing leaves the trimmed fragments of the decomposition that scanning finds, and looks up
its occurrences. -/
lemma takesApart_decompose (q : Engine) (s : Text) :
    q.TakesApart s (trim (q.template.decompose s).fragments.flatten)
      ((q.template.decompose s).items.map q.template.lookup) := by
  rw [← base_eq, ← occurrences_eq]
  exact q.takesApart_occurrences s

/-! ## Any selector -/

/-- **Every selector has exactly one exact decomposition, and parsing follows it.** The text is
its fragments and occurrences in order; the occurrences have the right shape and end as early as
they can, and none begins inside a fragment. With any registry the lookups are the names with the
unescaped values, and the base is what the fragments are together, trimmed. Behind a lead there is
at most one way to read a name with a trail and an opening parenthesis.

**Proof sketch.** Scanning gives an exact decomposition (`decompose_exact`), and every exact
decomposition is the one that scanning gives (`decompose_text`). The name is settled by the run of
word characters that begins with it (`name_unique`). -/
theorem parse_decomposition (t : Template) (s : Text) :
    ∃ g : Decomposition Occurrence,
      g.text t.written = s ∧ g.Exact t ∧
      (∀ g' : Decomposition Occurrence, g'.text t.written = s → g'.Exact t → g' = g) ∧
      (∀ registry : Registry, TakesApart ⟨t, registry⟩ s (trim g.fragments.flatten)
        (g.items.map fun o => ⟨o.name, unescape t.wrapper o.raw⟩)) ∧
      ∀ name name' x x' : Text, (∀ c ∈ name, isWord c = true) → (∀ c ∈ name', isWord c = true) →
        t.lead ++ name ++ t.trail ++ '(' :: x = t.lead ++ name' ++ t.trail ++ '(' :: x' →
        name = name' ∧ x = x' := by
  obtain ⟨htext, hexact⟩ := decompose_exact t s
  refine ⟨t.decompose s, htext, hexact, ?_,
    fun registry => takesApart_decompose ⟨t, registry⟩ s, ?_⟩
  · intro g' htext' hexact'
    rw [← htext', decompose_text hexact']
  · intro name name' x x' hname hname' heq
    simp only [List.append_assoc] at heq
    exact name_unique hname hname' (List.append_cancel_left heq)

/-! ## Written selectors -/

/-- An occurrence that is written for a lookup has the right shape and ends at the first possible
place, if the wrapper is one character and no line feed. -/
lemma fits_occurrenceFor {t : Template} {w : Char} (hw : t.wrapper = [w]) (hline : w ≠ '\n')
    {g : Decomposition Lookup}
    (hnames : ∀ l ∈ g.items, l.name ≠ [] ∧ ∀ c ∈ l.name, isWord c = true) :
    (g.map t.occurrenceFor).Fits t := by
  induction g with
  | last f => trivial
  | cons f l g ih =>
    obtain ⟨⟨hne, hword⟩, hrest⟩ := List.forall_mem_cons.1 hnames
    refine ⟨⟨hne, hword, ?_⟩, ?_, ih hrest⟩
    · simpa [occurrenceFor, hw] using units_escape hline l.argument
    · simpa [occurrenceFor, closing, hw] using shortest_escape w l.argument _

/-- What is looked up for an occurrence that was written for `l` is `l`, if the wrapper is one
character. -/
lemma lookup_occurrenceFor {t : Template} {w : Char} (hw : t.wrapper = [w]) (l : Lookup) :
    t.lookup (t.occurrenceFor l) = l := by
  simp [lookup, occurrenceFor, hw, unescape_escape_singleton]

/-- **A written selector is taken apart into what it was written from.** The wrapper is one
character other than a line feed, lead and trail are arbitrary; the names are made of one or more
word characters, the arguments are arbitrary, and the lead begins at no position inside a
fragment. Then parsing looks up the names with the arguments, in order, and leaves the trimmed
fragments.

**Proof sketch.** The fragments and the escaped occurrences are an exact decomposition: no
occurrence begins where no lead does, and an escaped argument has no end before its own
(`shortest_escape`). So it is the decomposition that scanning finds, and unescaping takes back
what escaping did. -/
theorem parse_written (q : Engine) {w : Char} (hw : q.template.wrapper = [w]) (hline : w ≠ '\n')
    (g : Decomposition Lookup)
    (hnames : ∀ l ∈ g.items, l.name ≠ [] ∧ ∀ c ∈ l.name, isWord c = true)
    (hlead : g.NowhereInside q.template.writtenFor (q.template.lead <+: ·)) :
    q.TakesApart (g.text q.template.writtenFor) (trim g.fragments.flatten) g.items := by
  have hexact : (g.map q.template.occurrenceFor).Exact q.template :=
    ⟨fits_occurrenceFor hw hline hnames,
      (Decomposition.nowhereInside_map _ g).2 (hlead.imp fun s h => h.lead_prefix)⟩
  have htext : g.text q.template.writtenFor =
      (g.map q.template.occurrenceFor).text q.template.written :=
    (Decomposition.text_map q.template.written q.template.occurrenceFor g).symm
  have hparse := q.takesApart_decompose (g.text q.template.writtenFor)
  rw [htext, decompose_text hexact, ← htext] at hparse
  simpa [Function.comp_def, lookup_occurrenceFor hw] using hparse

/-- The wrapper may be a backslash, and the trail may begin with a character of the name and hold
a parenthesis. -/
theorem parse_written_backslash :
    TakesApart ⟨⟨[':'], ['x', '('], ['\\']⟩, Registry.empty⟩
      ['p', ':', 'a', 'x', 'x', '(', '(', '\\', '\\', '\\', ')', '\\', ')', ' ', 'q']
      ['p', ' ', 'q'] [⟨['a', 'x'], ['\\', ')']⟩] := by
  have hword : ['a', 'x'].all isWord = true := by decide +kernel
  have htrim : trim ['p', ' ', 'q'] = ['p', ' ', 'q'] := by decide
  have h := parse_written ⟨⟨[':'], ['x', '('], ['\\']⟩, Registry.empty⟩ rfl (by decide)
    (.cons ['p'] ⟨['a', 'x'], ['\\', ')']⟩ (.last [' ', 'q']))
    (List.forall_mem_singleton.2 ⟨by decide, List.all_eq_true.1 hword⟩)
    ⟨⟨by decide, trivial⟩, by decide, by decide, trivial⟩
  simpa [Decomposition.text, Decomposition.fragments, Decomposition.items, writtenFor, written,
    occurrenceFor, escape_singleton, escapeChar, htrim] using h

end Engine

end TreeQuery
