import TreeQuery.Proofs.Context.Closest
import TreeQuery.Proofs.Native.Chains
import TreeQuery.Proofs.Native.Questions

set_option relaxedAutoImplicit false
set_option autoImplicit false

/-!
# What a query upwards finds

The alternatives of a query upwards are joined to one text, and this text is what the document is
asked about. If the alternatives are selectors by themselves and have no other blanks at their ends
than the grammar knows, joining them is the same as putting their selectors together: commas inside
an alternative stay where they are, and the comma between two alternatives is not taken for a part
of either. So the query finds the nearest node upwards that satisfies one of the alternatives.

## Main definitions

* `TreeQuery.Native.EndsInSpaces` — the blanks at the ends of a text are spaces of the grammar.
* `TreeQuery.Document.satisfiesAny` — a node satisfies one of several selectors.

## Main results

* `TreeQuery.Native.parse_joined` — reading joined alternatives.
* `TreeQuery.Context.closest_joinsAlternatives` — what a query upwards finds.
-/

namespace TreeQuery

open Text Native

/-! ## Reading joined alternatives -/

namespace Native

/-- The blanks at the beginning and at the end of a text are among the four spaces that the grammar
knows. -/
def EndsInSpaces (s : Text) : Prop :=
  (∀ c ∈ s.takeWhile isBlank, isSpace c = true) ∧ ∀ c ∈ s.rtakeWhile isBlank, isSpace c = true

instance (s : Text) : Decidable (EndsInSpaces s) :=
  decidable_of_iff
    ((s.takeWhile isBlank).all isSpace = true ∧ (s.rtakeWhile isBlank).all isSpace = true)
    (and_congr List.all_eq_true List.all_eq_true)

variable {alternatives : Alternatives} {lists : List SelectorList}

/-- Texts that end in spaces meet cleanly in any order. -/
lemma isChain_meetsCleanly (h : ∀ a ∈ alternatives, EndsInSpaces a) :
    alternatives.IsChain MeetsCleanly :=
  (List.pairwise_of_forall_mem_list fun a ha b hb => ⟨(h a ha).2, (h b hb).1⟩).isChain

/-- **Reading joined alternatives** gives what they are read as one by one, in order, if they end in
spaces. -/
theorem parse_joined (hne : alternatives ≠ [])
    (hlists : List.Forall₂ (fun a l => SelectorList.parse a = .ok l) alternatives lists)
    (hends : ∀ a ∈ alternatives, EndsInSpaces a) :
    SelectorList.parse alternatives.joined = .ok lists.flatten := by
  have hquotes : ∀ a ∈ alternatives, ClosesQuotes a := by
    intro a ha
    obtain ⟨l, hl⟩ := not_rejected_iff.1 (exists_lists_iff.1 ⟨lists, hlists⟩ a ha)
    exact closesQuotes_of_parse hl
  refine (parse_joined_iff hne (fun a ha => hquotes a (List.dropLast_subset _ ha)) _).2 ?_
  exact ⟨isChain_meetsCleanly hends, lists, hlists, rfl⟩

end Native

/-! ## Satisfying one of several selectors -/

namespace Document

/-- Whether a node satisfies one of the alternatives, each of them asked about by itself. -/
def satisfiesAny (d : Document) (alternatives : Alternatives) (n : NodeId) : Bool :=
  alternatives.any fun a => (d.satisfies n a).toOption.getD false

variable {d : Document} {alternatives : Alternatives} {lists : List SelectorList} {n : NodeId}

lemma satisfiesAny_iff :
    d.satisfiesAny alternatives n = true ↔ ∃ a ∈ alternatives, d.satisfies n a = .ok true := by
  have hanswer (x : Except InvalidSelector Bool) :
      x.toOption.getD false = true ↔ x = .ok true := by
    cases x <;> simp [Except.toOption]
  rw [satisfiesAny, List.any_eq_true]
  simp only [hanswer]

/-- A node satisfies one of the alternatives exactly if the lists that these are read as, put
together, hold of it. -/
lemma holds_flatten
    (hlists : List.Forall₂ (fun a l => SelectorList.parse a = .ok l) alternatives lists) :
    SelectorList.holds lists.flatten d n = d.satisfiesAny alternatives n := by
  induction hlists with
  | nil => simp [SelectorList.holds, satisfiesAny]
  | @cons a l alternatives lists ha _ ih =>
    have hsatisfies : d.satisfies n a = .ok (l.holds d n) := (answersBy_of_parse ha d).satisfies n
    rw [satisfiesAny, List.any_cons, hsatisfies, ← satisfiesAny, ← ih]
    rw [SelectorList.holds, List.flatten_cons, List.any_append, Bool.and_or_distrib_left]
    rfl

lemma isElement_of_satisfiesAny (h : d.satisfiesAny alternatives n = true) :
    d.isElement n = true := by
  obtain ⟨a, -, ha⟩ := satisfiesAny_iff.1 h
  rw [satisfies] at ha
  cases hparse : SelectorList.parse a with
  | error e =>
    rw [hparse] at ha
    cases ha
  | ok l =>
    rw [hparse] at ha
    exact (Bool.and_eq_true_iff.1 (Except.ok.inj ha)).1

end Document

/-! ## Queries upwards -/

namespace Context

/-- **What a query upwards finds.** If the alternatives are native selectors by themselves and the
blanks at their ends are spaces of the grammar, then the joined text is read as the selectors of all
of them, in order; and the query gives the nearest element, from its root upwards and this included,
that satisfies one of the alternatives, or nothing if there is none.

**Proof sketch.** The selectors that are put together hold of the nodes that satisfy one of the
alternatives (`Document.holds_flatten`), and going up finds the nearest node of which something
holds. -/
theorem closest_joinsAlternatives (c : Context) (root : Handle) {alternatives : Alternatives}
    (hne : alternatives ≠ []) {lists : List SelectorList}
    (hlists : List.Forall₂ (fun a l => SelectorList.parse a = .ok l) alternatives lists)
    (hends : ∀ a ∈ alternatives, EndsInSpaces a) :
    let d := root.document
    SelectorList.parse alternatives.joined = .ok lists.flatten ∧
      ∃ found, (c.closest root alternatives).eval = .ok (found.map root.sibling) ∧
        (∀ n, found = some n ↔ d.IsNearest (d.satisfiesAny alternatives) root.node n) ∧
        (∀ n, found = some n → d.isElement n = true) ∧
        (found = none ↔
          ∀ n, d.Within n root.node → ∀ a ∈ alternatives, d.satisfies n a ≠ .ok true) := by
  intro d
  have hparse := parse_joined hne hlists hends
  refine ⟨hparse, ?_⟩
  have hholds : SelectorList.holds lists.flatten d = d.satisfiesAny alternatives :=
    funext fun n => Document.holds_flatten hlists
  obtain ⟨found, hfound, hsome, hnone⟩ := (Document.answersBy_of_parse hparse d).closest root.node
  rw [hholds] at hsome hnone
  refine ⟨found, ?eval, hsome, ?element, hnone.trans ?none⟩
  case eval =>
    have hresult := result_closest c root hne
    rw [hfound] at hresult
    exact congrArg₂ Eval.mk hresult (effects_closest c root alternatives)
  case element => exact fun n hn => Document.isElement_of_satisfiesAny ((hsome n).1 hn).satisfied
  case none =>
    refine forall₂_congr fun n _ => ?_
    rw [← Bool.not_eq_true, Document.satisfiesAny_iff]
    push Not
    rfl

/-- A comma inside quotes, spaces of the grammar at the ends of an alternative, and two elements
upwards that satisfy an alternative, of which the nearer one is found. -/
theorem closest_joinsAlternatives_nearer :
    let d : Document := ⟨#[⟨0, .element ['r'] []⟩, ⟨1, .element ['a'] []⟩, ⟨2, .element ['b'] []⟩],
      by decide⟩
    let alternatives : Alternatives := ["[k=', '] , r".toList, "\ta\n".toList]
    (alternatives ≠ [] ∧ ∀ a ∈ alternatives, EndsInSpaces a) ∧
      (∃ lists, List.Forall₂ (fun a l => SelectorList.parse a = .ok l) alternatives lists ∧
        SelectorList.parse alternatives.joined = .ok lists.flatten) ∧
      d.IsNearest (d.satisfiesAny alternatives) 3 2 ∧
      ((Context.new false).closest ⟨d, 3⟩ alternatives).eval = .ok (some ⟨d, 2⟩) := by
  intro d alternatives
  have hne : alternatives ≠ [] := List.cons_ne_nil _ _
  have hends : ∀ a ∈ alternatives, EndsInSpaces a := by decide +kernel
  obtain ⟨lists, hlists⟩ :=
    exists_lists_iff.2 (by decide +kernel : ∀ a ∈ alternatives, ¬ Rejected a)
  have hnearest : d.IsNearest (d.satisfiesAny alternatives) 3 2 :=
    Document.find?_eq_some_iff.1 (by decide +kernel)
  obtain ⟨hparse, found, hfound, hsome, -, -⟩ :=
    closest_joinsAlternatives (Context.new false) ⟨d, 3⟩ hne hlists hends
  refine ⟨⟨hne, hends⟩, ⟨lists, hlists, hparse⟩, hnearest, ?_⟩
  rw [hfound, (hsome 2).2 hnearest]
  rfl

end Context

end TreeQuery
