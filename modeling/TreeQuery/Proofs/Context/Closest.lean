import TreeQuery.Context
import TreeQuery.Proofs.Document.Order
import TreeQuery.Proofs.Evaluation.Search
import TreeQuery.Proofs.Native.Seams

set_option relaxedAutoImplicit false
set_option autoImplicit false

/-!
# Queries upwards

A query upwards joins its alternatives to one native selector, and it fails exactly if the joined
text is rejected. This is not quite the same as one of the alternatives being rejected. An
alternative that ends or begins with a blank other than the four spaces is accepted by itself but
not inside a list, and a quote that one alternative opens and the next one closes turns both, which
are rejected one by one, into one selector that is accepted.

Apart from these two seams the alternatives are judged one by one.

## Main definitions

* `TreeQuery.Native.Rejected` — a text is no native selector.
* `TreeQuery.Eval.Fails` — an evaluation ends with an error.

## Main results

* `TreeQuery.Context.closest_fails_iff` — when a query upwards fails.
* `TreeQuery.Context.closest_judges_seams` — alternatives that are not judged one by one.
-/

namespace TreeQuery

/-- The text is no native selector. -/
def Native.Rejected (s : Text) : Prop := ∃ e, SelectorList.parse s = .error e

instance : DecidablePred Native.Rejected := fun s =>
  match h : Native.SelectorList.parse s with
  | .ok list => .isFalse fun ⟨e, he⟩ => by simp [h] at he
  | .error e => .isTrue ⟨e, h⟩

/-- The evaluation ends with an error. -/
def Eval.Fails {α : Type} (x : Eval α) : Prop := ∃ e, x.result = .error e

open Native

namespace Native

lemma not_rejected_iff {s : Text} : ¬ Rejected s ↔ ∃ list, SelectorList.parse s = .ok list := by
  rw [Rejected]
  cases SelectorList.parse s <;> simp

lemma exists_lists_iff {alternatives : Alternatives} :
    (∃ lists, List.Forall₂ (fun a l => SelectorList.parse a = .ok l) alternatives lists) ↔
      ∀ a ∈ alternatives, ¬ Rejected a := by
  induction alternatives with
  | nil => simp
  | cons a alternatives ih =>
    rw [List.forall_mem_cons, ← ih, not_rejected_iff]
    constructor
    · rintro ⟨_, h⟩
      cases h with
      | cons ha hlists => exact ⟨⟨_, ha⟩, _, hlists⟩
    · rintro ⟨⟨l, ha⟩, lists, hlists⟩
      exact ⟨l :: lists, .cons ha hlists⟩

/-- **When joined texts are rejected**, if all but the last one close their quotes: one of them is
rejected by itself, or two neighbours do not meet cleanly. -/
theorem rejected_joined_iff {alternatives : Alternatives} (hne : alternatives ≠ [])
    (hquotes : ∀ a ∈ alternatives.dropLast, ClosesQuotes a) :
    Rejected alternatives.joined ↔
      (∃ a ∈ alternatives, Rejected a) ∨ ¬ alternatives.IsChain MeetsCleanly := by
  have haccepted : ¬ Rejected alternatives.joined ↔
      alternatives.IsChain MeetsCleanly ∧ ∀ a ∈ alternatives, ¬ Rejected a := by
    rw [not_rejected_iff, ← exists_lists_iff]
    constructor
    · rintro ⟨list, h⟩
      obtain ⟨hchain, lists, hlists, -⟩ := (parse_joined_iff hne hquotes list).1 h
      exact ⟨hchain, lists, hlists⟩
    · rintro ⟨hchain, lists, hlists⟩
      exact ⟨_, (parse_joined_iff hne hquotes _).2 ⟨hchain, lists, hlists, rfl⟩⟩
  rw [← not_iff_not, haccepted]
  push Not
  exact and_comm

end Native

namespace Context

/-- The answer of a query upwards is the answer of the document for the joined alternatives. -/
lemma result_closest (c : Context) (root : Handle) {alternatives : Alternatives}
    (hne : alternatives ≠ []) : (c.closest root alternatives).eval.result =
      ((root.document.closest root.node alternatives.joined).mapError .invalidSelector).map
        (·.map root.sibling) := by
  rw [closest, if_neg (by simpa using hne)]
  dsimp only
  cases root.document.closest root.node alternatives.joined <;> rfl

/-- A query upwards has no effects. -/
lemma effects_closest (c : Context) (root : Handle) (alternatives : Alternatives) :
    (c.closest root alternatives).eval.effects = [] := by
  unfold closest
  split
  · rfl
  · exact (Eval.effects_map _ _).trans (Eval.effects_ofNative _)

/-- A query upwards fails if and only if the joined text is rejected. -/
lemma fails_closest_iff (c : Context) (root : Handle) {alternatives : Alternatives}
    (hne : alternatives ≠ []) :
    (c.closest root alternatives).eval.Fails ↔ Rejected alternatives.joined := by
  rw [Eval.Fails, Rejected, result_closest c root hne, Document.closest]
  cases SelectorList.parse alternatives.joined <;> simp [Except.map, Except.mapError]

/-- **When a query upwards fails.** It does if the joined text is rejected. If all alternatives but
the last one close the quotes that they open, this means that one of them is rejected by itself, or
that two neighbours meet at a blank that the grammar does not know; and alternatives that are
accepted by themselves do close their quotes. -/
theorem closest_fails_iff (c : Context) (root : Handle) {alternatives : Alternatives}
    (hne : alternatives ≠ []) :
    ((c.closest root alternatives).eval.Fails ↔ Rejected alternatives.joined) ∧
      ((∀ a ∈ alternatives.dropLast, ClosesQuotes a) →
        ((c.closest root alternatives).eval.Fails ↔
          (∃ a ∈ alternatives, Rejected a) ∨ ¬ alternatives.IsChain MeetsCleanly)) ∧
      ∀ a, ¬ Rejected a → ClosesQuotes a := by
  refine ⟨fails_closest_iff c root hne, fun hquotes => ?_, fun a ha => ?_⟩
  · rw [fails_closest_iff c root hne]
    exact rejected_joined_iff hne hquotes
  · obtain ⟨list, hlist⟩ := not_rejected_iff.1 ha
    exact closesQuotes_of_parse hlist

/-- A no-break space at the end of the second one of three alternatives that are accepted one by
one, and a bracket that is opened in one alternative and closed in the next one; the query is asked
from the only element of a document. -/
theorem closest_fails_iff_bracket :
    let c := Context.new false
    let d : Document := ⟨#[⟨0, .element ['a'] []⟩], by decide⟩
    let blank : Alternatives := ["[k='\"']".toList, ['b', '\u00a0'], ['c']]
    let bracket : Alternatives := ["a[k=".toList, "v]".toList]
    Document.ofMarkup "<a/>".toList = .ok d ∧
      (blank ≠ [] ∧ (∀ a ∈ blank.dropLast, ClosesQuotes a) ∧ (∀ a ∈ blank, ¬ Rejected a) ∧
        (c.closest (d.root.sibling 1) blank).eval.Fails) ∧
      bracket ≠ [] ∧ (∀ a ∈ bracket.dropLast, ClosesQuotes a) ∧ bracket.IsChain MeetsCleanly ∧
        Rejected "v]".toList ∧ (c.closest (d.root.sibling 1) bracket).eval.Fails := by
  intro c d blank bracket
  have hblank : blank ≠ [] := List.cons_ne_nil _ _
  have hblankQuotes : ∀ a ∈ blank.dropLast, ClosesQuotes a := by decide
  have hunclean : ¬ blank.IsChain MeetsCleanly := by decide +kernel
  have hbracket : bracket ≠ [] := List.cons_ne_nil _ _
  have hbracketQuotes : ∀ a ∈ bracket.dropLast, ClosesQuotes a := by decide
  have hrejected : Rejected "v]".toList := by decide +kernel
  obtain ⟨-, hfailsBlank, -⟩ := closest_fails_iff c (d.root.sibling 1) hblank
  obtain ⟨-, hfailsBracket, -⟩ := closest_fails_iff c (d.root.sibling 1) hbracket
  refine ⟨by decide +kernel, ⟨hblank, hblankQuotes, by decide +kernel, ?_⟩, hbracket,
    hbracketQuotes, by decide +kernel, hrejected, ?_⟩
  · exact (hfailsBlank hblankQuotes).2 (.inr hunclean)
  · exact (hfailsBracket hbracketQuotes).2 (.inl ⟨_, by simp [bracket], hrejected⟩)

/-- **Alternatives that are not judged one by one**, from the only element of a document: the blank
at the seam of the first two is no space of the grammar, and the quote of the other two is closed
behind the seam. -/
theorem closest_judges_seams :
    let c := Context.new false
    let d : Document := ⟨#[⟨0, .element ['a'] []⟩], by decide⟩
    let blank : Alternatives := [['a', '\u00a0'], ['b']]
    let quoted : Alternatives := ["[a=\"".toList, "\"]".toList]
    Document.ofMarkup "<a/>".toList = .ok d ∧
      ((∀ a ∈ blank, ¬ Rejected a) ∧ (c.closest (d.root.sibling 1) blank).eval.Fails) ∧
      (∀ a ∈ quoted, Rejected a) ∧ ¬ (c.closest (d.root.sibling 1) quoted).eval.Fails := by
  intro c d blank quoted
  have hblank : Rejected blank.joined := by decide +kernel
  have hquoted : ¬ Rejected quoted.joined := by decide +kernel
  refine ⟨by decide +kernel, ⟨by decide +kernel, ?_⟩, by decide +kernel, ?_⟩
  · rwa [fails_closest_iff c _ (List.cons_ne_nil _ _)]
  · rwa [fails_closest_iff c _ (List.cons_ne_nil _ _)]

end Context

end TreeQuery
