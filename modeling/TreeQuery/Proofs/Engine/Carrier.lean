import TreeQuery.Proofs.Engine.Candidates
import TreeQuery.Proofs.Engine.Parse
import TreeQuery.Proofs.Template.Gate
import TreeQuery.Proofs.Text.Trimming

set_option relaxedAutoImplicit false
set_option autoImplicit false

/-!
# Selectors that carry one pseudo-selector

A native fragment, a space and the occurrence of a pseudo-selector make a selector. Evaluating it
is no more than giving the argument, as it was before it was escaped, to the pseudo-selector at
every candidate of the fragment. The argument may be any text; only the fragment must be free of
the lead.

## Main definitions

* `TreeQuery.Template.carrier` — a fragment, a space and an occurrence.
* `TreeQuery.Engine.Carries` — evaluating a selector is testing one pseudo-selector.

## Main results

* `TreeQuery.Engine.carries_carrier` — what a fragment with an occurrence of a registered name
  carries.
* `TreeQuery.Engine.Carries.findAll_eq` — the query for all nodes.
-/

namespace TreeQuery

open Text

namespace Template

/-! ## A fragment and an occurrence -/

/-- The selector with a fragment, a space and the occurrence that is written for a lookup. -/
def carrier (t : Template) (b : Text) (l : Lookup) : Text := b ++ [' '] ++ t.writtenFor l

/-- A token without the character `c` does not reach beyond it. -/
lemma prefix_of_prefix_append_cons {token f rest : Text} {c : Char} (hc : c ∉ token)
    (h : token <+: f ++ c :: rest) : token <+: f := by
  have hf : f ++ [c] <+: f ++ c :: rest := ⟨rest, by simp⟩
  rcases List.prefix_or_prefix_of_prefix h hf with h | h
  · rcases List.prefix_concat_iff.1 h with h | h
    · rw [h] at hc
      simp at hc
    · exact h
  · exact absurd (h.subset (by simp)) hc

/-- A token that does not occur in a text begins nowhere inside it, also if there is a character
behind the text that the token does not have. -/
lemma nowhereIn_concat {token b : Text} {c : Char} (hc : c ∉ token) (hb : ¬ token <:+: b)
    (rest : Text) : Decomposition.NowhereIn (token <+: ·) (b ++ [c]) rest := by
  induction b with
  | nil =>
    refine ⟨fun h => hb ?_, trivial⟩
    exact (prefix_of_prefix_append_cons hc h).isInfix
  | cons a b ih =>
    refine ⟨fun h => hb ?_, ih fun h => hb (List.infix_cons h)⟩
    have h' : token <+: (a :: b) ++ c :: rest := by simpa using h
    exact (prefix_of_prefix_append_cons hc h').isInfix

variable {t : Template} {w : Char} {b : Text} {l : Lookup}

/-- Scanning finds the fragment and the occurrence that a selector was made from. -/
lemma decompose_carrier (hw : t.wrapper = [w]) (hline : w ≠ '\n') (hspace : ' ' ∉ t.lead)
    (hne : l.name ≠ []) (hword : ∀ c ∈ l.name, isWord c = true) (hb : ¬ t.lead <:+: b) :
    t.decompose (t.carrier b l) = .cons (b ++ [' ']) (t.occurrenceFor l) (.last []) := by
  have hfits : (Decomposition.cons (b ++ [' ']) (t.occurrenceFor l) (.last [])).Fits t :=
    Engine.fits_occurrenceFor hw hline (g := .cons (b ++ [' ']) l (.last []))
      (List.forall_mem_singleton.2 ⟨hne, hword⟩)
  have hnowhere : Decomposition.NowhereIn t.Begins (b ++ [' ']) (t.writtenFor l ++ []) :=
    (nowhereIn_concat hspace hb _).imp fun s h => h.lead_prefix
  have htext : t.carrier b l =
      (Decomposition.cons (b ++ [' ']) (t.occurrenceFor l) (.last [])).text t.written := by
    simp [carrier, writtenFor, Decomposition.text]
  rw [htext]
  exact decompose_text ⟨hfits, hnowhere, trivial⟩

end Template

namespace Engine

open Template

/-! ## Evaluating -/

/-- Evaluating the selector `s` is testing the pseudo-selector `p` with the given argument at the
candidates for the native selector `base`, and nothing else. -/
structure Carries (q : Engine) (s base : Text) (p : Pseudo) (argument : Text) : Prop where
  hasPseudo : q.hasPseudo s = true
  base_eq : q.template.base s = base
  unknownNotices_eq : q.unknownNotices s = []
  calls_eq : ∃ short, q.calls s = [⟨p, argument, short⟩]

/-- **A fragment and an occurrence carry the pseudo-selector** that the name stands for, with the
default template, any argument and any fragment in which the lead does not occur. -/
theorem carries_carrier {registry : Registry} {name : Text} {p : Pseudo} {b : Text}
    (hp : registry.find? name = some @p) (hne : name ≠ []) (hword : ∀ c ∈ name, isWord c = true)
    (hb : ¬ Template.default.lead <:+: b) (argument : Text) :
    Carries ⟨.default, registry⟩ (Template.default.carrier b ⟨name, argument⟩) (trim b) p
      argument := by
  have hwrapper : Template.default.wrapper = ['"'] := rfl
  have hdecompose := decompose_carrier (l := ⟨name, argument⟩) hwrapper (by decide) (by decide)
    hne hword hb
  have hoccurrences : Template.default.occurrences (Template.default.carrier b ⟨name, argument⟩) =
      [Template.default.occurrenceFor ⟨name, argument⟩] := by
    rw [occurrences_eq, hdecompose]
    rfl
  refine ⟨?hasPseudo, ?base, ?unknown, ?calls⟩
  case hasPseudo =>
    have h := gate_written (t := Template.default)
      (o := Template.default.occurrenceFor ⟨name, argument⟩) hne hword (b ++ [' ']) []
    rwa [List.append_nil] at h
  case base =>
    rw [base_eq, hdecompose]
    simp [Decomposition.fragments, trim_append_space]
  case unknown =>
    rw [unknownNotices, hoccurrences]
    simp [occurrenceFor, hp]
  case calls =>
    have hmap := map_calls ⟨.default, registry⟩ (Template.default.carrier b ⟨name, argument⟩)
    rw [hoccurrences, List.map_singleton, lookup_occurrenceFor hwrapper] at hmap
    simp only [List.filterMap_cons, hp, Option.map_some, List.filterMap_nil] at hmap
    obtain ⟨⟨p', argument', short⟩, hcalls, hcall⟩ := List.map_eq_singleton_iff.1 hmap
    obtain ⟨hpseudo, hargument⟩ := Prod.mk.inj hcall
    dsimp only at hpseudo hargument
    subst hpseudo hargument
    exact ⟨short, hcalls⟩

namespace Carries

variable {q : Engine} {s base argument : Text} {p : Pseudo}

/-- The query for all nodes tests every candidate. -/
lemma findAll_eq (h : q.Carries s base p argument) (d : Document) (root : NodeId) :
    q.findAll d root s = Eval.ofNative (d.targets root base) >>= Eval.keep (q.retains d s) := by
  rw [findAll_eq_search h.hasPseudo, search, h.unknownNotices_eq, h.base_eq]
  exact Eval.bind_of_ok rfl _

/-- A candidate is kept if the pseudo-selector holds of it. -/
lemma retains_eq (h : q.Carries s base p argument) (d : Document) :
    ∃ short : argument.length < s.length, ∀ n, q.retains d s n =
      (p (q.element d n s.length) argument short).excuse fun e => .predicateFailed s n e := by
  obtain ⟨short, hcalls⟩ := h.calls_eq
  refine ⟨short, fun n => ?_⟩
  have hall : holdAll (q.element d n s.length) [⟨p, argument, short⟩] =
      p (q.element d n s.length) argument short >>= pure := by
    rw [holdAll]
    congr 1
    funext b
    cases b <;> rfl
  rw [retains, hcalls, keeps, hall, bind_pure]

end Carries

end Engine

end TreeQuery
