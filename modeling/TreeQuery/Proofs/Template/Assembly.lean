import TreeQuery.Proofs.Template.Decomposition

set_option relaxedAutoImplicit false
set_option autoImplicit false

/-!
# Texts assembled from fragments and occurrences

Fragments and occurrences may be put together in any order, and scanning takes the text apart into
the same fragments and occurrences again, if the lead is in no fragment and the occurrences are
complete by themselves. A lead might still begin in a fragment and end in the occurrence behind it.
It does not if the lead never begins within itself, as the built-in lead: then a lead that begins
before another one also ends before it.

## Main definitions

* `TreeQuery.Template.Unbordered` — a token that does not begin again within itself.
* `TreeQuery.Decomposition.Assembled` — fragments without the lead and complete occurrences.

## Main results

* `TreeQuery.Template.nowhereIn_of_unbordered` — where a token begins in front of another one.
* `TreeQuery.Decomposition.Assembled.decompose_text` — scanning takes an assembled text apart into
  what it was assembled from.
-/

namespace TreeQuery

open Text

namespace Template

/-! ## Tokens in front of a token -/

/-- No proper part at the end of the token is also at its beginning. -/
def Unbordered (token : Text) : Prop :=
  ∀ u v, token = u ++ v → u ≠ [] → v ≠ [] → ¬ v <+: token

/-- Whether a token is unbordered is told by its ends of each length. -/
lemma unbordered_iff {token : Text} :
    Unbordered token ↔ ∀ n < token.length, 0 < n → ¬ token.drop n <+: token := by
  constructor
  · intro h n hn hpos
    refine h (token.take n) _ (List.take_append_drop n token).symm ?_ ?_
    · exact List.ne_nil_of_length_pos (by rw [List.length_take]; omega)
    · exact List.ne_nil_of_length_pos (by rw [List.length_drop]; omega)
  · rintro h u v rfl hu hv
    have hlt : u.length < (u ++ v).length := by
      simpa using List.length_pos_iff.2 hv
    simpa using h u.length hlt (List.length_pos_iff.2 hu)

/-- The built-in lead is unbordered. -/
lemma unbordered_lead_default : Unbordered Template.default.lead :=
  unbordered_iff.2 (by decide +kernel)

/-- **An unbordered token that is not in a text** begins nowhere inside the text if the token itself
is behind it.

**Proof sketch.** One that begins inside the text and ends inside it would be in the text. One that
ends beyond it has an end in common with the beginning of the token behind the text, and so would
begin again within itself. -/
lemma nowhereIn_of_unbordered {token f : Text} (htoken : Unbordered token) (hf : ¬ token <:+: f)
    (rest : Text) : Decomposition.NowhereIn (token <+: ·) f (token ++ rest) := by
  induction f with
  | nil => trivial
  | cons c f ih =>
    refine ⟨fun h => ?_, ih fun h => hf (List.infix_cons h)⟩
    rcases List.prefix_or_prefix_of_prefix h (List.prefix_append (c :: f) _) with h' | ⟨v, hv⟩
    · exact hf h'.isInfix
    · have hne : v ≠ [] := by
        rintro rfl
        rw [List.append_nil] at hv
        exact hf (hv ▸ List.infix_rfl)
      have hprefix : v <+: token ++ rest := by
        rw [← hv] at h ⊢
        exact (List.prefix_append_right_inj _).1 h
      have hlength : v.length ≤ token.length := List.IsSuffix.length_le ⟨c :: f, hv⟩
      exact htoken (c :: f) v hv.symm (List.cons_ne_nil _ _) hne
        (List.prefix_of_prefix_length_le hprefix (List.prefix_append _ _) hlength)

/-- Whether a value could end earlier does not depend on what is behind its end. -/
lemma Shortest.congr {close raw rest : Text} (h : Shortest close raw rest) (rest' : Text) :
    Shortest close raw rest' := by
  intro u v huv hu hv hclose
  have hend : close <+: v ++ close :=
    List.prefix_of_prefix_length_le hclose (List.prefix_append _ _) (by simp)
  exact h u v huv hu hv (hend.trans (List.prefix_append _ _))

end Template

namespace Decomposition

open Template

/-! ## Assembled texts -/

/-- The lead is in no fragment, and every occurrence is complete by itself: its own text is read as
this occurrence, up to the end. -/
structure Assembled (t : Template) (g : Decomposition Occurrence) : Prop where
  free : ∀ f ∈ g.fragments, ¬ t.lead <:+: f
  complete : ∀ o ∈ g.items, occurrence? t (t.written o) = some (o, [])

namespace Assembled

variable {t : Template} {g : Decomposition Occurrence}

/-- What is left of an assembled text behind its first occurrence is assembled. -/
lemma rest {f : Text} {o : Occurrence} (h : (cons f o g).Assembled t) : g.Assembled t :=
  ⟨(List.forall_mem_cons.1 h.free).2, (List.forall_mem_cons.1 h.complete).2⟩

lemma fits (h : g.Assembled t) : g.Fits t := by
  induction g with
  | last f => trivial
  | cons f o g ih =>
    obtain ⟨-, hwf, hshort⟩ := occurrence?_sound (h.complete o (List.mem_cons_self ..))
    exact ⟨hwf, hshort.congr _, ih h.rest⟩

lemma nowhereInside (hlead : Unbordered t.lead) (h : g.Assembled t) :
    g.NowhereInside t.written (t.lead <+: ·) := by
  induction g with
  | last f =>
    refine .of_forall fun u v hf hv => h.free f (List.mem_cons_self ..) ?_
    exact hv.isInfix.trans ⟨u, [], by simp [hf]⟩
  | cons f o g ih =>
    refine ⟨?_, ih h.rest⟩
    rw [written_eq, List.append_assoc]
    exact nowhereIn_of_unbordered hlead (h.free f (List.mem_cons_self ..)) _

/-- **Scanning takes an assembled text apart** into the fragments and occurrences that it was
assembled from, if the lead is unbordered. -/
theorem decompose_text (hlead : Unbordered t.lead) (h : g.Assembled t) :
    t.decompose (g.text t.written) = g :=
  Template.decompose_text ⟨h.fits, (h.nowhereInside hlead).imp fun _ hs => hs.lead_prefix⟩

end Assembled

end Decomposition

end TreeQuery
