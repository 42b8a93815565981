import Mathlib.Data.List.TakeWhile
import TreeQuery.Proofs.Document.Order
import TreeQuery.Proofs.Text.Lines

set_option relaxedAutoImplicit false
set_option autoImplicit false

/-!
# The tags of a document

The elements of a document that has been read from a marked-up text are tagged with names: a letter
that names may begin with, and then characters that names may hold. A name is read where a tag
begins and cut at its colon; its second part goes unchanged through the tokens and the draft into
the document. Whatever else the text holds never gets into a tag.

## Main definitions

* `TreeQuery.Markup.IsLocalName` — a name without a qualifier.
* `TreeQuery.Document.Named` — the elements of a document are tagged with such names.

## Main results

* `TreeQuery.Markup.named_of_tokensOfText` — the names of the start tags of a text.
* `TreeQuery.Document.named_of_ofMarkup` — the tags of a document from markup.
* `TreeQuery.Document.Named.isNameChar_of_mem_tag` — what stands in the tag of a node.
-/

namespace TreeQuery

open Text

/-! ## Names of start tags -/

namespace Markup

/-- A name without a qualifier: a letter that names may begin with, and characters that names may
hold. -/
structure IsLocalName (s : Text) : Prop where
  begins : beginsName s = true
  isNameChar : ∀ c ∈ s, isNameChar c = true

/-- The name of a start tag is a local name behind its qualifier. Other tokens have no name. -/
def Token.Named : Token → Prop
  | .start name _ _ => IsLocalName name.name
  | _ => True

variable {s rest : Text} {t : Token}

/-- **A qualified name that has been read** has a local name. -/
lemma isLocalName_of_qname? {name : QName} (h : qname? s = some (name, rest)) :
    IsLocalName name.name := by
  unfold qname? at h
  dsimp only at h
  generalize hrun : s.takeWhile (fun c => Markup.isNameChar c || c == ':') = run at h
  -- A piece between colons holds no colon, and the run holds nothing else but letters of names.
  have hchars (part : Text) (hpart : part ∈ pieces (· == ':') run) :
      ∀ c ∈ part, Markup.isNameChar c = true := by
    intro c hc
    obtain ⟨hmem, hcolon⟩ := mem_of_mem_pieces hpart hc
    have hclass := List.mem_takeWhile_imp (hrun ▸ hmem)
    rwa [hcolon, Bool.or_false] at hclass
  split at h
  · rename_i local? hpieces
    split at h
    · rename_i hbegins
      obtain ⟨rfl, rfl⟩ := Prod.mk.inj (Option.some.inj h)
      exact ⟨hbegins, hchars _ (by simp [hpieces])⟩
    · simp at h
  · rename_i qualifier local? hpieces
    split at h
    · rename_i hbegins
      obtain ⟨rfl, rfl⟩ := Prod.mk.inj (Option.some.inj h)
      exact ⟨(Bool.and_eq_true_iff.1 hbegins).2, hchars _ (by simp [hpieces])⟩
    · simp at h
  · simp at h

lemma named_of_startTag? (h : startTag? s = .ok (t, rest)) : t.Named := by
  unfold startTag? at h
  split at h
  · simp at h
  · rename_i name s₁ hname
    obtain ⟨⟨attributes, closed, rest'⟩, -, ht⟩ := Document.exists_of_map h
    obtain ⟨rfl, rfl⟩ := Prod.mk.inj ht
    exact isLocalName_of_qname? hname

lemma named_of_endTag? (h : endTag? s = .ok (t, rest)) : t.Named := by
  unfold endTag? at h
  split at h
  · simp at h
  · split at h
    · obtain ⟨rfl, rfl⟩ := Prod.mk.inj (Except.ok.inj h)
      trivial
    · simp at h

lemma named_of_comment? (h : comment? s = .ok (t, rest)) : t.Named := by
  unfold comment? at h
  split at h
  · simp at h
  · split at h
    · simp at h
    · obtain ⟨rfl, rfl⟩ := Prod.mk.inj (Except.ok.inj h)
      trivial

lemma named_of_instruction? (h : instruction? s = .ok (t, rest)) : t.Named := by
  unfold instruction? at h
  split at h
  · simp at h
  · split at h
    · simp at h
    · split at h
      · simp at h
      · obtain ⟨rfl, rfl⟩ := Prod.mk.inj (Except.ok.inj h)
        trivial

lemma named_of_verbatim? (h : verbatim? s = .ok (t, rest)) : t.Named := by
  unfold verbatim? at h
  split at h
  · simp at h
  · obtain ⟨rfl, rfl⟩ := Prod.mk.inj (Except.ok.inj h)
    trivial

lemma named_of_markup? (h : markup? s = .ok (t, rest)) : t.Named := by
  unfold markup? at h
  split at h
  · split at h
    · exact named_of_comment? h
    · split at h
      · exact named_of_verbatim? h
      · split at h <;> simp at h
  · exact named_of_instruction? h
  · exact named_of_endTag? h
  · exact named_of_startTag? h

/-- The token at the beginning of a text. -/
lemma named_of_token? {c : Char} (h : token? c s = .ok (t, rest)) : t.Named := by
  unfold token? at h
  split at h
  · exact named_of_markup? h
  · dsimp only at h
    split at h
    · simp at h
    · obtain ⟨raw, -, ht⟩ := Document.exists_of_map h
      obtain ⟨rfl, rfl⟩ := Prod.mk.inj ht
      trivial

lemma named_of_tokens {ts : List Token} (h : tokens s = .ok ts) : ∀ t ∈ ts, t.Named := by
  fun_induction tokens s generalizing ts with
  | case1 =>
    obtain rfl := Except.ok.inj h
    simp
  | case2 => simp at h
  | case3 c s t rest htoken ih =>
    obtain ⟨ts', hts', rfl⟩ := Document.exists_of_map h
    exact List.forall_mem_cons.2 ⟨named_of_token? htoken, ih hts'⟩

/-- **The start tags of a text** have local names, whatever stands in front of the tokens. -/
theorem named_of_tokensOfText {ts : List Token} (h : tokensOfText s = .ok ts) :
    ∀ t ∈ ts, t.Named := by
  unfold tokensOfText at h
  dsimp only at h
  split at h
  · exact named_of_tokens h
  · obtain ⟨s', -, htokens⟩ := Document.exists_of_bind h
    exact named_of_tokens htokens

end Markup

/-! ## Tags of elements -/

namespace Document

open Markup (IsLocalName)

/-- The elements of the document are tagged with local names. -/
def Named (d : Document) : Prop :=
  ∀ node ∈ d.nodes, ∀ tag attributes, node.content = .element tag attributes → IsLocalName tag

variable {d : Document} {t : Markup.Token} {n : NodeId}

/-- One more node, brought in by a token. -/
lemma Named.add {draft : Draft} (h : draft.document.Named) (ht : t.Named) {content : Content}
    (hcontent : Draft.Brings t content) : (draft.add content).document.Named := by
  intro node hnode tag attributes htag
  rcases Array.mem_push.1 hnode with hnode | rfl
  · exact h node hnode tag attributes htag
  · obtain rfl : content = .element tag attributes := htag
    obtain ⟨name, raw, closed, rfl, rfl⟩ := hcontent
    exact ht

/-- **A step keeps the tags named**, if the token is. -/
lemma Named.step {draft draft' : Draft} (h : draft.document.Named) (ht : t.Named)
    (hstep : draft.step t = .ok draft') : draft'.document.Named := by
  rcases Draft.step_cases hstep with rfl | ⟨content, hcontent, rfl⟩ |
    ⟨name, scope, content, hcontent, rfl⟩ | rfl
  · exact h
  · exact h.add ht hcontent
  · exact h.add ht hcontent
  · exact h

lemma Named.steps {draft draft' : Draft} {tokens : List Markup.Token}
    (h : draft.document.Named) (htokens : ∀ t ∈ tokens, t.Named)
    (hsteps : draft.steps tokens = .ok draft') : draft'.document.Named := by
  induction tokens generalizing draft with
  | nil =>
    obtain rfl : draft = draft' := Except.ok.inj hsteps
    exact h
  | cons t tokens ih =>
    obtain ⟨ht, htokens⟩ := List.forall_mem_cons.1 htokens
    obtain ⟨draft'', hstep, hsteps⟩ := exists_of_bind hsteps
    exact ih (h.step ht hstep) htokens hsteps

/-- **The elements of a document from markup are tagged with local names.** -/
theorem named_of_ofMarkup {s : Text} (h : ofMarkup s = .ok d) : d.Named := by
  obtain ⟨tokens, draft, htokens, hsteps, rfl⟩ := exists_of_ofMarkup h
  have hempty : Draft.empty.document.Named := by simp [Named, Draft.empty, empty]
  exact hempty.steps (Markup.named_of_tokensOfText htokens) hsteps

/-- What a tag holds may stand in a name. A node that is no element has an empty tag. -/
lemma Named.isNameChar_of_mem_tag (h : d.Named) {c : Char} (hc : c ∈ d.tag n) :
    Markup.isNameChar c = true := by
  unfold tag at hc
  split at hc
  · rename_i parent tag attributes hnode
    have hmem : (⟨parent, .element tag attributes⟩ : Node) ∈ d.nodes := by
      cases n with
      | zero => simp [node?] at hnode
      | succ n => exact Array.mem_of_getElem? hnode
    exact (h _ hmem tag attributes rfl).isNameChar c hc
  · simp at hc

end Document

end TreeQuery
