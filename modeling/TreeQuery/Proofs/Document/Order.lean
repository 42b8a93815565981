import TreeQuery.Document.OfMarkup
import TreeQuery.Proofs.Document.Ancestry

set_option relaxedAutoImplicit false
set_option autoImplicit false

/-!
# Document order

The nodes of a document that has been read from a marked-up text are numbered in the order in which
their beginnings stand in the text: a new node becomes a child of the node before it or of a node
above that one. Numbers that are given in this way follow the tree: everything that lies below a
node comes behind it, and it comes before everything below a later sibling. So what lies below a
node is a run of numbers, and the smaller one of two numbers belongs to the node that comes first in
the tree.

## Main definitions

* `TreeQuery.Document.Precedes` — one node comes before another one in the tree.
* `TreeQuery.Document.InOrder` — the nodes are numbered as they come.

## Main results

* `TreeQuery.Document.within_of_le` — the nodes below a node are a run.
* `TreeQuery.Document.lt_iff_precedes` — numbers follow the tree.
* `TreeQuery.Document.inOrder_of_ofMarkup` — documents from markup are numbered as they come.
-/

namespace TreeQuery.Document

/-- Documents with the same nodes are the same. -/
instance : DecidableEq Document := fun d d' =>
  decidable_of_iff (d.nodes = d'.nodes)
    ⟨fun h => by cases d; cases d'; cases h; rfl, congrArg Document.nodes⟩

/-! ## The tree of a document -/

variable {d : Document} {a b n p x y : NodeId}

/-- Going up leads to smaller numbers. -/
lemma Within.le (h : d.Within a n) : a ≤ n := by
  induction h with
  | refl => exact Nat.le_refl a
  | tail _ hp ih => exact Nat.le_trans ih (Nat.le_of_lt (parent?_lt hp))

lemma Above.lt (h : d.Above a n) : a < n := by
  obtain ⟨p, hap, hp⟩ := Relation.TransGen.tail'_iff.1 h
  exact Nat.lt_of_le_of_lt (Within.le hap) (parent?_lt hp)

lemma Above.lt_size (h : d.Above a n) : n < d.size := by
  obtain ⟨p, -, hp⟩ := Relation.TransGen.tail'_iff.1 h
  exact lt_size_of_parent? hp

/-- A node that lies below another one lies below a child of it, or is that child. -/
lemma Above.exists_child (h : d.Above a n) : ∃ b, d.parent? b = some a ∧ d.Within b n :=
  Relation.TransGen.head'_iff.1 h

/-- What lies below a node and is not the node lies below its parent, or is the parent. -/
lemma Within.parent (h : d.Within a n) (hne : a ≠ n) (hp : d.parent? n = some p) :
    d.Within a p := by
  rcases Relation.ReflTransGen.cases_tail h with rfl | ⟨q, haq, hq⟩
  · exact absurd rfl hne
  · obtain rfl : q = p := Option.some.inj (hq.symm.trans hp)
    exact haq

/-- Every node of the document but the document node has a parent. -/
lemma exists_parent? (hn : n + 1 < d.size) : ∃ p, d.parent? (n + 1) = some p := by
  have hn : n < d.nodes.size := Nat.lt_of_succ_lt_succ hn
  exact ⟨d.nodes[n].parent, by simp [parent?, node?, hn]⟩

/-- **All nodes lie below the document node**, or are the document node. -/
theorem within_zero (hn : n < d.size) : d.Within 0 n := by
  induction n using Nat.strongRecOn with
  | ind n ih =>
    cases n with
    | zero => exact .refl
    | succ n =>
      obtain ⟨p, hp⟩ := exists_parent? hn
      have hlt := parent?_lt hp
      exact (ih p hlt (Nat.lt_trans hlt hn)).tail hp

/-- The node `x` comes before the node `y` in the tree: it lies above it, or the two lie below two
siblings, or are these, of which the one of `x` has been put into the document first. -/
def Precedes (d : Document) (x y : NodeId) : Prop :=
  d.Above x y ∨ ∃ p a b, d.parent? a = some p ∧ d.parent? b = some p ∧ a < b ∧
    d.Within a x ∧ d.Within b y

/-! ## Numbering nodes as they come -/

/-- The parent of a node is the node with the number before, or lies above that node. -/
def InOrder (d : Document) : Prop := ∀ n p, d.parent? (n + 1) = some p → d.Within p n

/-- **What lies below a node is a run**: with a later node it has all nodes in between. -/
theorem within_of_le (hd : d.InOrder) (hay : d.Within a y) (hax : a ≤ x) (hxy : x ≤ y) :
    d.Within a x := by
  obtain ⟨k, rfl⟩ := Nat.exists_eq_add_of_le hxy
  induction k with
  | zero => exact hay
  | succ k ih =>
    -- The node before the last one lies below the parent of the last one.
    rcases Relation.ReflTransGen.cases_tail hay with heq | ⟨p, hap, hp⟩
    · have hlt : a < x + (k + 1) := Nat.lt_of_le_of_lt hax (Nat.lt_add_of_pos_right (Nat.succ_pos k))
      exact absurd heq (Nat.ne_of_gt hlt)
    · exact ih (hap.trans (hd (x + k) p hp)) (Nat.le_add_right x k)

/-- Going up from a node one comes across every smaller number: there is a step from a larger number
to one that is not larger. -/
lemma exists_step (hxy : x < y) (hy : y < d.size) :
    ∃ b p, d.Within b y ∧ x < b ∧ d.parent? b = some p ∧ p ≤ x := by
  induction y using Nat.strongRecOn with
  | ind y ih =>
    obtain ⟨n, rfl⟩ := Nat.exists_eq_add_one_of_ne_zero (Nat.ne_zero_of_lt hxy)
    obtain ⟨p, hp⟩ := exists_parent? hy
    have hlt := parent?_lt hp
    rcases Nat.lt_or_ge x p with hxp | hpx
    · obtain ⟨b, q, hb, hxb, hq, hqx⟩ := ih p hlt hxp (Nat.lt_trans hlt hy)
      exact ⟨b, q, hb.tail hp, hxb, hq, hqx⟩
    · exact ⟨n + 1, p, .refl, hxy, hp, hpx⟩

/-- The node that comes first in the tree has the smaller number. -/
lemma Precedes.lt (hd : d.InOrder) (h : d.Precedes x y) : x < y := by
  rcases h with h | ⟨p, a, b, ha, hb, hab, hax, hby⟩
  · exact h.lt
  · refine Nat.lt_of_not_le fun hyx => ?_
    -- Otherwise the later sibling would lie below the first one.
    have hbx : b ≤ x := Nat.le_trans hby.le hyx
    have hwithin : d.Within a b := within_of_le hd hax (Nat.le_of_lt hab) hbx
    exact absurd (hwithin.parent (Nat.ne_of_lt hab) hb).le (Nat.not_le.2 (parent?_lt ha))

/-- The node with the smaller number comes first in the tree. -/
lemma precedes_of_lt (hd : d.InOrder) (hxy : x < y) (hy : y < d.size) : d.Precedes x y := by
  obtain ⟨b, p, hby, hxb, hp, hpx⟩ := exists_step hxy hy
  have hpx' : d.Within p x := within_of_le hd (.single hp) hpx (Nat.le_of_lt hxb)
  rcases Relation.reflTransGen_iff_eq_or_transGen.1 hpx' with rfl | habove
  · exact .inl (.trans_left (.single hp) hby)
  · obtain ⟨a, ha, hax⟩ := Above.exists_child habove
    exact .inr ⟨p, a, b, ha, hp, Nat.lt_of_le_of_lt hax.le hxb, hax, hby⟩

/-- **Numbers follow the tree** if the nodes are numbered as they come. -/
theorem lt_iff_precedes (hd : d.InOrder) (hy : y < d.size) : x < y ↔ d.Precedes x y :=
  ⟨fun h => precedes_of_lt hd h hy, fun h => h.lt hd⟩

/-! ## Documents under construction -/

/-- What goes on with a value has been given one if it does not fail. -/
lemma exists_of_bind {ε α β : Type} {x : Except ε α} {f : α → Except ε β} {b : β}
    (h : x >>= f = .ok b) : ∃ a, x = .ok a ∧ f a = .ok b := by
  cases x with
  | error e => exact nomatch h
  | ok a => exact ⟨a, rfl, h⟩

/-- What is made of a value has been made of one if it is no failure. -/
lemma exists_of_map {ε α β : Type} {x : Except ε α} {f : α → β} {b : β}
    (h : x.map f = .ok b) : ∃ a, x = .ok a ∧ f a = b := by
  cases x with
  | error e => exact nomatch h
  | ok a => exact ⟨a, rfl, Except.ok.inj h⟩

/-- A new node at the end leaves the parents of the others alone. -/
lemma parent?_push (d : Document) (node : Node) (h : node.parent ≤ d.nodes.size) (n : NodeId) :
    (d.push node h).parent? n = if n = d.size then some node.parent else d.parent? n := by
  cases n with
  | zero => rfl
  | succ n =>
    have hsize : n + 1 = d.size ↔ n = d.nodes.size := Nat.add_right_cancel_iff
    simp only [parent?, node?, push, Array.getElem?_push, hsize]
    split <;> rfl

lemma Within.push {node : Node} (h : node.parent ≤ d.nodes.size) (hn : n < d.size)
    (hwithin : d.Within a n) : (d.push node h).Within a n := by
  induction hwithin with
  | refl => exact .refl
  | tail _ hp ih =>
    have hlt := Nat.lt_trans (parent?_lt hp) hn
    refine (ih hlt).tail ?_
    rw [parent?_push, if_neg (Nat.ne_of_lt hn)]
    exact hp

/-- A node that is put at the end has the parent that it came with. -/
lemma parent?_push_last (d : Document) (node : Node) (h : node.parent ≤ d.nodes.size) :
    (d.push node h).parent? (d.push node h).nodes.size = some node.parent := by
  have hlast : (d.push node h).nodes.size = d.size := Array.size_push _
  rw [parent?_push, if_pos hlast]

/-- **Putting a node at the end** keeps the numbering in order if the parent is the node before or
lies above it. -/
lemma InOrder.push {node : Node} (h : node.parent ≤ d.nodes.size) (hd : d.InOrder)
    (hlast : d.Within node.parent d.nodes.size) : (d.push node h).InOrder := by
  intro n p hp
  rw [parent?_push] at hp
  split at hp
  · rename_i hn
    obtain rfl := Option.some.inj hp
    obtain rfl : n = d.nodes.size := Nat.add_right_cancel hn
    exact hlast.push h (Nat.lt_succ_self _)
  · exact (hd n p hp).push h (Nat.lt_trans (Nat.lt_succ_self n) (lt_size_of_parent? hp))

namespace Draft

/-- The nodes of the draft are numbered as they come. The last one lies below all open elements, and
these lie one below the other. -/
structure Orderly (d : Draft) : Prop where
  inOrder : d.document.InOrder
  within : ∀ o ∈ d.opened, d.document.Within o.id d.document.nodes.size
  nested : d.opened.Pairwise fun inner outer => d.document.Within outer.id inner.id

variable {d d' : Draft}

lemma orderly_empty : Draft.empty.Orderly where
  inOrder n p h := by simp [empty, Document.empty, parent?, node?] at h
  within := by simp [empty]
  nested := List.Pairwise.nil

/-- Open elements are nodes of the document. -/
lemma lt_size_of_mem_opened {o : Opened} (ho : o ∈ d.opened) : o.id < d.document.size :=
  Nat.lt_succ_of_le (d.opened_le o ho)

/-- The node that the next one becomes a child of is the last one or lies above it. -/
lemma Orderly.within_parent (h : d.Orderly) : d.document.Within d.parent d.document.nodes.size := by
  unfold parent
  cases hopened : d.opened with
  | nil => exact within_zero (Nat.lt_succ_self _)
  | cons o opened => exact h.within o (hopened ▸ List.mem_cons_self)

/-- All open elements are the next parent or lie above it. -/
lemma Orderly.within_of_mem (h : d.Orderly) {o : Opened} (ho : o ∈ d.opened) :
    d.document.Within o.id d.parent := by
  have hnested := h.nested
  unfold parent
  cases hopened : d.opened with
  | nil => simp [hopened] at ho
  | cons o' opened =>
    rw [hopened] at ho hnested
    rcases List.mem_cons.1 ho with rfl | ho
    · exact .refl
    · exact (List.pairwise_cons.1 hnested).1 o ho

lemma Orderly.add (h : d.Orderly) (content : Content) : (d.add content).Orderly where
  inOrder := h.inOrder.push d.parent_le h.within_parent
  within o ho := by
    have hparent : d.parent < d.document.size := Nat.lt_succ_of_le d.parent_le
    exact ((h.within_of_mem ho).push d.parent_le hparent).tail (parent?_push_last _ _ _)
  nested := h.nested.imp_of_mem fun hinner _ hwithin =>
    hwithin.push d.parent_le (lt_size_of_mem_opened hinner)

lemma Orderly.enter (h : d.Orderly) (name : Markup.QName) (scope : Markup.Scope)
    (content : Content) : (d.enter name scope content).Orderly where
  inOrder := (h.add content).inOrder
  within o ho := by
    rcases List.mem_cons.1 ho with rfl | ho
    · exact .refl
    · exact (h.add content).within o ho
  nested := List.pairwise_cons.2 ⟨(h.add content).within, (h.add content).nested⟩

lemma Orderly.close (h : d.Orderly) : d.close.Orderly where
  inOrder := h.inOrder
  within o ho := h.within o (List.mem_of_mem_tail ho)
  nested := h.nested.sublist (List.tail_sublist _)

/-- What a token can bring into a document: a text, or an element with the local name of a start
tag. -/
def Brings (t : Markup.Token) : Content → Prop
  | .element tag _ => ∃ name raw closed, t = .start name raw closed ∧ name.name = tag
  | .text _ => True

/-- What a token does to a draft: nothing, one more node, which may stay open, or one open element
less. -/
lemma step_cases {t : Markup.Token} (h : d.step t = .ok d') :
    d' = d ∨ (∃ content, Brings t content ∧ d' = d.add content) ∨
      (∃ name scope content, Brings t content ∧ d' = d.enter name scope content) ∨
      d' = d.close := by
  cases t with
  | aside => exact .inl (Except.ok.inj h).symm
  | text raw =>
    simp only [Draft.step] at h
    split at h
    · split at h
      · exact .inl (Except.ok.inj h).symm
      · simp at h
    · obtain ⟨content, -, hadd⟩ := exists_of_bind h
      exact .inr (.inl ⟨.text content, trivial, (Except.ok.inj hadd).symm⟩)
  | verbatim raw =>
    simp only [Draft.step] at h
    split at h
    · simp at h
    · exact .inr (.inl ⟨.text _, trivial, (Except.ok.inj h).symm⟩)
  | start name raw closed =>
    simp only [Draft.step] at h
    split at h
    · exact nomatch h
    · split at h
      · exact nomatch h
      · obtain ⟨resolved, -, h⟩ := exists_of_bind h
        obtain rfl := Except.ok.inj h
        cases closed with
        | true => exact .inr (.inl ⟨.element name.name _, ⟨name, raw, true, rfl, rfl⟩, rfl⟩)
        | false =>
          exact .inr (.inr (.inl
            ⟨name, _, .element name.name _, ⟨name, raw, false, rfl, rfl⟩, rfl⟩))
  | stop name =>
    simp only [Draft.step] at h
    split at h
    · simp at h
    · split at h
      · exact .inr (.inr (.inr (Except.ok.inj h).symm))
      · simp at h

/-- **Any tokens** leave an orderly draft orderly. -/
lemma Orderly.steps (h : d.Orderly) {tokens : List Markup.Token}
    (hsteps : d.steps tokens = .ok d') : d'.Orderly := by
  induction tokens generalizing d with
  | nil =>
    obtain rfl : d = d' := Except.ok.inj hsteps
    exact h
  | cons t tokens ih =>
    obtain ⟨d'', hstep, hsteps⟩ := exists_of_bind hsteps
    refine ih ?_ hsteps
    rcases step_cases hstep with rfl | ⟨content, -, rfl⟩ | ⟨name, scope, content, -, rfl⟩ | rfl
    · exact h
    · exact h.add content
    · exact h.enter name scope content
    · exact h.close

end Draft

/-- A document from markup is what the tokens of the text make of the empty draft. -/
lemma exists_of_ofMarkup {s : Text} (h : ofMarkup s = .ok d) :
    ∃ tokens draft, Markup.tokensOfText s = .ok tokens ∧ Draft.empty.steps tokens = .ok draft ∧
      draft.document = d := by
  obtain ⟨tokens, htokens, hdraft⟩ := exists_of_bind h
  obtain ⟨draft, hsteps, hfinish⟩ := exists_of_bind hdraft
  refine ⟨tokens, draft, htokens, hsteps, ?_⟩
  unfold Draft.finish at hfinish
  split at hfinish
  · simp at hfinish
  · split at hfinish
    · simp at hfinish
    · exact Except.ok.inj hfinish

/-- **Documents from markup are numbered as they come.** -/
theorem inOrder_of_ofMarkup {s : Text} (h : ofMarkup s = .ok d) : d.InOrder := by
  obtain ⟨tokens, draft, -, hsteps, rfl⟩ := exists_of_ofMarkup h
  exact (Draft.orderly_empty.steps hsteps).inOrder

end TreeQuery.Document
