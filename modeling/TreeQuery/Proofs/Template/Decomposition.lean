import TreeQuery.Proofs.Template.Occurrence

set_option relaxedAutoImplicit false
set_option autoImplicit false

/-!
# Texts taken apart into fragments and occurrences

A selector text is a sequence of fragments with an occurrence between every two of them. Of all
the ways to take a text apart, scanning finds the only exact one: every occurrence has the right
shape and ends as early as it can, and no complete occurrence begins inside a fragment. Nothing is
said about how the text was written, so that unterminated, nested and adjacent occurrences and
empty tokens are covered.

## Main definitions

* `TreeQuery.Decomposition` — fragments with items between them.
* `TreeQuery.Decomposition.Exact` — the decompositions that scanning has to find.
* `TreeQuery.Template.decompose` — the decomposition that scanning finds.

## Main results

* `TreeQuery.Template.decompose_exact` — scanning takes the given text apart, and exactly.
* `TreeQuery.Template.decompose_text` — an exact decomposition is the one that scanning finds in
  its text.
-/

namespace TreeQuery

open Text Template

/-- Fragments of a text with items between them: there is one fragment more than there are items,
and each of them may be empty. -/
inductive Decomposition (α : Type)
  /-- The last fragment, which no item follows. -/
  | last (fragment : Text)
  /-- A fragment, the item behind it, and what follows that item. -/
  | cons (fragment : Text) (item : α) (rest : Decomposition α)

namespace Decomposition

variable {α β : Type}

/-! ## Fragments, items and texts -/

/-- The fragments in order. -/
def fragments : Decomposition α → List Text
  | last f => [f]
  | cons f _ g => f :: g.fragments

/-- The items in order. -/
def items : Decomposition α → List α
  | last _ => []
  | cons _ a g => a :: g.items

/-- The same fragments with other items between them. -/
def map (f : α → β) : Decomposition α → Decomposition β
  | last w => last w
  | cons w a g => cons w (f a) (g.map f)

/-- The text that is taken apart, `write` giving the text of an item. -/
def text (write : α → Text) : Decomposition α → Text
  | last f => f
  | cons f a g => f ++ write a ++ g.text write

@[simp] lemma fragments_map (f : α → β) (g : Decomposition α) :
    (g.map f).fragments = g.fragments := by
  induction g with
  | last w => rfl
  | cons w a g ih => simp [map, fragments, ih]

@[simp] lemma items_map (f : α → β) (g : Decomposition α) : (g.map f).items = g.items.map f := by
  induction g with
  | last w => rfl
  | cons w a g ih => simp [map, items, ih]

lemma text_map (write : β → Text) (f : α → β) (g : Decomposition α) :
    (g.map f).text write = g.text fun a => write (f a) := by
  induction g with
  | last w => rfl
  | cons w a g ih => simp [map, text, ih]

/-- The decomposition with `w` in front of its first fragment. -/
def prepend (w : Text) : Decomposition α → Decomposition α
  | last f => last (w ++ f)
  | cons f a g => cons (w ++ f) a g

@[simp] lemma text_prepend (write : α → Text) (w : Text) (g : Decomposition α) :
    (g.prepend w).text write = w ++ g.text write := by
  cases g <;> simp [prepend, text]

@[simp] lemma items_prepend (w : Text) (g : Decomposition α) : (g.prepend w).items = g.items := by
  cases g <;> rfl

@[simp] lemma flatten_fragments_prepend (w : Text) (g : Decomposition α) :
    (g.prepend w).fragments.flatten = w ++ g.fragments.flatten := by
  cases g <;> simp [prepend, fragments]

@[simp] lemma prepend_prepend (v w : Text) (g : Decomposition α) :
    (g.prepend w).prepend v = g.prepend (v ++ w) := by
  cases g <;> simp [prepend]

@[simp] lemma prepend_nil (g : Decomposition α) : g.prepend [] = g := by
  cases g <;> rfl

/-! ## Positions inside fragments -/

/-- The text from a position on has the property `P` at no position inside the fragment, `rest`
being what follows the fragment. -/
def NowhereIn (P : Text → Prop) : (fragment rest : Text) → Prop
  | [], _ => True
  | c :: f, rest => ¬ P (c :: f ++ rest) ∧ NowhereIn P f rest

/-- The text from a position on has the property `P` at no position inside any fragment. -/
def NowhereInside (write : α → Text) (P : Text → Prop) : Decomposition α → Prop
  | last f => NowhereIn P f []
  | cons f a g => NowhereIn P f (write a ++ g.text write) ∧ g.NowhereInside write P

lemma NowhereIn.imp {P Q : Text → Prop} (h : ∀ s, Q s → P s) {fragment rest : Text}
    (hP : NowhereIn P fragment rest) : NowhereIn Q fragment rest := by
  induction fragment with
  | nil => trivial
  | cons c f ih => exact ⟨fun hQ => hP.1 (h _ hQ), ih hP.2⟩

/-- A property that the text has from no position on is nowhere inside it. -/
lemma NowhereIn.of_forall {P : Text → Prop} {f : Text} (h : ∀ u v, f = u ++ v → ¬ P v) :
    NowhereIn P f [] := by
  induction f with
  | nil => trivial
  | cons c f ih =>
    refine ⟨by simpa using h [] (c :: f) rfl, ih fun u v hf => h (c :: u) v ?_⟩
    rw [hf, List.cons_append]

lemma NowhereInside.imp {write : α → Text} {P Q : Text → Prop} (h : ∀ s, Q s → P s)
    {g : Decomposition α} (hP : g.NowhereInside write P) : g.NowhereInside write Q := by
  induction g with
  | last f => exact NowhereIn.imp h hP
  | cons f a g ih => exact ⟨hP.1.imp h, ih hP.2⟩

lemma nowhereInside_map {write : β → Text} {P : Text → Prop} (f : α → β) (g : Decomposition α) :
    (g.map f).NowhereInside write P ↔ g.NowhereInside (fun a => write (f a)) P := by
  induction g with
  | last w => rfl
  | cons w a g ih => simp [map, NowhereInside, text_map, ih]

/-! ## Exact decompositions -/

/-- Every occurrence of the decomposition has the right shape and ends at the first possible
place of the text. -/
def Fits (t : Template) : Decomposition Occurrence → Prop
  | last _ => True
  | cons _ o g => o.WellFormed ∧ Shortest t.closing o.raw (g.text t.written) ∧ g.Fits t

/-- The decompositions that scanning has to find: the occurrences are such, and no complete
occurrence begins inside a fragment. -/
structure Exact (t : Template) (g : Decomposition Occurrence) : Prop where
  fits : g.Fits t
  nowhereInside : g.NowhereInside t.written t.Begins

lemma Fits.wellFormed {t : Template} {g : Decomposition Occurrence} (h : g.Fits t) :
    ∀ o ∈ g.items, o.WellFormed := by
  induction g with
  | last f => simp [items]
  | cons f o g ih => exact List.forall_mem_cons.2 ⟨h.1, ih h.2.2⟩

/-- A first character at which no occurrence begins leaves a decomposition exact. -/
lemma Exact.prepend {t : Template} {g : Decomposition Occurrence} (h : g.Exact t) {c : Char}
    (hc : ¬ t.Begins (c :: g.text t.written)) : (g.prepend [c]).Exact t := by
  obtain ⟨hfits, hnowhere⟩ := h
  cases g with
  | last f => exact ⟨trivial, by simpa [text] using hc, hnowhere⟩
  | cons f o g => exact ⟨hfits, ⟨by simpa [text] using hc, hnowhere.1⟩, hnowhere.2⟩

/-- The decomposition that a scanned text describes. -/
def ofPieces : List Piece → Decomposition Occurrence
  | [] => last []
  | .char c :: ps => (ofPieces ps).prepend [c]
  | .occurrence o :: ps => cons [] o (ofPieces ps)

lemma items_ofPieces (ps : List Piece) :
    (ofPieces ps).items = ps.filterMap fun | .char _ => none | .occurrence o => some o := by
  induction ps with
  | nil => rfl
  | cons p ps ih => cases p <;> simp [ofPieces, items, ih]

lemma flatten_fragments_ofPieces (ps : List Piece) :
    (ofPieces ps).fragments.flatten =
      ps.filterMap fun | .char c => some c | .occurrence _ => none := by
  induction ps with
  | nil => rfl
  | cons p ps ih => cases p <;> simp [ofPieces, fragments, ih]

end Decomposition

namespace Template

open Decomposition

/-! ## The decomposition that scanning finds -/

/-- The decomposition that scanning finds. -/
def decompose (t : Template) (s : Text) : Decomposition Occurrence := ofPieces (scan t s)

lemma occurrences_eq (t : Template) (s : Text) : t.occurrences s = (t.decompose s).items :=
  (items_ofPieces _).symm

lemma base_eq (t : Template) (s : Text) :
    t.base s = trim (t.decompose s).fragments.flatten :=
  congrArg trim (flatten_fragments_ofPieces _).symm

@[simp] lemma decompose_nil (t : Template) : t.decompose [] = .last [] := by
  rw [decompose, scan]
  rfl

lemma decompose_of_occurrence? {t : Template} {s rest : Text} {o : Occurrence}
    (h : occurrence? t s = some (o, rest)) : t.decompose s = .cons [] o (t.decompose rest) := by
  cases s with
  | nil => exact absurd (length_of_occurrence? h) (by simp)
  | cons c s =>
    rw [decompose, scan.eq_2]
    split
    · rename_i o' rest' ho
      rw [h] at ho
      simp only [Option.some.injEq, Prod.mk.injEq] at ho
      obtain ⟨rfl, rfl⟩ := ho
      rfl
    · rename_i ho
      rw [h] at ho
      simp at ho

lemma decompose_cons_of_not_begins {t : Template} {c : Char} {s : Text}
    (h : ¬ t.Begins (c :: s)) : t.decompose (c :: s) = (t.decompose s).prepend [c] := by
  rw [decompose, scan.eq_2]
  split
  · rename_i o rest ho
    rw [occurrence?_eq_none_iff.2 h] at ho
    simp at ho
  · rfl

/-- **Scanning loses nothing**: the fragments and the occurrences found make up the text, and
they do so exactly.

**Proof sketch.** By induction on the scan. Where an occurrence is read, its reader says that it
has the right shape and ends as early as it can; where a character stays, the same reader says
that no complete occurrence begins there. -/
theorem decompose_exact (t : Template) (s : Text) :
    (t.decompose s).text t.written = s ∧ (t.decompose s).Exact t := by
  unfold decompose
  fun_induction scan t s with
  | case1 => exact ⟨rfl, trivial, trivial⟩
  | case2 c s o rest ho ih =>
    obtain ⟨hs, hwf, hshort⟩ := occurrence?_sound ho
    obtain ⟨htext, hfits, hnowhere⟩ := ih
    refine ⟨by simp [ofPieces, text, htext, hs], ⟨hwf, ?_, hfits⟩, trivial, hnowhere⟩
    rwa [htext]
  | case3 c s ho ih =>
    obtain ⟨htext, hexact⟩ := ih
    have hc := occurrence?_eq_none_iff.1 ho
    exact ⟨by simp [ofPieces, htext], hexact.prepend (by rwa [htext])⟩

/-- A fragment inside which no occurrence begins stays as it is. -/
lemma decompose_append {t : Template} {f rest : Text} (h : NowhereIn t.Begins f rest) :
    t.decompose (f ++ rest) = (t.decompose rest).prepend f := by
  induction f with
  | nil => simp
  | cons c f ih =>
    obtain ⟨hc, hf⟩ := h
    rw [List.cons_append] at hc ⊢
    rw [decompose_cons_of_not_begins hc, ih hf, prepend_prepend]
    rfl

/-- **An exact decomposition is the one that scanning finds**, so that a text has no two of
them. -/
theorem decompose_text {t : Template} {g : Decomposition Occurrence} (h : g.Exact t) :
    t.decompose (g.text t.written) = g := by
  obtain ⟨hfits, hnowhere⟩ := h
  induction g with
  | last f =>
    have hf : t.decompose (f ++ []) = (t.decompose []).prepend f := decompose_append hnowhere
    simpa [text, prepend] using hf
  | cons f o g ih =>
    obtain ⟨hwf, hshort, hfits⟩ := hfits
    have ho := occurrence?_eq_some_iff.2 ⟨rfl, hwf, hshort⟩
    rw [text, List.append_assoc, decompose_append hnowhere.1, decompose_of_occurrence? ho,
      ih hfits hnowhere.2]
    simp [prepend]

end Template

end TreeQuery
