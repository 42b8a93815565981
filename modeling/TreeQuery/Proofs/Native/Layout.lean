import TreeQuery.Proofs.Native.Chains

set_option relaxedAutoImplicit false
set_option autoImplicit false

/-!
# Complex selectors side by side

A complex selector can be laid out as two lists, its compounds and its combinators. Not every two
lists belong together: there must be one combinator fewer than compounds. Matching along a layout
goes by position from right to left, and every step reads the compound and the combinator to the
left of its position. On the layout of a complex selector no step reads where nothing stands, and
the outcome is that of matching the selector itself.

## Main definitions

* `TreeQuery.Native.Layout` — compounds and combinators side by side.
* `TreeQuery.Native.Layout.holds?` — matching by position, which fails where nothing stands.

## Main results

* `TreeQuery.Native.Complex.layout_injective` — a selector is known by its layout.
* `TreeQuery.Native.Layout.holds?_layout` — matching by position does not fail.
-/

namespace TreeQuery.Native

/-- Compounds and combinators side by side; the combinator at a position is meant to stand between
the compound at this position and the next one. -/
structure Layout where
  compounds : List Compound
  combinators : List Combinator
  deriving DecidableEq, Repr

namespace Complex

/-- The compounds and the combinators of a complex selector. -/
def layout (x : Complex) : Layout := ⟨x.compounds, x.combinators⟩

/-- **A complex selector is known by its layout.** -/
theorem layout_injective : Function.Injective layout := by
  intro x y h
  obtain ⟨hcompounds, hcombinators⟩ := Layout.mk.inj h
  clear h
  induction x generalizing y with
  | single c =>
    cases y with
    | single c' =>
      obtain rfl : c = c' := List.singleton_inj.1 hcompounds
      rfl
    | extend left k c' => simp [combinators] at hcombinators
  | extend left k c ih =>
    cases y with
    | single c' => simp [combinators] at hcombinators
    | extend left' k' c' =>
      obtain ⟨hleft, hc⟩ := List.append_inj' hcompounds rfl
      obtain ⟨hleft', hk⟩ := List.append_inj' hcombinators rfl
      rw [ih hleft hleft', List.singleton_inj.1 hc, List.singleton_inj.1 hk]

end Complex

/-! ## Matching by position -/

/-- The elements above a node among which a combinator looks for the next one. -/
def Combinator.reach (d : Document) (n : NodeId) : Combinator → List NodeId
  | child => (d.parentElement? n).toList
  | descendant => (d.ancestors n).filter d.isElement

namespace Layout

variable {d : Document} {n : NodeId}

/-- Whether the compounds to the left of a position are matched above a node. There is no answer if
no compound or no combinator stands where one is read. -/
def leftHolds? (l : Layout) (d : Document) : (position : Nat) → NodeId → Option Bool
  | 0, _ => some true
  | i + 1, n => do
    let c ← l.compounds[i]?
    let k ← l.combinators[i]?
    (k.reach d n).anyM fun a => if c.holds d a then l.leftHolds? d i a else some false

/-- Whether a node satisfies the selector that is laid out. There is no answer if there is no last
compound, or on the way to the left something is missing. -/
def holds? (l : Layout) (d : Document) (n : NodeId) : Option Bool := do
  let last ← l.compounds.getLast?
  if last.holds d n then l.leftHolds? d (l.compounds.length - 1) n else some false

/-- Whether a node is an element that satisfies one of the selectors that are laid out. -/
def anyHolds? (ls : List Layout) (d : Document) (n : NodeId) : Option Bool :=
  if d.isElement n then ls.anyM fun l => l.holds? d n else some false

/-- A test that has an answer for every member of a list has one for the list. -/
lemma anyM_eq_some {α : Type} {test : α → Option Bool} {holds : α → Bool} {as : List α}
    (h : ∀ a ∈ as, test a = some (holds a)) : as.anyM test = some (as.any holds) := by
  induction as with
  | nil => rfl
  | cons a as ih =>
    obtain ⟨ha, has⟩ := List.forall_mem_cons.1 h
    rw [List.anyM, ha, List.any_cons]
    cases hb : holds a with
    | true => rfl
    | false => exact ih has

/-- What is added at the right does not matter to the left. -/
lemma leftHolds?_append {l : Layout} {i : Nat} (hcompounds : i ≤ l.compounds.length)
    (hcombinators : i ≤ l.combinators.length) (cs : List Compound) (ks : List Combinator)
    (n : NodeId) :
    leftHolds? ⟨l.compounds ++ cs, l.combinators ++ ks⟩ d i n = l.leftHolds? d i n := by
  induction i generalizing n with
  | zero => rfl
  | succ i ih =>
    simp only [leftHolds?, List.getElem?_append_left hcompounds,
      List.getElem?_append_left hcombinators]
    have hleft : ∀ a, leftHolds? ⟨l.compounds ++ cs, l.combinators ++ ks⟩ d i a =
        l.leftHolds? d i a := ih (Nat.le_of_succ_le hcompounds) (Nat.le_of_succ_le hcombinators)
    simp only [hleft]

/-- One step to the left: the rest of the selector is matched at an element that the combinator
reaches. -/
lemma leftHolds?_extend (left : Complex) (k : Combinator) (c : Compound) :
    (Complex.extend left k c).layout.leftHolds? d left.compounds.length n =
      (k.reach d n).anyM (left.layout.holds? d) := by
  have hlength := left.length_compounds
  obtain ⟨last, hlast⟩ : ∃ last, left.compounds[left.combinators.length]? = some last :=
    ⟨_, List.getElem?_eq_getElem (by omega)⟩
  have hcompound : (left.compounds ++ [c])[left.combinators.length]? = some last := by
    rw [List.getElem?_append_left (by omega), hlast]
  have hcombinator : (left.combinators ++ [k])[left.combinators.length]? = some k :=
    List.getElem?_concat_length
  have hgetLast : left.compounds.getLast? = some last := by
    rw [List.getLast?_eq_getElem?, hlength, Nat.add_sub_cancel, hlast]
  rw [hlength]
  simp only [leftHolds?, Complex.layout, Complex.compounds, Complex.combinators, hcompound,
    hcombinator, Option.bind_eq_bind, Option.bind_some]
  congr 1
  funext a
  have hleft : leftHolds? ⟨left.compounds ++ [c], left.combinators ++ [k]⟩ d
      left.combinators.length a =
        leftHolds? ⟨left.compounds, left.combinators⟩ d left.combinators.length a :=
    leftHolds?_append (l := ⟨_, _⟩) (by dsimp only; omega) (Nat.le_refl _) [c] [k] a
  rw [hleft, holds?]
  simp only [hgetLast, hlength, Option.bind_eq_bind, Option.bind_some, Nat.add_sub_cancel]

/-- One step of matching a complex selector. -/
lemma holds_extend (left : Complex) (k : Combinator) (c : Compound) :
    (Complex.extend left k c).holds d n = (c.holds d n && (k.reach d n).any (left.holds d)) := by
  cases k with
  | child =>
    rw [Complex.holds, Combinator.reach]
    cases d.parentElement? n <;> simp
  | descendant => rw [Complex.holds, Combinator.reach, List.any_filter]

/-- **Matching by position does not fail** on the layout of a complex selector, and its outcome is
that of matching the selector.

**Proof sketch.** By induction on the selector, for all nodes. Matching begins at the last compound;
to the left of it stand the compounds and combinators of the rest of the selector, and what was
added to them at the right does not matter (`leftHolds?_extend`). -/
theorem holds?_layout (d : Document) (x : Complex) (n : NodeId) :
    x.layout.holds? d n = some (x.holds d n) := by
  induction x generalizing n with
  | single c =>
    show (if c.holds d n then some true else some false) = some (c.holds d n)
    cases c.holds d n <;> rfl
  | extend left k c ih =>
    have hlast : (left.compounds ++ [c]).getLast? = some c := List.getLast?_concat
    have hlength : (left.compounds ++ [c]).length - 1 = left.compounds.length := by simp
    have hreach : (k.reach d n).anyM (left.layout.holds? d) =
        some ((k.reach d n).any (left.holds d)) := anyM_eq_some fun a _ => ih a
    have hleft := leftHolds?_extend (d := d) (n := n) left k c
    rw [hreach] at hleft
    rw [holds_extend, holds?]
    simp only [Complex.layout, Complex.compounds, hlast, hlength, Option.bind_eq_bind,
      Option.bind_some]
    cases c.holds d n with
    | true => simpa [Complex.layout, Complex.compounds] using hleft
    | false => rfl

/-- Matching a selector list by position does not fail either. -/
theorem anyHolds?_layouts (d : Document) (list : SelectorList) (n : NodeId) :
    anyHolds? (list.map Complex.layout) d n = some (SelectorList.holds list d n) := by
  rw [anyHolds?, SelectorList.holds]
  cases d.isElement n with
  | false => rfl
  | true =>
    have hany : (list.map Complex.layout).anyM (fun l => l.holds? d n) =
        some ((list.map Complex.layout).any fun l => (l.holds? d n).getD false) := by
      apply anyM_eq_some
      intro l hl
      obtain ⟨x, -, rfl⟩ := List.mem_map.1 hl
      rw [holds?_layout, Option.getD_some]
    rw [if_pos rfl, hany, List.any_map]
    simp [Function.comp_def, holds?_layout]

end Layout

end TreeQuery.Native
