import TreeQuery.Proofs.Evaluation.Search
import TreeQuery.Proofs.Properties.Writes

set_option relaxedAutoImplicit false
set_option autoImplicit false

/-!
# To which nodes an evaluation writes

An evaluation that writes to certain nodes only leaves the properties of all other nodes alone. The
rules below follow how evaluations are put together, so that it is enough to know where the parts
write.

## Main definitions

* `TreeQuery.Eval.WritesOnly` — an evaluation writes to no other nodes.

## Main results

* `TreeQuery.Eval.WritesOnly.bind`, `TreeQuery.Eval.WritesOnly.keep`,
  `TreeQuery.Eval.WritesOnly.findFirst` — evaluations that are put together.
* `TreeQuery.Eval.WritesOnly.get?_after` — the properties of other nodes.
* `TreeQuery.Eval.WritesOnly.after_eq` — an evaluation that writes nowhere.
-/

namespace TreeQuery.Eval

variable {α β : Type} {allowed allowed' : NodeId → Prop}

/-- All properties that the evaluation writes are properties of nodes that are allowed. -/
def WritesOnly (allowed : NodeId → Prop) (x : Eval α) : Prop :=
  ∀ w ∈ writesOf x.effects, allowed w.node

/-! ## Evaluations that write nothing -/

lemma writesOnly_ok (a : α) : (ok a).WritesOnly allowed := by
  intro w hw
  simp [ok, writesOf] at hw

lemma writesOnly_fail (e : QueryError) : (fail e : Eval α).WritesOnly allowed := by
  intro w hw
  simp [fail, writesOf] at hw

lemma writesOnly_notices (ns : List Notice) : (notices ns).WritesOnly allowed := by
  intro w hw
  have hnone : writesOf (notices ns).effects = [] := writesOf_notices ns
  simp [hnone] at hw

lemma writesOnly_ofNative (x : Except Native.InvalidSelector α) :
    (ofNative x).WritesOnly allowed := by
  cases x with
  | ok a => exact writesOnly_ok a
  | error e => exact writesOnly_fail _

/-- An assignment writes to its node. -/
lemma writesOnly_assign {n : NodeId} (h : allowed n) (name : Text) (value : Json) :
    (perform (.assign n name value)).WritesOnly allowed := by
  intro w hw
  obtain rfl : w = ⟨n, name, value⟩ := by simpa [perform, writesOf] using hw
  exact h

namespace WritesOnly

/-! ## Evaluations that are put together -/

lemma mono {x : Eval α} (hx : x.WritesOnly allowed) (h : ∀ n, allowed n → allowed' n) :
    x.WritesOnly allowed' := by
  intro w hw
  exact h w.node (hx w hw)

/-- Going on after an evaluation writes where the evaluation writes and where its sequel does. -/
lemma bind {x : Eval α} {f : α → Eval β} (hx : x.WritesOnly allowed)
    (hf : ∀ a, x.result = .ok a → (f a).WritesOnly allowed) : (x >>= f).WritesOnly allowed := by
  cases h : x.result with
  | error e =>
    rw [bind_of_error h]
    exact hx
  | ok a =>
    rw [bind_of_ok h]
    intro w hw
    rw [writesOf_append, List.mem_append] at hw
    rcases hw with hw | hw
    · exact hx w hw
    · exact hf a h w hw

lemma excuse {x : Eval Bool} (hx : x.WritesOnly allowed) (notice : QueryError → Notice) :
    (x.excuse notice).WritesOnly allowed := by
  unfold Eval.excuse
  cases x.result with
  | ok b => exact hx
  | error e =>
    intro w hw
    rw [writesOf_append, List.mem_append] at hw
    rcases hw with hw | hw
    · exact hx w hw
    · simp [writesOf] at hw

/-- A search for all members of a list writes where its tests write. -/
lemma keep {test : α → Eval Bool} {l : List α} (h : ∀ a ∈ l, (test a).WritesOnly allowed) :
    (Eval.keep test l).WritesOnly allowed := by
  induction l with
  | nil => exact writesOnly_ok []
  | cons a l ih =>
    obtain ⟨ha, hl⟩ := List.forall_mem_cons.1 h
    rw [keep_cons]
    refine bind ha fun b _ => bind (ih hl) fun r _ => ?_
    exact writesOnly_ok _

/-- A search for the first member of a list writes where its tests write. -/
lemma findFirst {test : α → Eval Bool} {l : List α} (h : ∀ a ∈ l, (test a).WritesOnly allowed) :
    (Eval.findFirst test l).WritesOnly allowed := by
  induction l with
  | nil => exact writesOnly_ok none
  | cons a l ih =>
    obtain ⟨ha, hl⟩ := List.forall_mem_cons.1 h
    rw [findFirst_cons]
    refine bind ha fun b _ => ?_
    cases b with
    | true => exact writesOnly_ok (some a)
    | false => exact ih hl

/-! ## What is left alone -/

/-- **The properties of a node that is not allowed** are after the evaluation what they were. -/
theorem get?_after {x : Eval α} (hx : x.WritesOnly allowed) {n : NodeId} (hn : ¬ allowed n)
    (p : Properties) (name : Text) : (p.after x.effects).get? n name = p.get? n name := by
  have hne : ∀ w ∈ writesOf x.effects, w.node ≠ n := fun w hw heq => hn (heq ▸ hx w hw)
  rw [Properties.after_eq_writeAll, Properties.get?_writeAll_of_ne hne]

/-- **An evaluation that writes nowhere** leaves the store of properties as it is. -/
theorem after_eq {x : Eval α} (hx : x.WritesOnly fun _ => False) (p : Properties) :
    p.after x.effects = p :=
  Properties.after_of_writesOf_eq_nil (List.eq_nil_iff_forall_not_mem.2 hx)

end WritesOnly

end TreeQuery.Eval
