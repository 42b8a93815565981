import Mathlib.Order.Defs.Unbundled
import Mathlib.Tactic.ByContra
import Mathlib.Tactic.Lemma
import TreeQuery.Properties

set_option relaxedAutoImplicit false
set_option autoImplicit false

/-!
# Writes and what they leave

The assignments among the effects of an evaluation are a list of writes. What they leave in a
store of properties is settled by the last write to every property: a write to a property takes
back an earlier one to the same property, and writes to different properties do not get in each
other's way. So the same writes once more change nothing, from whatever store they start.

All equations here are between stores as they are, not only between what can be read from them.

## Main definitions

* `TreeQuery.Write`, `TreeQuery.writesOf` — the assignments among effects.
* `TreeQuery.Properties.write`, `TreeQuery.Properties.writeAll` — the store after writes.

## Main results

* `TreeQuery.Table.put_comm`, `TreeQuery.Properties.write_comm` — writes to different places
  commute.
* `TreeQuery.Properties.after_eq_writeAll` — effects change a store by their writes alone.
* `TreeQuery.Properties.after_after` — the same effects a second time change nothing.
-/

namespace TreeQuery

/-! ## Tables -/

namespace Table

section Overwriting

variable {κ α : Type} [DecidableEq κ] [LT κ] [DecidableLT κ]

/-- The later of two values at one key is the one that stays. -/
lemma put_put [Std.Irrefl (α := κ) (· < ·)] (key : κ) (value value' : α) (t : Table κ α) :
    put key value' (put key value t) = put key value' t := by
  induction t with
  | nil => simp [put]
  | cons entry t ih =>
    obtain ⟨k, v⟩ := entry
    by_cases hk : key = k
    · subst hk
      simp [put]
    · by_cases hl : key < k
      · simp [put, hk, hl]
      · simp [put, hk, hl, ih]

variable [Std.Irrefl (α := κ) (· < ·)] [IsTrans κ (· < ·)] [Std.Trichotomous (α := κ) (· < ·)]

omit [DecidableEq κ] in
/-- Of two different keys exactly one comes before the other. -/
private lemma lt_iff_not_lt {key other : κ} (h : key ≠ other) : key < other ↔ ¬ other < key := by
  constructor
  · intro hlt hgt
    exact Std.Irrefl.irrefl key (IsTrans.trans key other key hlt hgt)
  · intro hgt
    by_contra hlt
    exact h (Std.Trichotomous.trichotomous key other hlt hgt)

/-- **Values at different keys** can be put into a table in either order. The table need not be
sorted. -/
theorem put_comm {key other : κ} (h : key ≠ other) (value value' : α) (t : Table κ α) :
    put key value (put other value' t) = put other value' (put key value t) := by
  induction t with
  | nil =>
    by_cases hl : key < other
    · have hg := (lt_iff_not_lt h).1 hl
      simp [put, h, h.symm, hl, hg]
    · have hg := (lt_iff_not_lt h.symm).2 hl
      simp [put, h, h.symm, hl, hg]
  | cons entry t ih =>
    obtain ⟨k, v⟩ := entry
    by_cases hk : key = k
    · subst hk
      by_cases hl : other < key
      · have hg := (lt_iff_not_lt h.symm).1 hl
        simp [put, h, h.symm, hl, hg]
      · simp [put, h.symm, hl]
    · by_cases ho : other = k
      · subst ho
        by_cases hl : key < other
        · have hg := (lt_iff_not_lt h).1 hl
          simp [put, h, h.symm, hl, hg]
        · simp [put, h, hl]
      · -- Neither key is at the head of the table: they may both go in front of it.
        by_cases hkl : key < k <;> by_cases hol : other < k
        · by_cases hl : key < other
          · have hg := (lt_iff_not_lt h).1 hl
            simp [put, h, h.symm, hk, ho, hkl, hol, hl, hg]
          · have hg := (lt_iff_not_lt h.symm).2 hl
            simp [put, h, h.symm, hk, ho, hkl, hol, hl, hg]
        · have hg : ¬ other < key := fun hg => hol (IsTrans.trans other key k hg hkl)
          simp [put, h.symm, hk, ho, hkl, hol, hg]
        · have hg : ¬ key < other := fun hg => hkl (IsTrans.trans key other k hg hol)
          simp [put, h, hk, ho, hkl, hol, hg]
        · simp [put, hk, ho, hkl, hol, ih]

end Overwriting

end Table

/-! ## Writes -/

/-- The assignment of a value to a property of a node. -/
structure Write where
  node : NodeId
  name : Text
  value : Json

/-- The assignments among effects, in order. -/
def writesOf (effects : List Effect) : List Write :=
  effects.filterMap fun
    | .assign n name value => some ⟨n, name, value⟩
    | .notice _ => none

@[simp] lemma writesOf_append (es fs : List Effect) :
    writesOf (es ++ fs) = writesOf es ++ writesOf fs := List.filterMap_append

/-- Notices write nothing. -/
@[simp] lemma writesOf_notices (ns : List Notice) : writesOf (ns.map .notice) = [] := by
  simp [writesOf, List.filterMap_map]

namespace Properties

/-- The store after one write. -/
def write (p : Properties) (w : Write) : Properties := p.put w.node w.name w.value

/-- The store after some writes in order. -/
def writeAll (p : Properties) (ws : List Write) : Properties := ws.foldl write p

/-- **Effects change a store by their writes**, and by nothing else. -/
theorem after_eq_writeAll (p : Properties) (es : List Effect) :
    p.after es = p.writeAll (writesOf es) := by
  induction es generalizing p with
  | nil => rfl
  | cons e es ih =>
    cases e with
    | assign n name value => exact ih _
    | notice n => exact ih _

lemma after_append (p : Properties) (es fs : List Effect) :
    p.after (es ++ fs) = (p.after es).after fs := by
  simp only [after_eq_writeAll, writesOf_append, writeAll, List.foldl_append]

/-- Two writes are to the same property. -/
def SamePlace (w w' : Write) : Prop := w.node = w'.node ∧ w.name = w'.name

/-- The later of two writes to one property is the one that stays. -/
lemma write_write (p : Properties) {w w' : Write} (h : SamePlace w w') :
    (p.write w).write w' = p.write w' := by
  obtain ⟨hn, hname⟩ := h
  unfold write put
  rw [← hn, ← hname, Table.get?_put, if_pos rfl, Option.getD_some, Table.put_put, Table.put_put]

/-- Writes to different properties can be made in either order. -/
theorem write_comm (p : Properties) {w w' : Write} (h : ¬ SamePlace w w') :
    (p.write w).write w' = (p.write w').write w := by
  unfold write put
  by_cases hn : w.node = w'.node
  · have hname : w.name ≠ w'.name := fun hname => h ⟨hn, hname⟩
    rw [← hn, Table.get?_put, Table.get?_put, if_pos rfl, if_pos rfl, Option.getD_some,
      Option.getD_some, Table.put_put, Table.put_put, Table.put_comm hname]
  · rw [Table.get?_put, Table.get?_put, if_neg hn, if_neg (Ne.symm hn), Table.put_comm hn]

/-- A write in front of others does not matter if one of them is to the same property.

**Proof sketch.** By induction on the others: a write to another property lets the first one pass
by (`write_comm`), and the first one to the same property takes it back (`write_write`). -/
lemma writeAll_write_of_mem {p : Properties} {w w' : Write} {ws : List Write} (hw : w' ∈ ws)
    (h : SamePlace w w') : (p.write w).writeAll ws = p.writeAll ws := by
  induction ws generalizing p with
  | nil => simp at hw
  | cons v ws ih =>
    have hcons (p : Properties) : p.writeAll (v :: ws) = (p.write v).writeAll ws := rfl
    rw [hcons, hcons]
    by_cases hv : SamePlace w v
    · rw [write_write p hv]
    · rcases List.mem_cons.1 hw with rfl | hw
      · exact absurd h hv
      · rw [write_comm p hv, ih hw]

/-- Writes in front of others do not matter if these write all the same properties again. -/
lemma writeAll_append_of_subset {p : Properties} {us ws : List Write} (h : us ⊆ ws) :
    p.writeAll (us ++ ws) = p.writeAll ws := by
  induction us generalizing p with
  | nil => rfl
  | cons u us ih =>
    obtain ⟨hu, hus⟩ := List.cons_subset.1 h
    calc p.writeAll (u :: us ++ ws)
        = (p.write u).writeAll (us ++ ws) := rfl
      _ = (p.write u).writeAll ws := ih hus
      _ = p.writeAll ws := writeAll_write_of_mem hu ⟨rfl, rfl⟩

/-- **The same effects a second time change nothing**, whatever the store was before and however
often they write to one property. -/
theorem after_after (p : Properties) (es : List Effect) : (p.after es).after es = p.after es := by
  rw [← after_append, after_eq_writeAll, after_eq_writeAll, writesOf_append]
  exact writeAll_append_of_subset (List.Subset.refl _)

/-- Writes to other nodes leave the properties of a node alone. -/
lemma get?_writeAll_of_ne {ws : List Write} {n : NodeId} (h : ∀ w ∈ ws, w.node ≠ n)
    (p : Properties) (name : Text) : (p.writeAll ws).get? n name = p.get? n name := by
  induction ws generalizing p with
  | nil => rfl
  | cons w ws ih =>
    obtain ⟨hw, hws⟩ := List.forall_mem_cons.1 h
    have hcons : p.writeAll (w :: ws) = (p.write w).writeAll ws := rfl
    rw [hcons, ih hws, write, get?_put, if_neg fun h => hw h.1.symm]

/-- Effects without writes leave a store as it is. -/
lemma after_of_writesOf_eq_nil {p : Properties} {es : List Effect} (h : writesOf es = []) :
    p.after es = p := by
  rw [after_eq_writeAll, h]
  rfl

end Properties

end TreeQuery
