import Mathlib.Tactic.ByContra
import TreeQuery.Template.Occurrence
import TreeQuery.Proofs.Text.Reading

set_option relaxedAutoImplicit false
set_option autoImplicit false

/-!
# The occurrence at the beginning of a text

What the readers of `TreeQuery.Template.Occurrence` find, without mention of how they look for it.
An occurrence is a lead, a name of word characters, a trail, and a value between wrappers in
parentheses; the value is made of units, and of all values that could stand there it is the
shortest. The reader gives the only such occurrence, and gives none only if none of this shape is
there, whatever the tokens are.

## Main definitions

* `TreeQuery.Template.Units` — values as sequences of units.
* `TreeQuery.Template.Occurrence.WellFormed` — the shape of an occurrence.
* `TreeQuery.Template.Shortest` — a value that does not go on behind its first possible end.
* `TreeQuery.Template.Begins` — a complete occurrence stands at the beginning of a text.

## Main results

* `TreeQuery.Template.name_unique` — the trail leaves one way only to divide a text after the
  name.
* `TreeQuery.Template.occurrence?_eq_some_iff`, `TreeQuery.Template.occurrence?_eq_none_iff` —
  the occurrence at the beginning of a text.
-/

namespace TreeQuery.Template

open Text

/-! ## Shape of an occurrence -/

/-- Texts made of units: a unit is a backslash with one character that is no line feed, or one
character that is no backslash. -/
inductive Units : Text → Prop
  | nil : Units []
  | escaped {c : Char} {s : Text} (hc : c ≠ '\n') (hs : Units s) : Units ('\\' :: c :: s)
  | plain {c : Char} {s : Text} (hc : c ≠ '\\') (hs : Units s) : Units (c :: s)

/-- The shape of an occurrence: its name is made of one or more word characters, its value of
units. -/
structure Occurrence.WellFormed (o : Occurrence) : Prop where
  name_ne_nil : o.name ≠ []
  isWord_of_mem_name : ∀ c ∈ o.name, isWord c = true
  units_raw : Units o.raw

/-- What stands behind a value. -/
def closing (t : Template) : Text := t.wrapper ++ [')']

/-- What stands behind the name of an occurrence with the value `raw`. -/
def body (t : Template) (raw : Text) : Text :=
  t.trail ++ '(' :: t.wrapper ++ raw ++ t.closing

/-- The value `raw`, with `close` and then `rest` behind it, could not end earlier: no shorter
sequence of units at its beginning has `close` behind it. -/
def Shortest (close raw rest : Text) : Prop :=
  ∀ u v, raw = u ++ v → Units u → v ≠ [] → ¬ close <+: v ++ close ++ rest

/-- A complete occurrence stands at the beginning of the text. -/
def Begins (t : Template) (s : Text) : Prop :=
  ∃ (o : Occurrence) (rest : Text), o.WellFormed ∧ s = t.written o ++ rest

lemma closing_ne_nil (t : Template) : t.closing ≠ [] := by simp [closing]

lemma written_eq (t : Template) (o : Occurrence) :
    t.written o = t.lead ++ (o.name ++ t.body o.raw) := by
  simp [written, body, closing]

/-- An occurrence begins with the lead. -/
lemma Begins.lead_prefix {t : Template} {s : Text} (h : t.Begins s) : t.lead <+: s := by
  obtain ⟨o, rest, -, rfl⟩ := h
  rw [written_eq, List.append_assoc]
  exact List.prefix_append _ _

/-! ## Values -/

/-- A first unit with a backslash may be put in front of a shortest value if the value cannot
already end before it. -/
lemma Shortest.cons_escaped {close raw rest : Text} {c : Char} (h : Shortest close raw rest)
    (h₀ : ¬ close <+: '\\' :: c :: raw ++ close ++ rest) :
    Shortest close ('\\' :: c :: raw) rest := by
  intro u v huv hu hv
  cases hu with
  | nil =>
    rw [List.nil_append] at huv
    exact huv ▸ h₀
  | escaped hc hs =>
    simp only [List.cons_append, List.cons.injEq, true_and] at huv
    exact h _ v huv.2 hs hv
  | plain hc hs =>
    simp only [List.cons_append, List.cons.injEq] at huv
    exact absurd huv.1.symm hc

/-- A first unit without a backslash may be put in front of a shortest value if the value cannot
already end before it. -/
lemma Shortest.cons_plain {close raw rest : Text} {c : Char} (hc : c ≠ '\\')
    (h : Shortest close raw rest) (h₀ : ¬ close <+: c :: raw ++ close ++ rest) :
    Shortest close (c :: raw) rest := by
  intro u v huv hu hv
  cases hu with
  | nil =>
    rw [List.nil_append] at huv
    exact huv ▸ h₀
  | escaped _ _ =>
    simp only [List.cons_append, List.cons.injEq] at huv
    exact absurd huv.1 hc
  | plain _ hs =>
    simp only [List.cons_append, List.cons.injEq] at huv
    exact h _ v huv.2 hs hv

/-- Of two shortest values in front of the same text none is longer than the other. -/
lemma Shortest.unique {close raw raw' rest rest' : Text} (hu : Units raw) (hu' : Units raw')
    (h : Shortest close raw rest) (h' : Shortest close raw' rest')
    (heq : raw ++ close ++ rest = raw' ++ close ++ rest') : raw = raw' ∧ rest = rest' := by
  have hraw : raw = raw' := by
    simp only [List.append_assoc] at heq
    rcases List.append_eq_append_iff.1 heq with ⟨v, hv, hrest⟩ | ⟨v, hv, hrest⟩
    · by_contra hne
      refine h' raw v hv hu (fun hnil => hne (by simp [hv, hnil])) ?_
      rw [List.append_assoc, ← hrest]
      exact List.prefix_append _ _
    · by_contra hne
      refine h raw' v hv hu' (fun hnil => hne (by simp [hv, hnil])) ?_
      rw [List.append_assoc, ← hrest]
      exact List.prefix_append _ _
  subst hraw
  exact ⟨rfl, List.append_cancel_left heq⟩

/-- What the reader of values returns is a value, the closing token behind it, and shortest. -/
lemma value?_sound {close s raw rest : Text} (h : value? close s = some (raw, rest)) :
    s = raw ++ close ++ rest ∧ Units raw ∧ Shortest close raw rest := by
  fun_induction value? close s generalizing raw with
  | case1 => simp at h
  | case2 c s r hr =>
    simp only [Option.some.injEq, Prod.mk.injEq] at h
    obtain ⟨rfl, rfl⟩ := h
    refine ⟨after?_eq_some_iff.1 hr, .nil, fun u v huv _ hv => absurd ?_ hv⟩
    exact (List.append_eq_nil_iff.1 huv.symm).2
  | case3 => simp at h
  | case4 => simp at h
  | case5 d s hd hnone ih =>
    obtain ⟨v, rfl, hv⟩ := of_map_eq_some (f := ('\\' :: d :: ·)) h
    obtain ⟨rfl, hunits, hshort⟩ := ih hv
    exact ⟨rfl, .escaped hd hunits, hshort.cons_escaped (after?_eq_none_iff.1 hnone)⟩
  | case6 c s hnone hc ih =>
    obtain ⟨v, rfl, hv⟩ := of_map_eq_some h
    obtain ⟨rfl, hunits, hshort⟩ := ih hv
    exact ⟨rfl, .plain hc hunits, hshort.cons_plain hc (after?_eq_none_iff.1 hnone)⟩

/-- Where some value stands, the reader of values finds one. -/
lemma isSome_value? {close raw : Text} (hclose : close ≠ []) (hraw : Units raw) (rest : Text) :
    (value? close (raw ++ close ++ rest)).isSome = true := by
  induction hraw with
  | nil =>
    obtain ⟨c, cs, rfl⟩ := List.exists_cons_of_ne_nil hclose
    have ha := after?_append (c :: cs) rest
    rw [List.cons_append] at ha
    rw [List.nil_append, List.cons_append, value?.eq_def]
    simp only [ha, Option.isSome_some]
  | escaped hc hs ih =>
    simp only [List.cons_append]
    rw [value?.eq_def]
    dsimp only
    split
    · rfl
    · rw [if_pos rfl, if_neg hc, Option.isSome_map]
      exact ih
  | plain hc hs ih =>
    simp only [List.cons_append]
    rw [value?.eq_def]
    dsimp only
    split
    · rfl
    · rw [if_neg hc, Option.isSome_map]
      exact ih

/-- **The reader of values** returns the shortest value with the closing token behind it. -/
lemma value?_eq_some_iff {close s raw rest : Text} (hclose : close ≠ []) :
    value? close s = some (raw, rest) ↔
      s = raw ++ close ++ rest ∧ Units raw ∧ Shortest close raw rest := by
  refine ⟨value?_sound, ?_⟩
  rintro ⟨rfl, hunits, hshort⟩
  obtain ⟨⟨raw', rest'⟩, hv⟩ := Option.isSome_iff_exists.1 (isSome_value? hclose hunits rest)
  obtain ⟨heq, hunits', hshort'⟩ := value?_sound hv
  obtain ⟨rfl, rfl⟩ := hshort.unique hunits hunits' hshort' heq
  exact hv

/-! ## Names -/

/-- The word characters in front of an opening parenthesis that stands behind the trail are word
characters of the trail. -/
lemma takeWhile_isWord_trail (trail s : Text) :
    (trail ++ '(' :: s).takeWhile isWord = trail.takeWhile isWord := by
  have hopen : isWord '(' = false := by decide +kernel
  rw [List.takeWhile_append]
  split
  · rename_i hlen
    rw [List.takeWhile_cons_of_neg (by simp [hopen]), List.append_nil]
    exact ((List.takeWhile_prefix isWord).eq_of_length hlen).symm
  · rfl

/-- **A name ends at one place only**: the word characters from the beginning of the name on are
the name and those with which the trail begins. -/
theorem name_unique {name name' trail s s' : Text} (hname : ∀ c ∈ name, isWord c = true)
    (hname' : ∀ c ∈ name', isWord c = true)
    (h : name ++ (trail ++ '(' :: s) = name' ++ (trail ++ '(' :: s')) :
    name = name' ∧ s = s' := by
  have hrun := congrArg (List.takeWhile isWord) h
  rw [List.takeWhile_append_of_pos hname, List.takeWhile_append_of_pos hname',
    takeWhile_isWord_trail, takeWhile_isWord_trail] at hrun
  obtain rfl := List.append_cancel_right hrun
  simpa using h

/-! ## Occurrences -/

/-- Behind the name stand the trail, an opening parenthesis and a value between wrappers. -/
lemma body?_eq_some_iff {t : Template} {s raw rest : Text} :
    body? t s = some (raw, rest) ↔
      s = t.body raw ++ rest ∧ Units raw ∧ Shortest t.closing raw rest := by
  have hclose : t.wrapper ++ [')'] = t.closing := rfl
  unfold body?
  cases ha : after? (t.trail ++ '(' :: t.wrapper) s with
  | none =>
    simp only [reduceCtorEq, false_iff, not_and]
    rintro rfl
    refine absurd ?_ (after?_eq_none_iff.1 ha)
    simp [body]
  | some s' =>
    obtain rfl := after?_eq_some_iff.1 ha
    simp [hclose, value?_eq_some_iff t.closing_ne_nil, body]

/-- What the reader of names and values returns has the shape of an occurrence behind its
lead. -/
lemma named?_sound {t : Template} {s rest : Text} {o : Occurrence}
    (h : named? t s = some (o, rest)) :
    s = o.name ++ t.body o.raw ++ rest ∧ o.WellFormed ∧ Shortest t.closing o.raw rest := by
  induction s generalizing o with
  | nil => simp [named?] at h
  | cons c s ih =>
    unfold named? at h
    split at h
    · rename_i hc
      split at h
      · rename_i o' r hn
        simp only [Option.some.injEq, Prod.mk.injEq] at h
        obtain ⟨rfl, rfl⟩ := h
        obtain ⟨hs, hwf, hshort⟩ := ih hn
        refine ⟨by rw [hs]; rfl, ⟨List.cons_ne_nil _ _, ?_, hwf.units_raw⟩, hshort⟩
        exact List.forall_mem_cons.2 ⟨hc, hwf.isWord_of_mem_name⟩
      · obtain ⟨raw, rfl, hb⟩ := of_map_eq_some h
        obtain ⟨rfl, hunits, hshort⟩ := body?_eq_some_iff.1 hb
        exact ⟨rfl, ⟨List.cons_ne_nil _ _, by simpa using hc, hunits⟩, hshort⟩
    · simp at h

/-- Where a name and a body stand, the reader of names and values finds an occurrence. -/
lemma isSome_named? {t : Template} {o : Occurrence} (h : o.WellFormed) (rest : Text) :
    (named? t (o.name ++ t.body o.raw ++ rest)).isSome = true := by
  obtain ⟨name, raw⟩ := o
  obtain ⟨hne, hword, hraw⟩ := h
  dsimp only at hne hword hraw ⊢
  induction name with
  | nil => exact absurd rfl hne
  | cons c name ih =>
    obtain ⟨hc, hname⟩ := List.forall_mem_cons.1 hword
    simp only [List.cons_append]
    rw [named?, if_pos hc]
    split
    · rfl
    · rename_i hnone
      rw [Option.isSome_map]
      cases name with
      | nil =>
        obtain ⟨⟨raw', rest'⟩, hv⟩ :=
          Option.isSome_iff_exists.1 (isSome_value? t.closing_ne_nil hraw rest)
        obtain ⟨hs, hunits, hshort⟩ := value?_sound hv
        refine Option.isSome_iff_exists.2 ⟨(raw', rest'), body?_eq_some_iff.2 ⟨?_, hunits, hshort⟩⟩
        simp only [body, List.nil_append, List.append_assoc, List.cons_append] at hs ⊢
        rw [hs]
      | cons d name =>
        have := ih (List.cons_ne_nil _ _) hname
        rw [hnone] at this
        exact absurd this Bool.false_ne_true

/-- **At most one occurrence begins a text**, if its value is to end at the first possible
place. -/
theorem written_unique {t : Template} {o o' : Occurrence} {rest rest' : Text}
    (hwf : o.WellFormed) (hwf' : o'.WellFormed) (hshort : Shortest t.closing o.raw rest)
    (hshort' : Shortest t.closing o'.raw rest')
    (heq : t.written o ++ rest = t.written o' ++ rest') : o = o' ∧ rest = rest' := by
  obtain ⟨name, raw⟩ := o
  obtain ⟨name', raw'⟩ := o'
  simp only [written_eq, body, List.append_assoc, List.cons_append] at heq
  obtain ⟨hname, hvalue⟩ := name_unique hwf.isWord_of_mem_name hwf'.isWord_of_mem_name
    (List.append_cancel_left heq)
  obtain ⟨hraw, hrest⟩ := hshort.unique hwf.units_raw hwf'.units_raw hshort'
    (by simpa only [List.append_assoc] using List.append_cancel_left hvalue)
  dsimp only at hname hraw
  exact ⟨by rw [hname, hraw], hrest⟩

/-- What the reader of occurrences returns is an occurrence at the beginning of the text. -/
lemma occurrence?_sound {t : Template} {s rest : Text} {o : Occurrence}
    (h : occurrence? t s = some (o, rest)) :
    s = t.written o ++ rest ∧ o.WellFormed ∧ Shortest t.closing o.raw rest := by
  unfold occurrence? at h
  split at h
  · simp at h
  · rename_i s' ha
    obtain ⟨rfl, hwf, hshort⟩ := named?_sound h
    refine ⟨?_, hwf, hshort⟩
    rw [after?_eq_some_iff.1 ha, written_eq]
    simp only [List.append_assoc]

/-- Where a complete occurrence begins, the reader of occurrences finds one. -/
lemma isSome_occurrence? {t : Template} {s : Text} (h : t.Begins s) :
    (occurrence? t s).isSome = true := by
  obtain ⟨o, rest, hwf, rfl⟩ := h
  rw [written_eq, List.append_assoc, occurrence?, after?_append]
  exact isSome_named? hwf rest

/-- **The occurrence at the beginning of a text.** The reader returns an occurrence exactly if the
text begins with it and its value ends at the first possible place. -/
theorem occurrence?_eq_some_iff {t : Template} {s rest : Text} {o : Occurrence} :
    occurrence? t s = some (o, rest) ↔
      s = t.written o ++ rest ∧ o.WellFormed ∧ Shortest t.closing o.raw rest := by
  refine ⟨occurrence?_sound, ?_⟩
  rintro ⟨rfl, hwf, hshort⟩
  obtain ⟨⟨o', rest'⟩, ho⟩ := Option.isSome_iff_exists.1 (isSome_occurrence? ⟨o, rest, hwf, rfl⟩)
  obtain ⟨heq, hwf', hshort'⟩ := occurrence?_sound ho
  obtain ⟨rfl, rfl⟩ := written_unique hwf hwf' hshort hshort' heq
  exact ho

/-- **No occurrence is missed**: the reader returns none only if no complete occurrence stands at
the beginning of the text. -/
theorem occurrence?_eq_none_iff {t : Template} {s : Text} :
    occurrence? t s = none ↔ ¬ t.Begins s := by
  constructor
  · intro hnone hbegins
    have hsome := isSome_occurrence? hbegins
    rw [hnone] at hsome
    exact Bool.false_ne_true hsome
  · intro hbegins
    cases ho : occurrence? t s with
    | none => rfl
    | some p =>
      obtain ⟨o, rest⟩ := p
      obtain ⟨heq, hwf, -⟩ := occurrence?_sound ho
      exact absurd ⟨o, rest, hwf, heq⟩ hbegins

end TreeQuery.Template
