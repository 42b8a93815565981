import TreeQuery.Proofs.Template.Gate

set_option relaxedAutoImplicit false
set_option autoImplicit false

/-!
# Where values end

The escaping divides the text behind an opening wrapper into units: two backslashes, a backslash
with a whole wrapper, and otherwise single characters. The reader of values goes by other units, in
which a backslash takes one character along, also where a wrapper of several characters is escaped.
So it may find the end of a value inside an escaped wrapper, and what it takes for the closing
wrapper then begins in the middle of a unit of the escaping.

Whether this can happen is settled by the wrapper alone. It cannot if the wrapper begins with a
backslash. It does happen with every longer wrapper that ends as it begins, such as three quotes.

## Main definitions

* `TreeQuery.Template.Boundary` — a value that the units of the escaping divide from what stands
  behind it.
* `TreeQuery.Decomposition.EndAtBoundaries` — all values of a text are such.
* `TreeQuery.Template.SelfDelimiting` — no end of a wrapper can be taken for another wrapper.

## Main results

* `TreeQuery.Template.boundary_of_units` — values between wrappers that are self-delimiting.
* `TreeQuery.Template.endAtBoundaries_iff` — the wrappers with which all values of all texts end at
  boundaries.
* `TreeQuery.Template.tripleQuote_endsInsideEscape` — a value that ends inside an escaped wrapper.
-/

namespace TreeQuery

open Text

namespace Template

variable {wrapper : Text}

/-! ## Units of the escaping -/

/-- The first unit of a text by the rules of the escaping. -/
def escapeUnit (wrapper : Text) : Text → Text
  | [] => []
  | '\\' :: '\\' :: _ => ['\\', '\\']
  | '\\' :: s => if (afterWrapper? wrapper s).isSome then '\\' :: wrapper else ['\\']
  | c :: _ => [c]

/-- Reading `value ++ rest` from left to right in units of the escaping, one comes to stand behind
`value`. -/
inductive Boundary (wrapper rest : Text) : (value : Text) → Prop
  | start : Boundary wrapper rest []
  | unit {e value : Text} (hne : e ≠ []) (he : escapeUnit wrapper (e ++ (value ++ rest)) = e)
      (h : Boundary wrapper rest value) : Boundary wrapper rest (e ++ value)

/-- Two backslashes are a unit, whatever the wrapper is. -/
lemma escapeUnit_backslashes (wrapper s : Text) :
    escapeUnit wrapper ('\\' :: '\\' :: s) = ['\\', '\\'] := rfl

lemma escapeUnit_char {c : Char} (hc : c ≠ '\\') (s : Text) :
    escapeUnit wrapper (c :: s) = [c] := by
  simp [escapeUnit, hc]

lemma isSome_afterWrapper? (hw : wrapper ≠ []) {s : Text} :
    (afterWrapper? wrapper s).isSome = true ↔ wrapper <+: s := by
  rw [afterWrapper?, if_neg (by simpa using hw)]
  cases h : after? wrapper s with
  | none => simpa using after?_eq_none_iff.1 h
  | some rest => simpa using ⟨rest, (after?_eq_some_iff.1 h).symm⟩

/-- A backslash in front of a wrapper is a unit together with it. -/
lemma escapeUnit_wrapper (hw : wrapper ≠ []) (hb : wrapper.head? ≠ some '\\') (s : Text) :
    escapeUnit wrapper ('\\' :: (wrapper ++ s)) = '\\' :: wrapper := by
  obtain ⟨c, w, rfl⟩ := List.exists_cons_of_ne_nil hw
  have hc : c ≠ '\\' := by simpa using hb
  have hafter := (isSome_afterWrapper? hw).2 (List.prefix_append (c :: w) s)
  rw [List.cons_append] at hafter
  simp [escapeUnit, hc, hafter]

/-- A backslash in front of anything else is a unit by itself. -/
lemma escapeUnit_lone (hw : wrapper ≠ []) {c : Char} (hc : c ≠ '\\') {s : Text}
    (h : ¬ wrapper <+: c :: s) : escapeUnit wrapper ('\\' :: c :: s) = ['\\'] := by
  rw [← isSome_afterWrapper? hw] at h
  simp [escapeUnit, hc, h]

/-- A value that is not empty begins with the first unit of the text. -/
lemma Boundary.exists_unit {rest value : Text} (h : Boundary wrapper rest value)
    (hne : value ≠ []) :
    ∃ value', value = escapeUnit wrapper (value ++ rest) ++ value' ∧
      Boundary wrapper rest value' := by
  cases h with
  | start => exact absurd rfl hne
  | unit _ he h =>
    rw [List.append_assoc, he]
    exact ⟨_, rfl, h⟩

/-! ## Units of the reader -/

lemma units_escaped_iff {c : Char} {s : Text} : Units ('\\' :: c :: s) ↔ c ≠ '\n' ∧ Units s := by
  refine ⟨fun h => ?_, fun ⟨hc, hs⟩ => .escaped hc hs⟩
  cases h with
  | escaped hc hs => exact ⟨hc, hs⟩
  | plain hb _ => exact absurd rfl hb

lemma units_plain_iff {c : Char} (hc : c ≠ '\\') {s : Text} : Units (c :: s) ↔ Units s := by
  refine ⟨fun h => ?_, .plain hc⟩
  cases h with
  | escaped _ _ => exact absurd rfl hc
  | plain _ hs => exact hs

/-- A backslash takes a character along. -/
lemma not_units_backslash : ¬ Units ['\\'] := by
  intro h
  cases h with
  | plain hb _ => exact hb rfl

/-- Behind units come units. -/
lemma Units.append_iff {u : Text} (hu : Units u) {v : Text} : Units (u ++ v) ↔ Units v := by
  induction hu with
  | nil => rfl
  | escaped hc _ ih =>
    rw [List.cons_append, List.cons_append, units_escaped_iff, ih]
    exact and_iff_right hc
  | plain hc _ ih => rw [List.cons_append, units_plain_iff hc, ih]

lemma units_of_forall_ne {s : Text} (h : ∀ c ∈ s, c ≠ '\\') : Units s := by
  induction s with
  | nil => exact .nil
  | cons c s ih =>
    obtain ⟨hc, hs⟩ := List.forall_mem_cons.1 h
    exact .plain hc (ih hs)

/-- What is cut off from a text of units is a text of units, unless the cut is behind a backslash
that takes the next character along. -/
lemma Units.of_append {a b : Text} (h : Units (a ++ b)) :
    Units b ∨ ∃ u, a = u ++ ['\\'] ∧ Units u := by
  induction hn : a.length using Nat.strong_induction_on generalizing a with
  | h n ih =>
    subst hn
    rcases a with _ | ⟨c, a⟩
    · exact .inl h
    by_cases hc : c = '\\'
    · subst hc
      rcases a with _ | ⟨c, a⟩
      · exact .inr ⟨[], rfl, .nil⟩
      · obtain ⟨hc, h⟩ := units_escaped_iff.1 h
        refine (ih a.length (by simp only [List.length_cons]; omega) h rfl).imp_right ?_
        rintro ⟨u, rfl, hu⟩
        exact ⟨'\\' :: c :: u, rfl, .escaped hc hu⟩
    · refine (ih a.length (by simp) ((units_plain_iff hc).1 h) rfl).imp_right ?_
      rintro ⟨u, rfl, hu⟩
      exact ⟨c :: u, rfl, .plain hc hu⟩

/-! ## Wrappers that are self-delimiting -/

/-- Wherever the reader could end a value inside an escaped wrapper, what is left of the wrapper is
not the beginning of a wrapper; and it is not a single backslash, which would take along a character
from behind the wrapper. -/
def SelfDelimiting (wrapper : Text) : Prop :=
  ∀ u v, '\\' :: wrapper = u ++ v → Units u → u ≠ [] → v ≠ [] → ¬ v <+: wrapper ∧ v ≠ ['\\']

/-- A wrapper without backslashes and line feeds is self-delimiting exactly if it does not end as it
begins: apart from the whole no end of it is a beginning of it. -/
theorem selfDelimiting_iff (h : ∀ c ∈ wrapper, c ≠ '\\' ∧ c ≠ '\n') :
    SelfDelimiting wrapper ↔
      ∀ u v, wrapper = u ++ v → u ≠ [] → v ≠ [] → ¬ v <+: wrapper := by
  constructor
  · rintro hw u v rfl hu hv
    obtain ⟨c, u, rfl⟩ := List.exists_cons_of_ne_nil hu
    have hunits : Units u := units_of_forall_ne fun b hb => (h b (by simp [hb])).1
    have hescaped : Units ('\\' :: c :: u) := .escaped (h c (by simp)).2 hunits
    exact (hw ('\\' :: c :: u) v rfl hescaped (List.cons_ne_nil _ _) hv).1
  · intro hw u v huv hunits hu hv
    obtain ⟨c, u, rfl⟩ := List.exists_cons_of_ne_nil hu
    obtain ⟨rfl, rfl⟩ := List.cons.inj huv
    have hne : u ≠ [] := by
      rintro rfl
      exact not_units_backslash hunits
    refine ⟨hw u v rfl hne hv, ?_⟩
    rintro rfl
    exact (h '\\' (by simp)).1 rfl

namespace SelfDelimiting

variable {c : Char} {w s rest : Text}

/-- If the reader passes the beginning of an escaped wrapper, the value holds the whole of it. -/
lemma prefix_value (h : SelfDelimiting (c :: w)) (hc : c ≠ '\n') (hs : Units s)
    (hw : w <+: s ++ (c :: w ++ rest)) : w <+: s := by
  obtain ⟨x, hx⟩ := hw
  rcases List.append_eq_append_iff.1 hx with ⟨s', hs', -⟩ | ⟨v, rfl, hrest⟩
  · exact ⟨s', hs'.symm⟩
  · by_contra hnot
    have hne : v ≠ [] := by
      rintro rfl
      rw [List.append_nil] at hnot
      exact hnot (List.prefix_refl s)
    have hlength : v.length ≤ (c :: (s ++ v)).length := by
      rw [List.length_cons, List.length_append]
      omega
    have hprefix : v <+: c :: (s ++ v) :=
      List.prefix_of_prefix_length_le ⟨x, hrest.symm⟩ (List.prefix_append _ rest) hlength
    exact (h ('\\' :: c :: s) v rfl (.escaped hc hs) (List.cons_ne_nil _ _) hne).1 hprefix

/-- Behind an escaped wrapper in a value the reader stands at the beginning of a unit. -/
lemma units_behind (h : SelfDelimiting (c :: w)) (hc : c ≠ '\n') (hs : Units (w ++ s)) :
    Units s := by
  refine hs.of_append.resolve_right ?_
  rintro ⟨u, rfl, hu⟩
  exact (h ('\\' :: c :: u) ['\\'] rfl (.escaped hc hu) (List.cons_ne_nil _ _)
    (List.cons_ne_nil _ _)).2 rfl

end SelfDelimiting

/-- **Values of self-delimiting wrappers end at boundaries**, whatever stands behind the closing
wrapper. So do the values of wrappers that begin with a backslash, for which the escaping has no
unit.

**Proof sketch.** By induction on the value. Where the escaping reads a backslash with a wrapper,
the value holds the whole wrapper, for otherwise it would end inside it, in front of the beginning
of a wrapper. And the reader comes to stand behind that wrapper, for it does not end with a
backslash that takes a character along. -/
theorem boundary_of_units (hw : wrapper ≠ [])
    (h : wrapper.head? = some '\\' ∨ SelfDelimiting wrapper) {value : Text} (hvalue : Units value)
    (rest : Text) : Boundary wrapper (wrapper ++ rest) value := by
  induction hn : value.length using Nat.strong_induction_on generalizing value with
  | h n ih =>
    subst hn
    cases hvalue with
    | nil => exact .start
    | @plain c s hc hs =>
      exact .unit (e := [c]) (List.cons_ne_nil _ _) (escapeUnit_char hc _) (ih _ (by simp) hs rfl)
    | @escaped c s hc hs =>
      by_cases hb : c = '\\'
      · subst hb
        exact .unit (e := ['\\', '\\']) (List.cons_ne_nil _ _) (escapeUnit_backslashes _ _)
          (ih _ (by simp only [List.length_cons]; omega) hs rfl)
      by_cases hp : wrapper <+: c :: (s ++ (wrapper ++ rest))
      · -- The escaping reads a backslash with a wrapper.
        obtain ⟨x, hx⟩ := hp
        obtain ⟨c', w, rfl⟩ := List.exists_cons_of_ne_nil hw
        obtain ⟨rfl, htail⟩ := List.cons.inj hx
        have hdelimiting : SelfDelimiting (c' :: w) := h.resolve_left (by simpa using hb)
        obtain ⟨s', rfl⟩ := hdelimiting.prefix_value hc hs ⟨x, htail⟩
        have hs' : Units s' := hdelimiting.units_behind hc hs
        have hshort : s'.length < ('\\' :: c' :: (w ++ s')).length := by
          simp only [List.length_cons, List.length_append]
          omega
        exact .unit (e := '\\' :: c' :: w) (List.cons_ne_nil _ _)
          (escapeUnit_wrapper hw (by simpa using hb) _) (ih _ hshort hs' rfl)
      · -- The backslash means itself, and so does the character behind it.
        exact .unit (e := ['\\']) (List.cons_ne_nil _ _) (escapeUnit_lone hw hb hp)
          (.unit (e := [c]) (List.cons_ne_nil _ _) (escapeUnit_char hb _)
            (ih _ (by simp only [List.length_cons]; omega) hs rfl))

end Template

/-! ## The values of a text -/

/-- The values of all occurrences end at boundaries: reading the text behind an opening wrapper in
units of the escaping, one comes to stand in front of the closing wrapper. -/
def Decomposition.EndAtBoundaries (t : Template) : Decomposition Template.Occurrence → Prop
  | last _ => True
  | cons _ o g =>
    Template.Boundary t.wrapper (t.closing ++ g.text t.written) o.raw ∧ g.EndAtBoundaries t

namespace Template

open Decomposition

variable {t : Template}

/-- If values of units end at boundaries, the occurrences of a text have such values. -/
lemma endAtBoundaries_of_units
    (h : ∀ value rest, Units value → Boundary t.wrapper (t.wrapper ++ rest) value)
    {g : Decomposition Occurrence} (hg : g.Fits t) : g.EndAtBoundaries t := by
  induction g with
  | last f => trivial
  | cons f o g ih =>
    obtain ⟨hwf, -, hg⟩ := hg
    refine ⟨?_, ih hg⟩
    rw [closing, List.append_assoc]
    exact h _ _ hwf.units_raw

/-- If a value with a closing wrapper stands behind an opening one, an occurrence is found there
whose value is this one or a beginning of it. -/
lemma exists_decompose_written (t : Template) {raw : Text} (hraw : Units raw) :
    ∃ (s value rest : Text), t.decompose s = .cons [] ⟨['a'], value⟩ (t.decompose rest) ∧
      Units value ∧ raw ++ t.closing = value ++ (t.closing ++ rest) ∧ value <+: raw := by
  have ha : isWord 'a' = true := by decide +kernel
  obtain ⟨⟨value, rest⟩, hv⟩ :=
    Option.isSome_iff_exists.1 (isSome_value? t.closing_ne_nil hraw [])
  obtain ⟨htext, hvalue, hshort⟩ := value?_sound hv
  rw [List.append_nil, List.append_assoc] at htext
  have hwf : Occurrence.WellFormed ⟨['a'], value⟩ :=
    ⟨List.cons_ne_nil _ _, List.forall_mem_singleton.2 ha, hvalue⟩
  refine ⟨_, value, rest, decompose_of_occurrence? (occurrence?_eq_some_iff.2 ⟨rfl, hwf, hshort⟩),
    hvalue, htext, ?_⟩
  have hlength := congrArg List.length htext
  simp only [List.length_append] at hlength
  exact List.prefix_of_prefix_length_le ⟨t.closing ++ rest, htext.symm⟩
    (List.prefix_append raw t.closing) (by omega)

/-- If values end at boundaries, a value that is found where an escaped wrapper stands holds this
wrapper. -/
lemma exists_value_of_escaped (hw : t.wrapper ≠ []) (hb : t.wrapper.head? ≠ some '\\')
    (h : ∀ s, (t.decompose s).EndAtBoundaries t) {raw x : Text} (hraw : Units raw)
    (hbegin : raw ++ t.closing = '\\' :: (t.wrapper ++ x)) :
    ∃ value rest, '\\' :: t.wrapper ++ value <+: raw ∧ Units ('\\' :: t.wrapper ++ value) ∧
      Boundary t.wrapper (t.closing ++ rest) value := by
  obtain ⟨s, value, rest, hs, hvalue, htext, hprefix⟩ := exists_decompose_written t hraw
  have hboundary : Boundary t.wrapper (t.closing ++ rest) value := by
    have hend := h s
    rw [hs] at hend
    rw [← (decompose_exact t rest).1]
    exact hend.1
  have hne : value ≠ [] := by
    rintro rfl
    rw [hbegin, List.nil_append, closing, List.append_assoc] at htext
    obtain ⟨c, w, hc⟩ := List.exists_cons_of_ne_nil hw
    rw [hc, List.cons_append] at htext
    exact hb (by rw [hc, ← (List.cons.inj htext).1]; rfl)
  obtain ⟨value', hunit, hboundary'⟩ := hboundary.exists_unit hne
  rw [← htext, hbegin, escapeUnit_wrapper hw hb] at hunit
  exact ⟨value', rest, hunit ▸ hprefix, hunit ▸ hvalue, hboundary'⟩

/-- If values end at boundaries, the wrapper is self-delimiting or begins with a backslash.

**Proof sketch.** A value that could end inside an escaped wrapper, in front of the beginning of a
wrapper, is followed by a whole wrapper. If the reader leaves a single backslash of an escaped
wrapper, this is followed by another escaped wrapper, in the middle of which the value then ends. -/
lemma selfDelimiting_of_endAtBoundaries (hw : t.wrapper ≠ [])
    (hb : t.wrapper.head? ≠ some '\\') (h : ∀ s, (t.decompose s).EndAtBoundaries t) :
    SelfDelimiting t.wrapper := by
  intro u v huv hu hne hv
  constructor
  · rintro ⟨y, hy⟩
    have hbegin : u ++ t.closing = '\\' :: (t.wrapper ++ (y ++ [')'])) := by
      rw [← List.cons_append, huv, closing, ← hy]
      simp
    obtain ⟨value, -, hprefix, -⟩ := exists_value_of_escaped hw hb h hu hbegin
    rw [huv] at hprefix
    have hlength := hprefix.length_le
    simp only [List.length_append] at hlength
    exact hv (List.length_eq_zero_iff.1 (by omega))
  · rintro rfl
    have hraw : Units ('\\' :: t.wrapper ++ ['\\']) := by
      rw [huv, List.append_assoc, hu.append_iff]
      exact .escaped (by decide) .nil
    obtain ⟨value, rest, hprefix, hvalue, hboundary⟩ :=
      exists_value_of_escaped hw hb h hraw (x := '\\' :: t.closing) (by simp)
    rw [List.prefix_append_right_inj] at hprefix
    rcases List.prefix_cons_iff.1 hprefix with rfl | ⟨value', rfl, hnil⟩
    · rw [List.append_nil, huv, hu.append_iff] at hvalue
      exact not_units_backslash hvalue
    · rw [List.prefix_nil.1 hnil] at hboundary
      obtain ⟨value', hunit, -⟩ := hboundary.exists_unit (List.cons_ne_nil _ _)
      rw [List.singleton_append, closing, List.append_assoc,
        escapeUnit_wrapper hw hb] at hunit
      exact hw (List.append_eq_nil_iff.1 (List.cons.inj hunit).2.symm).1

/-- **The wrappers with which values end at boundaries.** Read from left to right in units of the
escaping, the text behind the opening wrapper of an occurrence has a boundary in front of the
closing wrapper, for every occurrence of every text, exactly if the wrapper begins with a backslash
or is self-delimiting.

**Proof sketch.** One direction is `boundary_of_units`. For the other one, each way in which a
wrapper may fail to be self-delimiting gives a text with a value that ends inside an escaped
wrapper (`selfDelimiting_of_endAtBoundaries`). -/
theorem endAtBoundaries_iff (t : Template) (hw : t.wrapper ≠ []) :
    (∀ s, (t.decompose s).EndAtBoundaries t) ↔
      t.wrapper.head? = some '\\' ∨ SelfDelimiting t.wrapper := by
  constructor
  · intro h
    by_cases hb : t.wrapper.head? = some '\\'
    · exact .inl hb
    · exact .inr (selfDelimiting_of_endAtBoundaries hw hb h)
  · intro h s
    exact endAtBoundaries_of_units (fun value rest hvalue => boundary_of_units hw h hvalue rest)
      (decompose_exact t s).2.fits

/-- A wrapper of two characters that does not end as it begins, and one that does. -/
theorem endAtBoundaries_iff_twoCharacters :
    let t : Template := ⟨[':'], [], ['<', '!']⟩
    let t' : Template := ⟨[':'], [], ['<', '<']⟩
    (t.wrapper ≠ [] ∧ ∀ s, (t.decompose s).EndAtBoundaries t) ∧
      t'.wrapper ≠ [] ∧ ¬ ∀ s, (t'.decompose s).EndAtBoundaries t' := by
  intro t t'
  have hw : t.wrapper ≠ [] := List.cons_ne_nil _ _
  have hw' : t'.wrapper ≠ [] := List.cons_ne_nil _ _
  have hplain : ∀ c ∈ t.wrapper, c ≠ '\\' ∧ c ≠ '\n' := by simp [t]
  have hdelimiting : SelfDelimiting t.wrapper := by
    refine (selfDelimiting_iff hplain).2 fun u v huv hu hv => ?_
    obtain ⟨c, u, rfl⟩ := List.exists_cons_of_ne_nil hu
    obtain ⟨c', v, rfl⟩ := List.exists_cons_of_ne_nil hv
    obtain ⟨-, htail⟩ := List.cons.inj huv
    rcases List.append_eq_singleton_iff.1 htail.symm with ⟨rfl, hv⟩ | ⟨rfl, hv⟩
    · rw [hv]
      decide
    · simp at hv
  have hplain' : ∀ c ∈ t'.wrapper, c ≠ '\\' ∧ c ≠ '\n' := by simp [t']
  refine ⟨⟨hw, (endAtBoundaries_iff t hw).2 (.inr hdelimiting)⟩, hw', fun h => ?_⟩
  have hdelimiting' := ((endAtBoundaries_iff t' hw').1 h).resolve_left (by decide)
  exact (selfDelimiting_iff hplain').1 hdelimiting' ['<'] ['<'] rfl (List.cons_ne_nil _ _)
    (List.cons_ne_nil _ _) ⟨['<'], rfl⟩

/-- **A value that ends inside an escaped wrapper.** Behind the opening wrapper stands a backslash
with the whole wrapper, which is one unit of the escaping. But the reader takes the backslash for an
escape of the first quote only, and finds a closing wrapper from the second quote on. -/
theorem tripleQuote_endsInsideEscape :
    let t : Template := ⟨Template.default.lead, [], ['"', '"', '"']⟩
    let value : Text := ['\\', '"', '"', '"', '"', ')', 'b', '"', '"', '"', ')']
    let s : Text := t.lead ++ "exact".toList ++ '(' :: t.wrapper ++ value
    t.occurrences s = [⟨"exact".toList, ['\\', '"']⟩] ∧
      escapeUnit t.wrapper value = '\\' :: t.wrapper ∧ ¬ (t.decompose s).EndAtBoundaries t := by
  intro t value s
  have hread : occurrence? t s =
      some (⟨"exact".toList, ['\\', '"']⟩, ['b', '"', '"', '"', ')']) := by decide +kernel
  have hgate : t.gate ['b', '"', '"', '"', ')'] = false := by decide +kernel
  have hdecompose := decompose_of_occurrence? hread
  rw [decompose_of_gate hgate] at hdecompose
  refine ⟨by rw [occurrences_eq, hdecompose]; rfl, rfl, ?_⟩
  rw [hdecompose]
  rintro ⟨h, -⟩
  obtain ⟨value', hunit, -⟩ := h.exists_unit (List.cons_ne_nil _ _)
  have hlength : 2 = value'.length + 4 := congrArg List.length hunit
  omega

end Template

end TreeQuery
