import Mathlib.Data.List.Permutation
import TreeQuery.Proofs.Engine.FirstMatch
import TreeQuery.Proofs.Engine.Parse
import TreeQuery.Proofs.Template.Gate
import TreeQuery.Proofs.Text.Trimming

set_option relaxedAutoImplicit false
set_option autoImplicit false

/-!
# Native selectors need no scanning

A selector that does not pass the gate is given to the document as it is. If it were scanned
nevertheless, nothing would be found in it, its base would be the trimmed selector, every candidate
for the base would be kept, and so the answer would be the same. Only a rejection quotes the
selector with the blanks at its ends in the one case and without them in the other. An empty
selector is an exception: scanned, it would mean the root itself.

## Main definitions

* `TreeQuery.Engine.findAllScanning`, `TreeQuery.Engine.findFirstScanning` — the queries for one
  selector without the gate.
* `TreeQuery.Engine.SameUpToBlanks` — the same answer, or rejections for the same reason.

## Main results

* `TreeQuery.Engine.parse_of_native` — what parsing gives for a selector that does not pass the
  gate.
* `TreeQuery.Engine.scanning_agrees` — the gate changes no answer.
-/

namespace TreeQuery

open Text

/-! ## Trimmed selectors -/

/-- A text is rejected as a native selector for the same reason as the text without the blanks at
its ends, and it is accepted as the same selector. -/
lemma Native.parse_trim (s : Text) :
    SelectorList.parse (trim s) =
      (SelectorList.parse s).mapError fun e => ⟨trim s, e.reason⟩ := by
  unfold SelectorList.parse
  rw [trim_trim]
  by_cases h : (trim s).isEmpty = true
  · rw [if_pos h, if_pos h]
    rfl
  · rw [if_neg h, if_neg h]
    split <;> rfl

/-- A rejection quotes the text as it was given. -/
lemma Native.selector_of_parse {s : Text} {e : InvalidSelector}
    (h : SelectorList.parse s = .error e) : e.selector = s := by
  unfold SelectorList.parse at h
  split at h
  · rw [← Except.error.inj h]
  · split at h
    · simp at h
    · rw [← Except.error.inj h]
    · rw [← Except.error.inj h]

/-- A native selector is more than blanks. -/
lemma Native.trim_ne_nil_of_parse {s : Text} {list : SelectorList}
    (h : SelectorList.parse s = .ok list) : trim s ≠ [] := by
  intro hnil
  simp [SelectorList.parse, hnil] at h

/-- The candidates for a fragment that is a native selector are what it selects. -/
lemma Document.targets_trim (d : Document) (root : NodeId) {b : Text} {list : Native.SelectorList}
    (hparse : Native.SelectorList.parse b = .ok list) :
    d.targets root (trim b) = .ok ((d.descendants root).filter (list.holds d)) := by
  rw [targets, if_neg (Native.trim_ne_nil_of_parse hparse), selectAll, Native.parse_trim, hparse]
  rfl

namespace Engine

/-! ## Without the gate -/

/-- All nodes that a selector finds, the selector being scanned in any case. -/
def findAllScanning (q : Engine) (d : Document) (root : NodeId) (s : Text) :
    Eval (List NodeId) := do
  let parsed ← q.parse s
  let nodes ← candidates d root parsed.base
  Eval.keep (fun n => keeps s n (q.element d n s.length) parsed.calls) nodes

/-- The first node that a selector finds, the selector being scanned in any case. -/
def findFirstScanning (q : Engine) (d : Document) (root : NodeId) (s : Text) :
    Eval (Option NodeId) := do
  let parsed ← q.parse s
  let nodes ← candidates d root parsed.base
  Eval.findFirst (fun n => keeps s n (q.element d n s.length) parsed.calls) nodes

/-- The same answer, or two rejections for the same reason of texts that are the same but for blanks
at their ends. -/
inductive SameUpToBlanks {α : Type} : Except QueryError α → Except QueryError α → Prop
  | answer (a : α) : SameUpToBlanks (.ok a) (.ok a)
  | rejection {e e' : Native.InvalidSelector} (hreason : e.reason = e'.reason)
      (hselector : trim e.selector = trim e'.selector) :
      SameUpToBlanks (.error (.invalidSelector e)) (.error (.invalidSelector e'))

variable {α : Type} {q : Engine} {d : Document} {root : NodeId} {s : Text}

lemma findAllScanning_eq_search (q : Engine) (d : Document) (root : NodeId) (s : Text) :
    q.findAllScanning d root s = q.search d root s (Eval.keep (q.retains d s)) := by
  rw [findAllScanning, search, ← candidates_eq, parse, bind_assoc]
  rfl

lemma findFirstScanning_eq_search (q : Engine) (d : Document) (root : NodeId) (s : Text) :
    q.findFirstScanning d root s = q.search d root s (Eval.findFirst (q.retains d s)) := by
  rw [findFirstScanning, search, ← candidates_eq, parse, bind_assoc]
  rfl

/-! ## What is rejected, and what is answered -/

lemma SameUpToBlanks.map {β : Type} (f : α → β) {x y : Except QueryError α}
    (h : SameUpToBlanks x y) : SameUpToBlanks (x.map f) (y.map f) := by
  cases h with
  | answer a => exact .answer (f a)
  | rejection hreason hselector => exact .rejection hreason hselector

lemma SameUpToBlanks.eq_ok {x : Except QueryError α} {a : α} (h : SameUpToBlanks x (.ok a)) :
    x = .ok a := by
  cases h
  rfl

/-- The document answers a selector as it answers the trimmed selector. -/
lemma sameUpToBlanks_selectAll (d : Document) (root : NodeId) (s : Text) :
    SameUpToBlanks (Eval.ofNative (d.selectAll root s)).result
      (Eval.ofNative (d.selectAll root (trim s))).result := by
  unfold Document.selectAll
  rw [Native.parse_trim]
  cases hparse : Native.SelectorList.parse s with
  | ok list => exact .answer _
  | error e =>
    refine .rejection rfl ?_
    rw [Native.selector_of_parse hparse, trim_trim]

/-- A search fails for no other reason than that the base is no native selector. -/
lemma sameUpToBlanks_search_self {look : List NodeId → Eval α}
    (hlook : ∀ ns, ∃ a, (look ns).result = .ok a) :
    SameUpToBlanks (q.search d root s look).result (q.search d root s look).result := by
  cases ht : d.targets root (q.template.base s) with
  | error e =>
    rw [search_of_error ht]
    exact .rejection rfl rfl
  | ok ns =>
    obtain ⟨a, ha⟩ := hlook ns
    rw [search_of_ok ht, ha]
    exact .answer a

/-! ## Selectors that do not pass the gate -/

/-- **A selector that does not pass the gate** holds no occurrence, so that parsing it makes no
calls, writes no notices and leaves the trimmed selector. -/
theorem parse_of_native (h : q.hasPseudo s = false) :
    q.template.occurrences s = [] ∧ q.parse s = .ok ⟨trim s, []⟩ := by
  have hoccurrences : q.template.occurrences s = [] := Template.occurrences_of_gate h
  have hbase : q.template.base s = trim s := Template.base_of_gate h
  obtain ⟨calls, hparse, hcalls⟩ := q.takesApart_occurrences s
  rw [hoccurrences] at hparse hcalls
  obtain rfl : calls = [] := List.map_eq_nil_iff.1 hcalls
  exact ⟨hoccurrences, by rw [hparse, hbase]; rfl⟩

/-- Scanning a selector that does not pass the gate is going on with what the document gives for
the trimmed selector, as long as that is not empty. -/
lemma scanning_of_native (h : q.hasPseudo s = false) (hs : trim s ≠ [])
    (look : (NodeId → Eval Bool) → List NodeId → Eval α) :
    (q.parse s >>= fun parsed => candidates d root parsed.base >>=
        look fun n => keeps s n (q.element d n s.length) parsed.calls) =
      Eval.ofNative (d.selectAll root (trim s)) >>= look fun _ => .ok true := by
  rw [(parse_of_native h).2, Eval.ok_bind, candidates_eq, Document.targets, if_neg hs]
  rfl

/-- All candidates for the trimmed selector are kept if the selector does not pass the gate. -/
lemma findAllScanning_of_native (h : q.hasPseudo s = false) (hs : trim s ≠ []) :
    q.findAllScanning d root s = Eval.ofNative (d.selectAll root (trim s)) := by
  have hkeep : (Eval.keep fun _ : NodeId => .ok true) = pure := by
    funext ns
    have hall : Eval.keep (fun _ : NodeId => .ok true) ns = .ok (ns.filter fun _ => true) :=
      Eval.keep_of_ok fun n _ => rfl
    rw [hall, List.filter_true]
    rfl
  rw [findAllScanning, scanning_of_native h hs Eval.keep, hkeep, bind_pure]

/-- The first candidate for the trimmed selector is kept if the selector does not pass the gate. -/
lemma findFirstScanning_of_native (h : q.hasPseudo s = false) (hs : trim s ≠ []) :
    q.findFirstScanning d root s =
      List.head? <$> Eval.ofNative (d.selectAll root (trim s)) := by
  have hfirst : (Eval.findFirst fun _ : NodeId => .ok true) = fun ns => pure ns.head? := by
    funext ns
    cases ns <;> rfl
  rw [findFirstScanning, scanning_of_native h hs Eval.findFirst, hfirst, bind_pure_comp]

/-! ## The gate changes no answer -/

/-- The query for all nodes gives, up to blanks in a rejection, the same answer without the gate,
with the same effects. -/
lemma findAllScanning_agrees (q : Engine) (d : Document) (root : NodeId) (hs : trim s ≠ []) :
    SameUpToBlanks (q.findAll d root s).result (q.findAllScanning d root s).result ∧
      (q.findAll d root s).effects = (q.findAllScanning d root s).effects := by
  cases h : q.hasPseudo s with
  | true =>
    rw [findAllScanning_eq_search, findAll_eq_search h]
    refine ⟨sameUpToBlanks_search_self fun ns => ?_, rfl⟩
    exact Eval.exists_result_keep fun n _ => q.exists_result_retains d s n
  | false =>
    have hnative : ¬ q.hasPseudo s = true := by simp [h]
    rw [findAllScanning_of_native h hs, findAll_of_native hnative, Eval.effects_ofNative,
      Eval.effects_ofNative]
    exact ⟨sameUpToBlanks_selectAll d root s, rfl⟩

/-- The query for the first node gives, up to blanks in a rejection, the same answer without the
gate, with the same effects. -/
lemma findFirstScanning_agrees (q : Engine) (d : Document) (root : NodeId) (hs : trim s ≠ []) :
    SameUpToBlanks (q.findFirst d root s).result (q.findFirstScanning d root s).result ∧
      (q.findFirst d root s).effects = (q.findFirstScanning d root s).effects := by
  cases h : q.hasPseudo s with
  | true =>
    rw [findFirstScanning_eq_search, findFirst_eq_search h]
    refine ⟨sameUpToBlanks_search_self fun ns => ?_, rfl⟩
    exact Eval.exists_result_findFirst fun n _ => q.exists_result_retains d s n
  | false =>
    have hnative : ¬ q.hasPseudo s = true := by simp [h]
    have hfirst : Eval.ofNative (d.selectFirst root s) =
        List.head? <$> Eval.ofNative (d.selectAll root s) := by
      rw [Document.selectFirst_eq_head?_selectAll]
      cases d.selectAll root s <;> rfl
    rw [findFirstScanning_of_native h hs, findFirst_of_native hnative, hfirst, Eval.result_map,
      Eval.result_map, Eval.effects_map, Eval.effects_map, Eval.effects_ofNative,
      Eval.effects_ofNative]
    exact ⟨(sameUpToBlanks_selectAll d root s).map List.head?, rfl⟩

/-- Without the gate too, the first node found is the head of all nodes found. -/
lemma result_findFirstScanning (q : Engine) (d : Document) (root : NodeId) (s : Text) :
    (q.findFirstScanning d root s).result =
      (q.findAllScanning d root s).result.map List.head? := by
  rw [findFirstScanning_eq_search, findAllScanning_eq_search]
  cases ht : d.targets root (q.template.base s) with
  | error e =>
    rw [search_of_error ht, search_of_error ht]
    rfl
  | ok ns =>
    rw [search_of_ok ht, search_of_ok ht]
    exact Eval.result_findFirst_eq_head?_keep fun n _ => q.exists_result_retains d s n

/-- **The gate changes no answer**, whatever template, registry, document, root and selector are. A
selector that does not pass it holds no occurrence, and parsing it would make no calls, write no
notices and leave the trimmed selector. If a selector is more than blanks, both queries for it are
answered as if it were scanned in any case, with the same effects; if they fail it is for the same
reason, and the selector is quoted with the same text between the blanks at its ends.

**Proof sketch.** A text with an occurrence passes the gate, so in one that does not scanning finds
nothing (`occurrences_of_gate`). Then the base is the trimmed selector, which the document answers
as it answers the selector (`sameUpToBlanks_selectAll`), and no call leaves out a candidate. A
selector that passes the gate is scanned anyway. -/
theorem scanning_agrees (q : Engine) (d : Document) (root : NodeId) (s : Text) :
    (q.hasPseudo s = false →
        q.template.occurrences s = [] ∧ q.parse s = .ok ⟨trim s, []⟩) ∧
      (trim s ≠ [] →
        SameUpToBlanks (q.findAll d root s).result (q.findAllScanning d root s).result ∧
        (q.findAll d root s).effects = (q.findAllScanning d root s).effects ∧
        SameUpToBlanks (q.findFirst d root s).result (q.findFirstScanning d root s).result ∧
        (q.findFirst d root s).effects = (q.findFirstScanning d root s).effects) ∧
      (q.findFirstScanning d root s).result =
        (q.findAllScanning d root s).result.map List.head? := by
  refine ⟨fun h => parse_of_native h, fun hs => ?_, q.result_findFirstScanning d root s⟩
  obtain ⟨hall, heffects⟩ := q.findAllScanning_agrees d root hs
  obtain ⟨hfirst, hfirstEffects⟩ := q.findFirstScanning_agrees d root hs
  exact ⟨hall, heffects, hfirst, hfirstEffects⟩

set_option maxRecDepth 10000 in
/-- A combinator alone behind a no-break space: it is rejected with the no-break space in the one
case and without it in the other. -/
theorem scanning_agrees_rejected :
    let d : Document := ⟨#[⟨0, .element ['r'] []⟩], by decide⟩
    let q : Engine := ⟨.default, .standard⟩
    let s : Text := ['\u00a0', '>', '\n']
    (q.hasPseudo s = false ∧ trim s ≠ []) ∧ q.parse s = .ok ⟨['>'], []⟩ ∧
      (q.findAll d 0 s).result = .error (.invalidSelector ⟨s, .unreadable ['>']⟩) ∧
      SameUpToBlanks (q.findAll d 0 s).result (q.findAllScanning d 0 s).result ∧
      SameUpToBlanks (q.findFirst d 0 s).result (q.findFirstScanning d 0 s).result := by
  intro d q s
  have hgate : q.hasPseudo s = false := by decide
  have htrim : trim s = ['>'] := by decide
  have hne : trim s ≠ [] := by
    rw [htrim]
    exact List.cons_ne_nil _ _
  have hall : (q.findAll d 0 s).result = .error (.invalidSelector ⟨s, .unreadable ['>']⟩) := by
    unfold q s
    cbv
  obtain ⟨hnative, hsame, -⟩ := scanning_agrees q d 0 s
  obtain ⟨hsameAll, -, hsameFirst, -⟩ := hsame hne
  exact ⟨⟨hgate, hne⟩, htrim ▸ (hnative hgate).2, hall, hsameAll, hsameFirst⟩

end Engine

end TreeQuery
