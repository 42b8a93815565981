import TreeQuery.CommandLine
import TreeQuery.Proofs.Document.Tags
import TreeQuery.Proofs.Engine.FirstAlternative
import TreeQuery.Proofs.Workspace.Provenance

set_option relaxedAutoImplicit false
set_option autoImplicit false

/-!
# What a search prints

A search prints a line for every match, in the order of the matches. The line tells the tag of the
node and the beginning of its text, and if it is asked for also the alternative that found the node.
Tags are names and the text is cut into words, so neither can break the line, whatever the document
holds. The alternative is printed as it was given, however, and a selector may hold line feeds. They
break the line.

## Main definitions

* `TreeQuery.CommandLine.results` — the matches of a search.
* `TreeQuery.CommandLine.matchLine`, `TreeQuery.CommandLine.shown` — the line of a match, and the
  alternative that is shown in it.

## Main results

* `TreeQuery.CommandLine.search_status_eq_zero_iff` — when a search succeeds.
* `TreeQuery.CommandLine.search_of_results` — what a search prints.
* `TreeQuery.CommandLine.count_lineFeed_matchLine` — line feeds come from the alternative alone.
* `TreeQuery.CommandLine.run_prints` — how many lines a search prints, and when it is one for every
  match.
* `TreeQuery.CommandLine.run_breaksLine` — a search that prints two lines for one match.
-/

namespace TreeQuery.CommandLine

open Text

/-! ## Lines of an output -/

/-- The lines of an output are those of the texts that it was put together from. -/
lemma lines_unlines (ls : List Text) : lines (unlines ls) = ls.flatMap (pieces (· == '\n')) := by
  induction ls with
  | nil => rfl
  | cons l ls ih =>
    have hunlines : unlines (l :: ls) = l ++ '\n' :: unlines ls := by simp [unlines]
    rw [hunlines, lines_append_lineFeed, ih, List.flatMap_cons]

/-- Every text makes a line, and every line feed in it one more. -/
lemma length_lines_unlines (ls : List Text) :
    (lines (unlines ls)).length = ls.length + ls.flatten.count '\n' := by
  rw [lines_unlines]
  induction ls with
  | nil => rfl
  | cons l ls ih =>
    rw [List.flatMap_cons, List.length_append, ih, length_pieces, List.length_cons,
      List.flatten_cons, List.count_append, List.count]
    omega

/-- **The texts are the lines** exactly if no text holds a line feed. -/
lemma lines_unlines_eq_iff {ls : List Text} : lines (unlines ls) = ls ↔ ∀ l ∈ ls, '\n' ∉ l := by
  constructor
  · intro h l hl
    have hlength := length_lines_unlines ls
    rw [h, Nat.left_eq_add, List.count_eq_zero] at hlength
    exact fun hmem => hlength (List.mem_flatten_of_mem hl hmem)
  · intro h
    have hpieces : ∀ l ∈ ls, pieces (· == '\n') l = [l] := by
      intro l hl
      rw [pieces_eq_splitOnP]
      refine List.splitOnP_eq_singleton fun c hc => ?_
      exact beq_false_of_ne fun hnewline => h l hl (hnewline ▸ hc)
    rw [lines_unlines, List.flatMap_congr hpieces, List.flatMap_singleton']

/-! ## The matches of a search -/

/-- The matches of a search: those of the query for all matches, or the one of the query for the
first match, if there is one. -/
def results (o : Options) (d : Document) : Except QueryError (List Match) :=
  if o.all then ((contextOf o).engine.queryAll d 0 o.selectors (!o.firstOnly)).result
  else ((contextOf o).engine.query d 0 o.selectors).result.map Option.toList

/-- The alternative that is shown for a match. -/
def shown (o : Options) (m : Match) : Text := if o.provenance then m.alternative else []

/-- The line of a match: the tag of its node, the beginning of its text and, if it is asked for, the
alternative that found it. -/
def matchLine (o : Options) (d : Document) (m : Match) : Text :=
  ['<'] ++ d.tag m.node ++ "> \"".toList ++ snippet (d.root.sibling m.node) ++ ['"'] ++
    if o.provenance then "  <- ".toList ++ m.alternative else []

section Results

variable {o : Options} {d : Document} {ms : List Match} {m : Match}

/-- The nodes found are those of the matches. -/
lemma found_eq (o : Options) (d : Document) :
    (found o d).2 = (results o d).map (List.map fun m => d.root.sibling m.node) := by
  unfold found results
  cases o.all with
  | true => exact Eval.result_map _ _
  | false =>
    have hquery : ((contextOf o).query d.root o.selectors).eval.result =
        ((contextOf o).engine.query d 0 o.selectors).result.map
          (Option.map fun m => d.root.sibling m.node) := Eval.result_map _ _
    dsimp only
    rw [if_neg Bool.false_ne_true, if_neg Bool.false_ne_true, hquery]
    cases ((contextOf o).engine.query d 0 o.selectors).result with
    | error e => rfl
    | ok found => cases found <;> rfl

/-- The query has recorded the matches. -/
lemma context_found (h : results o d = .ok ms) :
    (found o d).1 = (contextOf o).wrapAll d.root ms := by
  unfold results at h
  unfold found
  cases hall : o.all with
  | true =>
    rw [hall, if_pos rfl] at h
    exact Context.context_queryAll_of_ok h
  | false =>
    rw [hall, if_neg Bool.false_ne_true] at h
    obtain ⟨found, hfound, rfl⟩ := Eval.map_eq_ok_iff.1 h
    exact Context.context_query_of_ok hfound

/-- No two matches have the same node. -/
lemma nodup_results (h : results o d = .ok ms) : (ms.map (·.node)).Nodup := by
  unfold results at h
  split at h
  · exact (Engine.isUnionBeyond_of_collect h).nodup
  · obtain ⟨found, -, rfl⟩ := Eval.map_eq_ok_iff.1 h
    cases found <;> simp

/-- Matches are attributed to alternatives that were given. -/
lemma alternative_mem_of_results (h : results o d = .ok ms) (hm : m ∈ ms) :
    m.alternative ∈ o.selectors := by
  unfold results at h
  split at h
  · exact List.mem_of_find?_eq_some ((Engine.isUnionBeyond_of_collect h).attributed m hm)
  · obtain ⟨found, hfound, rfl⟩ := Eval.map_eq_ok_iff.1 h
    exact Engine.alternative_mem_of_query (Option.mem_toList.1 hm ▸ hfound)

/-- **The line of a match** is what is printed for its node after the query. -/
lemma describe_eq_matchLine (h : results o d = .ok ms) (hm : m ∈ ms) :
    describe (found o d).1 (d.root.sibling m.node) = matchLine o d m := by
  have hprovenance : (found o d).1.provenance (d.root.sibling m.node) =
      if o.provenance then some m.alternative else none := by
    rw [context_found h]
    by_cases hon : o.provenance = true
    · rw [if_pos hon]
      exact Context.get?_records_wrapAll_of_mem (nodup_results h) hm hon d.root
    · rw [if_neg hon, Context.wrapAll_of_off hon]
      rfl
  unfold describe matchLine
  rw [hprovenance]
  by_cases hon : o.provenance = true
  · rw [if_pos hon, if_pos hon]
    exact List.append_assoc _ _ _
  · rw [if_neg hon, if_neg hon]
    exact (List.append_nil _).symm

/-! ## When a search succeeds, and what it prints -/

variable {content : Option Text} {text : Text}

/-- **A search prints the lines of its matches**, in order. -/
theorem search_of_results (hd : Document.ofMarkup text = .ok d) (h : results o d = .ok ms) :
    search o (some text) = ⟨0, unlines (ms.map (matchLine o d)), none⟩ := by
  have hfound : found o d = ((found o d).1, .ok (ms.map fun m => d.root.sibling m.node)) := by
    refine Prod.ext rfl ?_
    rw [found_eq, h]
    rfl
  have hlines : (ms.map fun m => d.root.sibling m.node).map (describe (found o d).1) =
      ms.map (matchLine o d) := by
    rw [List.map_map]
    exact List.map_congr_left fun m hm => describe_eq_matchLine h hm
  unfold search
  dsimp only
  rw [hd]
  dsimp only
  rw [hfound]
  dsimp only
  rw [hlines]

/-- **A search succeeds** exactly if the file can be read, its text describes a document, and the
query has an answer. -/
theorem search_status_eq_zero_iff :
    (search o content).status = 0 ↔ ∃ text d ms,
      content = some text ∧ Document.ofMarkup text = .ok d ∧ results o d = .ok ms := by
  constructor
  · intro h
    cases content with
    | none => simp [search] at h
    | some text =>
      cases hd : Document.ofMarkup text with
      | error p => simp [search, hd] at h
      | ok d =>
        cases hresults : results o d with
        | error e =>
          have hfound : found o d = ((found o d).1, .error e) := by
            refine Prod.ext rfl ?_
            rw [found_eq, hresults]
            rfl
          unfold search at h
          dsimp only at h
          rw [hd] at h
          dsimp only at h
          rw [hfound] at h
          simp at h
        | ok ms => exact ⟨text, d, ms, rfl, hd, hresults⟩
  · rintro ⟨text, d, ms, rfl, hd, hresults⟩
    rw [search_of_results hd hresults]

/-! ## Line feeds in the line of a match -/

/-- A character that names may hold is no line feed. -/
lemma ne_lineFeed_of_isNameChar {c : Char} (h : Markup.isNameChar c = true) : c ≠ '\n' := by
  rintro rfl
  revert h
  decide

/-- The beginning of a text that is printed holds no line feed, whatever the text does. -/
lemma lineFeed_not_mem_snippet (h : Handle) : '\n' ∉ snippet h := by
  intro hmem
  rcases mem_of_mem_intercalate (List.mem_of_mem_take hmem) with hsep | ⟨word, hword, hmem⟩
  · simp at hsep
  · have hblank : isBlank '\n' = true := by decide
    rw [isBlank_of_mem_words hword hmem] at hblank
    exact Bool.false_ne_true hblank

/-- **The line feeds of a line** are those of the alternative that is shown in it, if the elements of
the document are tagged with names. -/
lemma count_lineFeed_matchLine (hd : d.Named) (m : Match) :
    (matchLine o d m).count '\n' = (shown o m).count '\n' := by
  have htag : (d.tag m.node).count '\n' = 0 :=
    List.count_eq_zero.2 fun hmem => ne_lineFeed_of_isNameChar (hd.isNameChar_of_mem_tag hmem) rfl
  have hsnippet : (snippet (d.root.sibling m.node)).count '\n' = 0 :=
    List.count_eq_zero.2 (lineFeed_not_mem_snippet _)
  have hopen : "> \"".toList.count '\n' = 0 := by decide
  have harrow : "  <- ".toList.count '\n' = 0 := by decide
  unfold matchLine shown
  simp only [List.count_append, htag, hsnippet, hopen]
  by_cases hon : o.provenance = true
  · rw [if_pos hon, if_pos hon, List.count_append, harrow]
    simp
  · rw [if_neg hon, if_neg hon]
    simp

/-- The line feeds of several lines are those of the alternatives that are shown in them. -/
lemma count_lineFeed_flatMap_matchLine (hd : d.Named) (ms : List Match) :
    (ms.flatMap (matchLine o d)).count '\n' = (ms.flatMap (shown o)).count '\n' := by
  induction ms with
  | nil => rfl
  | cons m ms ih =>
    rw [List.flatMap_cons, List.flatMap_cons, List.count_append, List.count_append,
      count_lineFeed_matchLine hd, ih]

end Results

/-! ## One line for every match -/

/-- **How many lines a search prints.** A search that succeeds prints the lines of its matches, in
order. They are one for every match, and one more for every line feed in an alternative that is
shown. So what is printed has exactly one line for every match, which is the line of this match, if
and only if no alternative that is shown holds a line feed; in particular if alternatives are not
asked for, or no selector holds a line feed. What the document and the template hold makes no
difference.

**Proof sketch.** The lines of the output are those of the lines of the matches (`lines_unlines`), so
that only line feeds in these make a difference. The tag holds none, being a name, nor does the
beginning of the text, which is put together from words (`count_lineFeed_matchLine`). -/
theorem run_prints {args : List Text} {read : Text → Option Text} {o : Options}
    (hparse : parse args = .ok (.search o)) :
    ((run args read).status = 0 ↔ ∃ text d ms,
      read o.file = some text ∧ Document.ofMarkup text = .ok d ∧ results o d = .ok ms) ∧
      ∀ text d ms, read o.file = some text → Document.ofMarkup text = .ok d →
        results o d = .ok ms →
        (run args read).output = unlines (ms.map (matchLine o d)) ∧
          (lines (run args read).output).length =
            ms.length + (ms.flatMap (shown o)).count '\n' ∧
          (lines (run args read).output = ms.map (matchLine o d) ↔
            ∀ m ∈ ms, '\n' ∉ shown o m) ∧
          (o.provenance = false ∨ (∀ s ∈ o.selectors, '\n' ∉ s) →
            lines (run args read).output = ms.map (matchLine o d)) := by
  have hrun : run args read = search o (read o.file) := by rw [run, hparse]
  rw [hrun]
  refine ⟨search_status_eq_zero_iff, fun text d ms htext hd hresults => ?_⟩
  have hnamed := Document.named_of_ofMarkup hd
  have houtput : (search o (read o.file)).output = unlines (ms.map (matchLine o d)) := by
    rw [htext, search_of_results hd hresults]
  have hiff : lines (unlines (ms.map (matchLine o d))) = ms.map (matchLine o d) ↔
      ∀ m ∈ ms, '\n' ∉ shown o m := by
    rw [lines_unlines_eq_iff, List.forall_mem_map]
    refine forall₂_congr fun m _ => ?_
    rw [← List.count_eq_zero, ← List.count_eq_zero, count_lineFeed_matchLine hnamed]
  rw [houtput]
  refine ⟨rfl, ?_, hiff, fun h => hiff.2 fun m hm => ?_⟩
  · rw [length_lines_unlines, List.length_map, ← List.flatMap_def,
      count_lineFeed_flatMap_matchLine hnamed]
  · unfold shown
    rcases h with hoff | hselectors
    · simp [hoff]
    · split
      · exact hselectors _ (alternative_mem_of_results hresults hm)
      · simp

/-- Two alternatives, of which the first finds two nodes and holds a line feed. While alternatives
are shown it breaks two of three lines; otherwise there are three lines, although the text of a node
holds a line feed as well. -/
theorem run_prints_brokenAlternative :
    let selectors : List Text := ["a,\nb".toList, "r".toList]
    let markup : Text := "<r><a>x</a><b>y\nz</b></r>".toList
    let d : Document := ⟨#[⟨0, .element ['r'] []⟩, ⟨1, .element ['a'] []⟩, ⟨2, .text ['x']⟩,
      ⟨1, .element ['b'] []⟩, ⟨4, .text ['y', '\n', 'z']⟩], by decide⟩
    let ms : List Match := [⟨2, "a,\nb".toList⟩, ⟨4, "a,\nb".toList⟩, ⟨1, "r".toList⟩]
    let bare : Options := ⟨"FILE".toList, selectors, true, false, {}, false⟩
    let full : Options := ⟨"FILE".toList, selectors, true, false, {}, true⟩
    let bareArgs := ["FILE".toList, "--all".toList] ++ selectors
    let fullArgs := ["FILE".toList, "--all".toList, "--provenance".toList] ++ selectors
    let read : Text → Option Text := fun _ => some markup
    (parse bareArgs = .ok (.search bare) ∧ parse fullArgs = .ok (.search full)) ∧
      Document.ofMarkup markup = .ok d ∧
      (results bare d = .ok ms ∧ results full d = .ok ms) ∧
      (lines (run bareArgs read).output = ms.map (matchLine bare d) ∧
        (run fullArgs read).status = 0 ∧
        (run fullArgs read).output = unlines (ms.map (matchLine full d)) ∧
        (lines (run fullArgs read).output).length = 5 ∧
        lines (run fullArgs read).output ≠ ms.map (matchLine full d)) := by
  intro selectors markup d ms bare full bareArgs fullArgs read
  have hbareArgs : parse bareArgs = .ok (.search bare) := by decide +kernel
  have hfullArgs : parse fullArgs = .ok (.search full) := by decide +kernel
  have hd : Document.ofMarkup markup = .ok d := by decide +kernel
  have hbare : results bare d = .ok ms := by decide +kernel
  have hfull : results full d = .ok ms := by decide +kernel
  obtain ⟨-, hbarePrints⟩ := @run_prints bareArgs read bare hbareArgs
  obtain ⟨hsucceeds, hfullPrints⟩ := @run_prints fullArgs read full hfullArgs
  obtain ⟨-, -, -, hclean⟩ := hbarePrints markup d ms rfl hd hbare
  obtain ⟨houtput, hlength, hiff, -⟩ := hfullPrints markup d ms rfl hd hfull
  refine ⟨⟨hbareArgs, hfullArgs⟩, hd, ⟨hbare, hfull⟩, hclean (.inl rfl),
    hsucceeds.2 ⟨markup, d, ms, rfl, hd, hfull⟩, houtput, hlength, fun heq => ?_⟩
  exact hiff.1 heq ⟨2, "a,\nb".toList⟩ List.mem_cons_self (by decide)

/-- A selector with a line feed behind its combinator finds one node, and when it is shown two lines
are printed for this one match. -/
theorem run_breaksLine :
    let args : List Text := ["FILE".toList, "--provenance".toList, "r >\na".toList]
    let markup : Text := "<r><a>x</a></r>".toList
    let o : Options := ⟨"FILE".toList, ["r >\na".toList], false, false, {}, true⟩
    let d : Document := ⟨#[⟨0, .element ['r'] []⟩, ⟨1, .element ['a'] []⟩, ⟨2, .text ['x']⟩],
      by decide⟩
    let outcome := run args fun _ => some markup
    parse args = .ok (.search o) ∧ Document.ofMarkup markup = .ok d ∧ outcome.status = 0 ∧
      results o d = .ok [⟨2, "r >\na".toList⟩] ∧
      lines outcome.output = ["<a> \"x\"  <- r >".toList, "a".toList] := by
  intro args markup o d outcome
  have hargs : parse args = .ok (.search o) := by decide +kernel
  have hd : Document.ofMarkup markup = .ok d := by decide +kernel
  have hresults : results o d = .ok [⟨2, "r >\na".toList⟩] := by decide +kernel
  have hlines : lines outcome.output = ["<a> \"x\"  <- r >".toList, "a".toList] := by
    decide +kernel
  exact ⟨hargs, hd, by decide +kernel, hresults, hlines⟩

end TreeQuery.CommandLine
