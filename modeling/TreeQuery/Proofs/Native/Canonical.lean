import TreeQuery.Proofs.Native.Blanks
import TreeQuery.Proofs.Native.Layout
import TreeQuery.Proofs.Text.Lines

set_option relaxedAutoImplicit false
set_option autoImplicit false

/-!
# The canonical text of a selector list

A selector list has a text of its own: the tag or a star, then ids, classes and attribute tests, one
space or a greater-than sign between spaces from compound to compound, a comma and a space from
selector to selector. Values stand between double quotes, or between single ones if they hold a
double quote. Parsing this text gives the list back, provided the names can be read as names, no
value holds both kinds of quotes, and in every selector compounds and combinators belong together;
and every parsed list is of this kind.

## Main definitions

* `TreeQuery.Native.Layout.WellFormed` — what can be said of the layout of a parsed selector.
* `TreeQuery.Native.canonicalText` — the canonical text of the selectors that are laid out.

## Main results

* `TreeQuery.Native.wellFormed_of_parse` — parsed selectors are well-formed.
* `TreeQuery.Native.exists_parse_canonicalText` — the canonical text of well-formed layouts parses
  to them.
* `TreeQuery.Native.parse_canonicalText_roundTrips` — both, and what follows for matching.
-/

namespace TreeQuery.Native

open Text

/-! ## Well-formed selectors -/

/-- The text can be read as a name. -/
def IsName (s : Text) : Prop := s ≠ [] ∧ ∀ c ∈ s, isNameChar c = true

/-- The attribute has a name, and the value, if there is one, does not hold both kinds of quotes. -/
structure AttributeTest.WellFormed (t : AttributeTest) : Prop where
  name : IsName t.name
  value : ∀ op v, t.comparison = some (op, v) → ¬ ('"' ∈ v ∧ '\'' ∈ v)

/-- The tag, the ids, the classes and the attributes have names. -/
structure Compound.WellFormed (c : Compound) : Prop where
  tag : ∀ name, c.tag = some name → IsName name
  ids : ∀ name ∈ c.ids, IsName name
  classes : ∀ name ∈ c.classes, IsName name
  attributes : ∀ t ∈ c.attributes, t.WellFormed

/-- There is one combinator fewer than compounds, so that there is at least one compound, and all
compounds are well-formed. -/
structure Layout.WellFormed (l : Layout) : Prop where
  length_eq : l.compounds.length = l.combinators.length + 1
  compounds : ∀ c ∈ l.compounds, c.WellFormed

/-- There is at least one selector, and all selectors are well-formed. -/
structure WellFormedList (ls : List Layout) : Prop where
  ne_nil : ls ≠ []
  layouts : ∀ l ∈ ls, l.WellFormed

/-! ## Canonical texts -/

/-- The quotes for a value: double ones, unless the value holds a double quote. -/
def quoteFor (v : Text) : Char := if '"' ∈ v then '\'' else '"'

/-- The canonical text of an attribute test. -/
def AttributeTest.canonical (t : AttributeTest) : Text :=
  '[' :: (t.name ++ ((t.comparison.elim [] fun (op, v) =>
    op.sign ++ quoteFor v :: (v ++ [quoteFor v])) ++ [']']))

/-- The canonical text of a compound. -/
def Compound.canonical (c : Compound) : Text :=
  c.tag.getD ['*'] ++ (c.ids.flatMap ('#' :: ·) ++ (c.classes.flatMap ('.' :: ·) ++
    c.attributes.flatMap AttributeTest.canonical))

/-- The canonical text of a combinator. -/
def Combinator.canonical : Combinator → Text
  | descendant => [' ']
  | child => [' ', '>', ' ']

/-- The canonical text of a complex selector that is laid out. -/
def Layout.canonical (l : Layout) : Text :=
  match l.compounds with
  | [] => []
  | c :: cs => c.canonical ++
    (l.combinators.zip cs).flatMap fun link => link.1.canonical ++ link.2.canonical

/-- The canonical text of a list of selectors that are laid out. -/
def canonicalText (ls : List Layout) : Text :=
  List.intercalate [',', ' '] (ls.map Layout.canonical)

/-! ## What is derived is well-formed -/

lemma not_mem_name (n : Grammar.Name) {c : Char} (hc : c ∈ marks) : c ∉ n.1 := by
  intro h
  simpa [isNameChar_of_mem_marks c hc] using n.2.2 c h

/-- A derived value does not hold the quotes that it could stand between. -/
lemma value_quotes (v : Grammar.Value) : ¬ ('"' ∈ v.value ∧ '\'' ∈ v.value) := by
  rintro ⟨hdouble, hsingle⟩
  cases v with
  | doubleQuoted v free => exact free hdouble
  | singleQuoted v free => exact free hsingle
  | bare n => exact not_mem_name n (by decide) hdouble

lemma wellFormed_attribute (a : Grammar.Attribute) : a.test.WellFormed where
  name := a.name.2
  value := by
    intro op v h
    obtain ⟨c, -, hc⟩ := Option.map_eq_some_iff.1 h
    obtain ⟨-, rfl⟩ := Prod.mk.inj hc
    exact value_quotes c.value

lemma wellFormed_compound (c : Grammar.Compound) : c.compound.WellFormed where
  tag := by
    intro name h
    obtain ⟨t, -, ht⟩ := Option.bind_eq_some_iff.1 h
    cases t with
    | any => simp [Grammar.TypeSelector.tag?] at ht
    | tag n =>
      obtain rfl : n.1 = name := Option.some.inj ht
      exact n.2
  ids := by
    intro name h
    obtain ⟨x, -, hx⟩ := List.mem_filterMap.1 h
    cases x with
    | id n =>
      obtain rfl : n.1 = name := Option.some.inj hx
      exact n.2
    | className n => simp at hx
    | «attribute» a => simp at hx
  classes := by
    intro name h
    obtain ⟨x, -, hx⟩ := List.mem_filterMap.1 h
    cases x with
    | className n =>
      obtain rfl : n.1 = name := Option.some.inj hx
      exact n.2
    | id n => simp at hx
    | «attribute» a => simp at hx
  attributes := by
    intro t h
    obtain ⟨x, -, hx⟩ := List.mem_filterMap.1 h
    cases x with
    | «attribute» a =>
      obtain rfl : a.test = t := Option.some.inj hx
      exact wellFormed_attribute a
    | id n => simp at hx
    | className n => simp at hx

/-- The layout of a selector with further links to its right. -/
lemma layout_extendBy (left : Complex) (ls : List Grammar.Link) :
    (Grammar.extendBy left ls).layout =
      ⟨left.compounds ++ ls.map (·.2.compound), left.combinators ++ ls.map (·.1.combinator)⟩ := by
  induction ls generalizing left with
  | nil => simp [Grammar.extendBy, Complex.layout]
  | cons l ls ih =>
    show (Grammar.extendBy (.extend left l.1.combinator l.2.compound) ls).layout = _
    rw [ih]
    simp [Complex.compounds, Complex.combinators]

/-- The layout of a derived complex selector. -/
lemma layout_complex (x : Grammar.Complex) : x.complex.layout =
    ⟨x.head.compound :: x.links.map (·.2.compound), x.links.map (·.1.combinator)⟩ := by
  rw [Grammar.Complex.complex, layout_extendBy]
  rfl

lemma wellFormed_complex (x : Grammar.Complex) : x.complex.layout.WellFormed := by
  rw [layout_complex]
  refine ⟨by simp, fun c hc => ?_⟩
  rcases List.mem_cons.1 hc with rfl | hc
  · exact wellFormed_compound x.head
  · obtain ⟨l, -, rfl⟩ := List.mem_map.1 hc
    exact wellFormed_compound l.2

/-- **Parsed selectors are well-formed**, whatever the text was. -/
theorem wellFormed_of_parse {s : Text} {list : SelectorList}
    (h : SelectorList.parse s = .ok list) : WellFormedList (list.map Complex.layout) := by
  obtain ⟨t, -, rfl, -⟩ := (parse_eq_ok_iff s list).1 h
  refine ⟨by simp [Grammar.SelectorList.list], fun l hl => ?_⟩
  obtain ⟨x, hx, rfl⟩ := List.mem_map.1 hl
  rcases List.mem_cons.1 hx with rfl | hx
  · exact wellFormed_complex t.head
  · obtain ⟨i, -, rfl⟩ := List.mem_map.1 hx
    exact wellFormed_complex i.complex

/-! ## Canonical texts are derived -/

/-- If every member of a list can be derived, so can the list. -/
lemma exists_derivations {α β : Type} {meaning : α → β} {text : α → Text} {written : β → Text}
    {bs : List β} (h : ∀ b ∈ bs, ∃ a, meaning a = b ∧ text a = written b) :
    ∃ as : List α, as.map meaning = bs ∧ as.flatMap text = bs.flatMap written := by
  induction bs with
  | nil => exact ⟨[], rfl, rfl⟩
  | cons b bs ih =>
    obtain ⟨⟨a, hmeaning, htext⟩, hbs⟩ := List.forall_mem_cons.1 h
    obtain ⟨as, hmeanings, htexts⟩ := ih hbs
    exact ⟨a :: as, by rw [List.map_cons, hmeaning, hmeanings],
      by rw [List.flatMap_cons, htext, htexts, List.flatMap_cons]⟩

/-- No spaces at all. -/
def noSpaces : Grammar.Spaces := ⟨[], by simp⟩

/-- A single space. -/
def oneSpace : Grammar.Spaces := ⟨[' '], by simp [isSpace]⟩

lemma exists_value {v : Text} (h : ¬ ('"' ∈ v ∧ '\'' ∈ v)) :
    ∃ V : Grammar.Value, V.value = v ∧ V.text = quoteFor v :: (v ++ [quoteFor v]) := by
  by_cases hdouble : '"' ∈ v
  · refine ⟨.singleQuoted v fun hsingle => h ⟨hdouble, hsingle⟩, rfl, ?_⟩
    rw [quoteFor, if_pos hdouble]
    rfl
  · refine ⟨.doubleQuoted v hdouble, rfl, ?_⟩
    rw [quoteFor, if_neg hdouble]
    rfl

lemma exists_attribute {t : AttributeTest} (h : t.WellFormed) :
    ∃ a : Grammar.Attribute, a.test = t ∧ (Grammar.Simple.attribute a).text = t.canonical := by
  obtain ⟨name, comparison⟩ := t
  obtain ⟨hname, hvalue⟩ := h
  cases comparison with
  | none =>
    refine ⟨⟨noSpaces, ⟨name, hname⟩, noSpaces, none⟩, rfl, ?_⟩
    simp [Grammar.Simple.text, Grammar.Attribute.inner, AttributeTest.canonical, noSpaces]
  | some c =>
    obtain ⟨op, v⟩ := c
    obtain ⟨V, hV, htext⟩ := exists_value (hvalue op v rfl)
    refine ⟨⟨noSpaces, ⟨name, hname⟩, noSpaces, some ⟨op, noSpaces, V, noSpaces⟩⟩, ?_, ?_⟩
    · simp [Grammar.Attribute.test, hV]
    · simp [Grammar.Simple.text, Grammar.Attribute.inner, Grammar.Comparison.text,
        AttributeTest.canonical, noSpaces, htext]

lemma exists_names {names : List Text} (h : ∀ name ∈ names, IsName name) :
    ∃ ns : List Grammar.Name, ns.map (·.1) = names :=
  ⟨names.attachWith _ h, List.attachWith_map_subtype_val h⟩

lemma exists_compound {c : Compound} (h : c.WellFormed) :
    ∃ C : Grammar.Compound, C.compound = c ∧ C.text = c.canonical := by
  obtain ⟨tag, ids, classes, attributes⟩ := c
  obtain ⟨htag, hids, hclasses, hattributes⟩ := h
  obtain ⟨T, hT, hTtext⟩ :
      ∃ T : Grammar.TypeSelector, T.tag? = tag ∧ T.text = tag.getD ['*'] := by
    cases tag with
    | none => exact ⟨.any, rfl, rfl⟩
    | some name => exact ⟨.tag ⟨name, htag name rfl⟩, rfl, rfl⟩
  obtain ⟨is, rfl⟩ := exists_names hids
  obtain ⟨ns, rfl⟩ := exists_names hclasses
  obtain ⟨as, rfl, hatext⟩ := exists_derivations fun t ht => exists_attribute (hattributes t ht)
  refine ⟨⟨some T, is.map .id ++ (ns.map .className ++ as.map .attribute), .inl (by simp)⟩, ?_, ?_⟩
  · simp [Grammar.Compound.compound, List.filterMap_map, hT]
  · simp [Grammar.Compound.text, Compound.canonical, List.flatMap_map, hTtext, ← hatext,
      Grammar.Simple.text]

/-- A combinator and the compound behind it. -/
lemma exists_link (k : Combinator) {c : Compound} (h : c.WellFormed) :
    ∃ l : Grammar.Link, (l.1.combinator, l.2.compound) = (k, c) ∧
      l.text = k.canonical ++ c.canonical := by
  obtain ⟨C, rfl, hC⟩ := exists_compound h
  cases k with
  | descendant =>
    refine ⟨(.descendant oneSpace (List.cons_ne_nil _ _), C), rfl, ?_⟩
    rw [Grammar.Link.text, hC]
    rfl
  | child =>
    refine ⟨(.child oneSpace oneSpace, C), rfl, ?_⟩
    rw [Grammar.Link.text, hC]
    rfl

lemma exists_complex {l : Layout} (h : l.WellFormed) :
    ∃ X : Grammar.Complex, X.complex.layout = l ∧ X.text = l.canonical := by
  obtain ⟨compounds, ks⟩ := l
  obtain ⟨hlength, hcompounds⟩ := h
  dsimp only at hlength hcompounds
  obtain ⟨c, cs, rfl⟩ := List.exists_cons_of_length_pos (l := compounds) (by omega)
  obtain ⟨hc, hcs⟩ := List.forall_mem_cons.1 hcompounds
  obtain ⟨C, rfl, hC⟩ := exists_compound hc
  have hlink : ∀ link ∈ ks.zip cs, ∃ l : Grammar.Link,
      (l.1.combinator, l.2.compound) = link ∧ l.text = link.1.canonical ++ link.2.canonical :=
    fun link h => exists_link link.1 (hcs link.2 (List.of_mem_zip h).2)
  obtain ⟨ls, hls, htext⟩ := exists_derivations hlink
  have hks : ls.map (·.1.combinator) = ks := by
    have h := congrArg (List.map Prod.fst) hls
    rw [List.map_map, List.map_fst_zip (by simp at hlength; omega)] at h
    exact h
  have hcs' : ls.map (·.2.compound) = cs := by
    have h := congrArg (List.map Prod.snd) hls
    rw [List.map_map, List.map_snd_zip (by simp at hlength; omega)] at h
    exact h
  refine ⟨⟨C, ls⟩, ?_, ?_⟩
  · rw [layout_complex, hks, hcs']
  · rw [Grammar.Complex.text, hC]
    exact congrArg _ htext

lemma exists_list {ls : List Layout} (h : WellFormedList ls) :
    ∃ t : Grammar.SelectorList, t.list.map Complex.layout = ls ∧ t.text = canonicalText ls := by
  obtain ⟨hne, hlayouts⟩ := h
  obtain ⟨l, ls, rfl⟩ := List.exists_cons_of_ne_nil hne
  obtain ⟨hl, hls⟩ := List.forall_mem_cons.1 hlayouts
  obtain ⟨X, rfl, hX⟩ := exists_complex hl
  have hitem : ∀ l ∈ ls, ∃ i : Grammar.Item, i.complex.complex.layout = l ∧
      i.text = [',', ' '] ++ l.canonical := by
    intro l hl
    obtain ⟨Y, hY, htext⟩ := exists_complex (hls l hl)
    refine ⟨⟨noSpaces, oneSpace, Y⟩, hY, ?_⟩
    rw [Grammar.Item.text, htext]
    rfl
  obtain ⟨is, rfl, htext⟩ := exists_derivations hitem
  refine ⟨⟨X, is⟩, ?_, ?_⟩
  · simp [Grammar.SelectorList.list]
  · rw [Grammar.SelectorList.text, canonicalText, List.map_cons, intercalate_cons, hX, htext,
      List.flatMap_map Layout.canonical]

/-! ## The round trip -/

/-- **The canonical text of well-formed layouts is parsed to them.** -/
theorem exists_parse_canonicalText {ls : List Layout} (h : WellFormedList ls) :
    ∃ list, SelectorList.parse (canonicalText ls) = .ok list ∧ list.map Complex.layout = ls := by
  obtain ⟨t, hlist, htext⟩ := exists_list h
  have hnil : ∀ c ∈ ([] : Text), isBlank c = true := by simp
  have hparse := parse_eq_ok_of_text t hnil hnil
  rw [List.nil_append, List.append_nil, htext] at hparse
  exact ⟨t.list, hparse, hlist⟩

/-- **Selector lists and their canonical texts.** Whatever text has been parsed, the result is
well-formed: there is a selector, every selector has one combinator fewer than compounds, all names
are names, and no value holds both kinds of quotes. So matching it by position reads nothing that is
not there, and parsing its canonical text gives the same list again. Conversely, of all well-formed
layouts the canonical text is parsed to exactly these layouts.

**Proof sketch.** A parsed list is what a derivation means, and derivations keep the conditions as
their fields (`wellFormed_of_parse`). A well-formed layout is the meaning of a derivation whose text
is the canonical one (`exists_list`), and derived texts are parsed to what they mean. A selector is
known by its layout (`Complex.layout_injective`). -/
theorem parse_canonicalText_roundTrips :
    (∀ s list, SelectorList.parse s = .ok list →
      WellFormedList (list.map Complex.layout) ∧
        (∀ d n, Layout.anyHolds? (list.map Complex.layout) d n =
          some (SelectorList.holds list d n)) ∧
        SelectorList.parse (canonicalText (list.map Complex.layout)) = .ok list) ∧
      ∀ ls, WellFormedList ls → ∃ list,
        SelectorList.parse (canonicalText ls) = .ok list ∧ list.map Complex.layout = ls := by
  refine ⟨fun s list h => ?_, fun ls h => exists_parse_canonicalText h⟩
  have hwell := wellFormed_of_parse h
  refine ⟨hwell, fun d n => Layout.anyHolds?_layouts d list n, ?_⟩
  obtain ⟨list', hparse, hlayouts⟩ := exists_parse_canonicalText hwell
  rw [hparse, List.map_injective_iff.2 Complex.layout_injective hlayouts]

/-- A list in which values hold a bracket, a comma, a greater-than sign and quotes of one kind, and
which is not written canonically. -/
theorem parse_canonicalText_roundTrips_quotes :
    let s : Text := "\u00a0*.b#é> [k ~= '],\">']\n,a".toList
    let list : SelectorList := [.extend (.single ⟨none, [['é']], [['b']], []⟩) .child
      ⟨none, [], [], [⟨['k'], some (.includes, "],\">".toList)⟩]⟩, .single ⟨some ['a'], [], [], []⟩]
    let text : Text := "*#é.b > *[k~='],\">'], a".toList
    (SelectorList.parse s = .ok list ∧ canonicalText (list.map Complex.layout) = text ∧
        WellFormedList (list.map Complex.layout) ∧ SelectorList.parse text = .ok list) ∧
      ∃ list', SelectorList.parse text = .ok list' ∧
        list'.map Complex.layout = list.map Complex.layout := by
  intro s list text
  have hparse : SelectorList.parse s = .ok list := by decide +kernel
  have htext : canonicalText (list.map Complex.layout) = text := by decide +kernel
  obtain ⟨hparsed, hcanonical⟩ := parse_canonicalText_roundTrips
  obtain ⟨hwell, -, hagain⟩ := hparsed s list hparse
  rw [← htext]
  exact ⟨⟨hparse, rfl, hwell, hagain⟩, hcanonical _ hwell⟩

end TreeQuery.Native
