import Mathlib.Data.List.Chain
import TreeQuery.Alternatives
import TreeQuery.Proofs.Native.Blanks

set_option relaxedAutoImplicit false
set_option autoImplicit false

/-!
# Selector lists joined from texts

Several texts are joined to the text of one selector list, with a comma and a space between every
two. If all texts are accepted by themselves, the joined text is accepted as long as the blanks at
the seams are the four spaces that the grammar allows there: at its two ends a text may have any
blanks, for these are trimmed away. If the joined text is accepted, every text is accepted by
itself, provided the texts close the quotes that they open. A quote that is left open in one text
and closed in the next hides the seam between them.

## Main definitions

* `TreeQuery.Native.ClosesQuotes` — no quote of a text is left open.
* `TreeQuery.Native.Sealed` — besides, all commas stand between quotes.
* `TreeQuery.Native.MeetsCleanly` — two texts have nothing but the four spaces at their seam.

## Main results

* `TreeQuery.Native.sealed_complex` — a derived complex selector is sealed.
* `TreeQuery.Native.exists_cut` — a derivation is cut at a comma outside quotes.
* `TreeQuery.Native.parse_seam`, `TreeQuery.Native.exists_of_parse_seam` — two joined texts.
* `TreeQuery.Native.parse_joined_iff` — any number of joined texts.
-/

namespace TreeQuery.Native

open Text Grammar

/-! ## Quotes -/

/-- Between which quotes one is behind a character, if any. -/
def quoteStep (q : Option Char) (c : Char) : Option Char :=
  match q with
  | none => if c = '"' ∨ c = '\'' then some c else none
  | some quote => if c = quote then none else some quote

/-- Between which quotes one is behind a text. -/
def quotesAfter (q : Option Char) (s : Text) : Option Char := s.foldl quoteStep q

/-- Every quote that is opened in the text is closed in it. -/
def ClosesQuotes (s : Text) : Prop := quotesAfter none s = none

instance : DecidablePred ClosesQuotes := fun _ => inferInstanceAs (Decidable (_ = none))

/-- Reads a text from between the quotes `q` to its end, unless there is a comma outside quotes. -/
def sealedScan : (q : Option Char) → Text → Option (Option Char)
  | q, [] => some q
  | q, c :: s => if q = none ∧ c = ',' then none else sealedScan (quoteStep q c) s

/-- Every quote that is opened in the text is closed in it, and all its commas stand between
quotes. -/
def Sealed (s : Text) : Prop := sealedScan none s = some none

lemma quotesAfter_append (q : Option Char) (s r : Text) :
    quotesAfter q (s ++ r) = quotesAfter (quotesAfter q s) r := List.foldl_append

lemma sealedScan_append (q : Option Char) (s r : Text) :
    sealedScan q (s ++ r) = (sealedScan q s).bind fun q' => sealedScan q' r := by
  induction s generalizing q with
  | nil => rfl
  | cons c s ih =>
    rw [List.cons_append, sealedScan, sealedScan]
    split
    · rfl
    · exact ih _

lemma quotesAfter_of_sealedScan {q q' : Option Char} {s : Text} (h : sealedScan q s = some q') :
    quotesAfter q s = q' := by
  induction s generalizing q with
  | nil => exact Option.some.inj h
  | cons c s ih =>
    rw [sealedScan] at h
    split at h
    · simp at h
    · exact ih h

lemma Sealed.closesQuotes {s : Text} (h : Sealed s) : ClosesQuotes s := quotesAfter_of_sealedScan h

/-- A text behind another one that closes its quotes. -/
lemma ClosesQuotes.append_iff {s : Text} (h : ClosesQuotes s) {r : Text} :
    ClosesQuotes (s ++ r) ↔ ClosesQuotes r := by
  rw [ClosesQuotes, quotesAfter_append, h, ClosesQuotes]

lemma closesQuotes_comma {r : Text} : ClosesQuotes (',' :: r) ↔ ClosesQuotes r := Iff.rfl

/-- **A sealed text cannot be cut**: if a longer text has a comma outside quotes, this comma does
not stand in a sealed text at the beginning. -/
theorem exists_of_sealed {q q' : Option Char} {s r u v : Text} (hs : sealedScan q s = some q')
    (h : s ++ r = u ++ ',' :: v) (hu : quotesAfter q u = none) :
    ∃ u', u = s ++ u' ∧ r = u' ++ ',' :: v ∧ quotesAfter q' u' = none := by
  induction s generalizing q u with
  | nil =>
    obtain rfl : q = q' := Option.some.inj hs
    exact ⟨u, rfl, h, hu⟩
  | cons c s ih =>
    rw [sealedScan] at hs
    split at hs
    · simp at hs
    · rename_i hopen
      cases u with
      | nil =>
        obtain rfl : c = ',' := (List.cons.inj h).1
        exact absurd ⟨hu, rfl⟩ hopen
      | cons b u =>
        obtain ⟨rfl, htail⟩ := List.cons.inj h
        obtain ⟨u', rfl, hr, hu'⟩ := ih hs htail hu
        exact ⟨u', rfl, hr, hu'⟩

/-! ## Sealed texts -/

lemma sealed_nil : Sealed [] := rfl

lemma Sealed.append {s r : Text} (hs : Sealed s) (hr : Sealed r) : Sealed (s ++ r) := by
  rw [Sealed, sealedScan_append, hs]
  exact hr

lemma sealed_flatMap {α : Type} {text : α → Text} {xs : List α} (h : ∀ x ∈ xs, Sealed (text x)) :
    Sealed (xs.flatMap text) := by
  induction xs with
  | nil => exact sealed_nil
  | cons x xs ih =>
    obtain ⟨hx, hxs⟩ := List.forall_mem_cons.1 h
    exact hx.append (ih hxs)

/-- A text of characters of a class to which neither quotes nor commas belong. -/
lemma sealed_of_class {p : Char → Bool} (hp : ['"', '\'', ','].all (fun m => !p m) = true)
    {s : Text} (hs : ∀ c ∈ s, p c = true) : Sealed s := by
  induction s with
  | nil => exact sealed_nil
  | cons c s ih =>
    obtain ⟨hc, hs⟩ := List.forall_mem_cons.1 hs
    have hne : ∀ m ∈ ['"', '\'', ','], c ≠ m := by
      rintro m hm rfl
      simpa [hc] using List.all_eq_true.1 hp c hm
    simp only [List.mem_cons, List.not_mem_nil, or_false, forall_eq_or_imp, forall_eq] at hne
    rw [Sealed, sealedScan, if_neg fun hcomma => hne.2.2 hcomma.2, quoteStep,
      if_neg (not_or.2 ⟨hne.1, hne.2.1⟩)]
    exact ih hs

/-- Between quotes nothing happens until they are closed. -/
lemma sealedScan_quoted {q : Char} {v : Text} (hv : q ∉ v) (r : Text) :
    sealedScan (some q) (v ++ q :: r) = sealedScan none r := by
  induction v with
  | nil => simp [sealedScan, quoteStep]
  | cons c v ih =>
    rw [List.mem_cons, not_or] at hv
    rw [List.cons_append, sealedScan, if_neg (by simp), quoteStep, if_neg (Ne.symm hv.1)]
    exact ih hv.2

lemma sealed_quoted {q : Char} (hq : q = '"' ∨ q = '\'') {v : Text} (hv : q ∉ v) :
    Sealed (q :: (v ++ [q])) := by
  have hcomma : q ≠ ',' := by rcases hq with rfl | rfl <;> decide
  rw [Sealed, sealedScan, if_neg fun h => hcomma h.2, quoteStep, if_pos hq, sealedScan_quoted hv]
  rfl

/-! ## Derived texts are sealed -/

lemma sealed_spaces (w : Spaces) : Sealed w.1 := sealed_of_class (by decide) w.2

lemma sealed_name (n : Name) : Sealed n.1 := sealed_of_class (by decide +kernel) n.2.2

lemma sealed_value (v : Value) : Sealed v.text := by
  cases v with
  | doubleQuoted v free => exact sealed_quoted (.inl rfl) free
  | singleQuoted v free => exact sealed_quoted (.inr rfl) free
  | bare n => exact sealed_name n

lemma sealed_comparison (c : Comparison) : Sealed c.text := by
  have hsign : Sealed c.operator.sign := by cases c.operator <;> rfl
  exact hsign.append ((sealed_spaces c.before).append
    ((sealed_value c.value).append (sealed_spaces c.after)))

lemma sealed_simple (x : Grammar.Simple) : Sealed x.text := by
  cases x with
  | id n => exact Sealed.append (s := ['#']) rfl (sealed_name n)
  | className n => exact Sealed.append (s := ['.']) rfl (sealed_name n)
  | «attribute» a =>
    have hcomparison : Sealed (a.comparison.elim [] Comparison.text) := by
      cases a.comparison with
      | none => exact sealed_nil
      | some c => exact sealed_comparison c
    exact Sealed.append (s := ['[']) rfl ((sealed_spaces a.before).append
      ((sealed_name a.name).append ((sealed_spaces a.after).append (hcomparison.append rfl))))

lemma sealed_compound (c : Grammar.Compound) : Sealed c.text := by
  have htype : Sealed (c.type.elim [] TypeSelector.text) := by
    match c.type with
    | none => exact sealed_nil
    | some .any => exact rfl
    | some (.tag n) => exact sealed_name n
  exact htype.append (sealed_flatMap fun x _ => sealed_simple x)

lemma sealed_link (l : Link) : Sealed (Link.text l) := by
  have hcombinator : Sealed l.1.text := by
    cases l.1 with
    | child before after =>
      exact (sealed_spaces before).append (Sealed.append (s := ['>']) rfl (sealed_spaces after))
    | descendant spaces nonempty => exact sealed_spaces spaces
  exact hcombinator.append (sealed_compound l.2)

/-- **A derived complex selector is sealed**: it closes its quotes, and its commas are quoted. -/
theorem sealed_complex (x : Grammar.Complex) : Sealed x.text :=
  (sealed_compound x.head).append (sealed_flatMap fun l _ => sealed_link l)

/-! ## Cutting a derivation at a comma -/

/-- The derivation of two lists with a comma and spaces between them. -/
def Grammar.SelectorList.join (t : Grammar.SelectorList) (before after : Spaces)
    (u : Grammar.SelectorList) : Grammar.SelectorList :=
  ⟨t.head, t.items ++ ⟨before, after, u.head⟩ :: u.items⟩

lemma text_join (t : Grammar.SelectorList) (before after : Spaces) (u : Grammar.SelectorList) :
    (t.join before after u).text = t.text ++ (before.1 ++ ',' :: (after.1 ++ u.text)) := by
  simp [Grammar.SelectorList.join, SelectorList.text, Item.text]

lemma list_join (t : Grammar.SelectorList) (before after : Spaces) (u : Grammar.SelectorList) :
    (t.join before after u).list = t.list ++ u.list := by
  simp [Grammar.SelectorList.join, SelectorList.list]

/-- **A derivation is cut at a comma**: if a derived text has a comma outside quotes, the comma
separates two derived texts, apart from spaces. -/
theorem exists_cut (t : Grammar.SelectorList) {u v : Text} (h : t.text = u ++ ',' :: v)
    (hu : ClosesQuotes u) : ∃ (t₁ t₂ : Grammar.SelectorList) (before after : Spaces),
      t = t₁.join before after t₂ ∧ u = t₁.text ++ before.1 ∧ v = after.1 ++ t₂.text := by
  obtain ⟨x, is⟩ := t
  induction is generalizing x u with
  | nil =>
    obtain ⟨u', -, hr, -⟩ := exists_of_sealed (sealed_complex x) h hu
    simp at hr
  | cons i is ih =>
    -- The comma stands behind the first selector and the spaces behind it.
    have htext : x.text ++ (i.before.1 ++ ',' :: (i.after.1 ++
        Grammar.SelectorList.text ⟨i.complex, is⟩)) = u ++ ',' :: v := by
      rw [← h]
      simp [SelectorList.text, Item.text]
    obtain ⟨u₁, rfl, h₁, hu₁⟩ := exists_of_sealed (sealed_complex x) htext hu
    obtain ⟨u₂, rfl, h₂, hu₂⟩ := exists_of_sealed (sealed_spaces i.before) h₁ hu₁
    cases u₂ with
    | nil =>
      -- It is the first comma of the list.
      refine ⟨⟨x, []⟩, ⟨i.complex, is⟩, i.before, i.after, rfl, ?_, (List.cons.inj h₂).2.symm⟩
      simp [SelectorList.text]
    | cons c u₃ =>
      -- It is a later one, and the induction hypothesis cuts the list behind the first comma.
      obtain ⟨rfl, h₃⟩ := List.cons.inj h₂
      obtain ⟨u₄, rfl, h₄, hu₄⟩ := exists_of_sealed (sealed_spaces i.after) h₃
        (closesQuotes_comma.1 hu₂)
      obtain ⟨t₁, t₂, before, after, ht, rfl, rfl⟩ := ih hu₄ i.complex h₄
      refine ⟨Grammar.SelectorList.join ⟨x, []⟩ i.before i.after t₁, t₂, before, after, ?_, ?_, rfl⟩
      · obtain ⟨hhead, htail⟩ : i.complex = t₁.head ∧ is = t₁.items ++ ⟨before, after, t₂.head⟩ ::
            t₂.items := Grammar.SelectorList.mk.inj ht
        rw [Grammar.SelectorList.join, Grammar.SelectorList.join, ← hhead, htail]
        rfl
      · rw [text_join]
        simp [SelectorList.text]

/-! ## Two texts -/

/-- The blanks at the end of the first text and at the beginning of the second one are spaces that
the grammar allows around commas. -/
def MeetsCleanly (a b : Text) : Prop :=
  (∀ c ∈ a.rtakeWhile isBlank, isSpace c = true) ∧ ∀ c ∈ b.takeWhile isBlank, isSpace c = true

instance (a b : Text) : Decidable (MeetsCleanly a b) :=
  decidable_of_iff
    ((a.rtakeWhile isBlank).all isSpace = true ∧ (b.takeWhile isBlank).all isSpace = true)
    (and_congr List.all_eq_true List.all_eq_true)

lemma takeWhile_text {before : Text} (hbefore : ∀ c ∈ before, isBlank c = true)
    (t : Grammar.SelectorList) (r : Text) :
    (before ++ t.text ++ r).takeWhile isBlank = before := by
  rw [List.append_assoc]
  exact takeWhile_append_of_stops hbefore (stops_isBlank_list t r)

lemma rtakeWhile_text {after : Text} (hafter : ∀ c ∈ after, isBlank c = true)
    (t : Grammar.SelectorList) (r : Text) : (r ++ t.text ++ after).rtakeWhile isBlank = after :=
  rtakeWhile_append ((endsSolid_list t).append r) hafter

/-- Blanks are sealed, also those that are not among the four spaces. -/
lemma sealed_blanks {s : Text} (hs : ∀ c ∈ s, isBlank c = true) : Sealed s :=
  sealed_of_class (by decide) hs

lemma closesQuotes_text (t : Grammar.SelectorList) : ClosesQuotes t.text := by
  obtain ⟨x, is⟩ := t
  rw [SelectorList.text, (sealed_complex x).closesQuotes.append_iff]
  induction is with
  | nil => rfl
  | cons i is ih =>
    rw [List.flatMap_cons, Item.text, List.append_assoc, List.cons_append, List.append_assoc,
      (sealed_spaces i.before).closesQuotes.append_iff, closesQuotes_comma,
      (sealed_spaces i.after).closesQuotes.append_iff,
      (sealed_complex i.complex).closesQuotes.append_iff]
    exact ih

/-- **A text that is accepted closes its quotes.** -/
theorem closesQuotes_of_parse {s : Text} {list : SelectorList}
    (h : SelectorList.parse s = .ok list) : ClosesQuotes s := by
  obtain ⟨t, before, after, -, hbefore, hafter, rfl⟩ := exists_of_parse h
  rw [List.append_assoc, (sealed_blanks hbefore).closesQuotes.append_iff,
    (closesQuotes_text t).append_iff]
  exact (sealed_blanks hafter).closesQuotes

/-- **Two texts that meet cleanly are accepted together** if they are accepted one by one, as one
list behind the other. -/
theorem parse_seam {a b : Text} {l₁ l₂ : SelectorList} (ha : SelectorList.parse a = .ok l₁)
    (hb : SelectorList.parse b = .ok l₂) (hseam : MeetsCleanly a b) :
    SelectorList.parse (a ++ ([',', ' '] ++ b)) = .ok (l₁ ++ l₂) := by
  obtain ⟨t₁, before, x, rfl, hbefore, hx, rfl⟩ := exists_of_parse ha
  obtain ⟨t₂, y, after, rfl, hy, hafter, rfl⟩ := exists_of_parse hb
  rw [MeetsCleanly, rtakeWhile_text hx, takeWhile_text hy] at hseam
  have hspaces : ∀ c ∈ ' ' :: y, isSpace c = true := List.forall_mem_cons.2 ⟨rfl, hseam.2⟩
  have htext : before ++ t₁.text ++ x ++ ([',', ' '] ++ (y ++ t₂.text ++ after)) =
      before ++ (t₁.join ⟨x, hseam.1⟩ ⟨' ' :: y, hspaces⟩ t₂).text ++ after := by
    rw [text_join]
    simp
  rw [htext, parse_eq_ok_of_text _ hbefore hafter, list_join]

/-- **Two texts that are accepted together** are accepted one by one and meet cleanly, if the first
one closes its quotes. -/
theorem exists_of_parse_seam {a b : Text} (hquotes : ClosesQuotes a) {list : SelectorList}
    (h : SelectorList.parse (a ++ ([',', ' '] ++ b)) = .ok list) :
    ∃ l₁ l₂, SelectorList.parse a = .ok l₁ ∧ SelectorList.parse b = .ok l₂ ∧ MeetsCleanly a b ∧
      list = l₁ ++ l₂ := by
  obtain ⟨t, before, after, rfl, hbefore, hafter, htext⟩ := exists_of_parse h
  have hcomma : ∀ z r, after ≠ z ++ ',' :: r := by
    rintro z r rfl
    exact absurd (hafter ',' (by simp)) (by decide)
  -- The comma of the seam stands neither among the blanks in front nor among those behind.
  have hfront : before ++ (t.text ++ after) = a ++ ',' :: (' ' :: b) := by
    rw [← List.append_assoc, ← htext]
    rfl
  obtain ⟨u, rfl, hu, hclosed⟩ := exists_of_sealed (sealed_blanks hbefore) hfront hquotes
  obtain ⟨v, hcut, hv⟩ : ∃ v, t.text = u ++ ',' :: v ∧ ' ' :: b = v ++ after := by
    rcases List.append_eq_append_iff.1 hu with ⟨z, -, hz⟩ | ⟨z, hz, hrest⟩
    · exact absurd hz (hcomma z _)
    · cases z with
      | nil => exact absurd hrest.symm (hcomma [] _)
      | cons c v =>
        obtain ⟨rfl, hv⟩ := List.cons.inj hrest
        exact ⟨v, hz, hv⟩
  obtain ⟨t₁, t₂, x, y, rfl, rfl, rfl⟩ := exists_cut t hcut hclosed
  -- The space of the seam is the first one of the spaces behind the comma.
  obtain ⟨y', hy, rfl⟩ : ∃ y', y.1 = ' ' :: y' ∧ b = y' ++ t₂.text ++ after := by
    cases hy : y.1 with
    | nil =>
      have hbegin := stops_isBlank_list t₂ after
      rw [hy, List.nil_append] at hv
      rw [← hv, stops_cons] at hbegin
      exact absurd hbegin (by decide)
    | cons c y' =>
      rw [hy] at hv
      obtain ⟨rfl, hb⟩ := List.cons.inj hv
      exact ⟨y', rfl, hb⟩
  have hy' : ∀ c ∈ y', isSpace c = true := fun c hc => y.2 c (hy ▸ List.mem_cons_of_mem _ hc)
  have hxblank : ∀ c ∈ x.1, isBlank c = true := fun c hc => isBlank_of_isSpace (x.2 c hc)
  have hyblank : ∀ c ∈ y', isBlank c = true := fun c hc => isBlank_of_isSpace (hy' c hc)
  refine ⟨t₁.list, t₂.list, ?_, parse_eq_ok_of_text t₂ hyblank hafter, ?_, list_join t₁ x y t₂⟩
  · rw [← List.append_assoc]
    exact parse_eq_ok_of_text t₁ hbefore hxblank
  · rw [MeetsCleanly, ← List.append_assoc, rtakeWhile_text hxblank, takeWhile_text hyblank]
    exact ⟨x.2, hy'⟩

/-! ## Any number of texts -/

lemma joined_cons_cons (a b : Text) (bs : Alternatives) :
    Alternatives.joined (a :: b :: bs) = a ++ ([',', ' '] ++ Alternatives.joined (b :: bs)) := by
  rw [Alternatives.joined, List.intercalate_cons_cons, List.append_assoc]
  rfl

/-- Whether a text meets the joined texts cleanly is decided by the first one of them. -/
lemma meetsCleanly_joined (a b : Text) (bs : Alternatives) :
    MeetsCleanly a (Alternatives.joined (b :: bs)) ↔ MeetsCleanly a b := by
  cases bs with
  | nil => rw [Alternatives.joined, List.intercalate_singleton]
  | cons b' bs =>
    have hblanks : (Alternatives.joined (b :: b' :: bs)).takeWhile isBlank = b.takeWhile isBlank := by
      rw [joined_cons_cons]
      exact takeWhile_append_cons (by decide) b _
    rw [MeetsCleanly, MeetsCleanly, hblanks]

/-- **Joined texts**: if all texts but the last one close their quotes, the joined text is accepted
exactly if all texts are accepted one by one and neighbours meet cleanly. -/
theorem parse_joined_iff {alternatives : Alternatives} (hne : alternatives ≠ [])
    (hquotes : ∀ a ∈ alternatives.dropLast, ClosesQuotes a) (list : SelectorList) :
    SelectorList.parse alternatives.joined = .ok list ↔
      alternatives.IsChain MeetsCleanly ∧ ∃ lists,
        List.Forall₂ (fun a l => SelectorList.parse a = .ok l) alternatives lists ∧
        lists.flatten = list := by
  induction alternatives generalizing list with
  | nil => exact absurd rfl hne
  | cons a alternatives ih =>
    cases alternatives with
    | nil =>
      rw [Alternatives.joined, List.intercalate_singleton]
      constructor
      · intro h
        exact ⟨List.isChain_singleton a, [list], .cons h .nil, List.append_nil list⟩
      · rintro ⟨-, _, hlists, rfl⟩
        cases hlists with
        | cons h hnil =>
          cases hnil
          rwa [List.flatten_singleton]
    | cons b bs =>
      rw [List.dropLast_cons_cons, List.forall_mem_cons] at hquotes
      have ih := ih (List.cons_ne_nil b bs) hquotes.2
      rw [joined_cons_cons, List.isChain_cons_cons, ← meetsCleanly_joined a b bs]
      constructor
      · intro h
        obtain ⟨l₁, l₂, ha, hrest, hseam, rfl⟩ := exists_of_parse_seam hquotes.1 h
        obtain ⟨hchain, lists, hlists, rfl⟩ := (ih l₂).1 hrest
        exact ⟨⟨hseam, hchain⟩, l₁ :: lists, .cons ha hlists, rfl⟩
      · rintro ⟨⟨hseam, hchain⟩, _, hlists, rfl⟩
        cases hlists with
        | cons ha hlists => exact parse_seam ha ((ih _).2 ⟨hchain, _, hlists, rfl⟩) hseam

end TreeQuery.Native
