import Mathlib.Data.List.Forall2
import Mathlib.Logic.Relation
import TreeQuery.Native.Query
import TreeQuery.Proofs.Native.Canonical

set_option relaxedAutoImplicit false
set_option autoImplicit false

/-!
# Simple selectors are interchangeable

Ids, classes and attribute tests are told apart by the grammar, kept apart by the parser and tested
in three different ways. What they say is nevertheless of one kind: an id and a class are attribute
tests in other words. A compound therefore says that its node is an element with its tag, if it has
one, and that a set of attribute tests is met, and it does not matter in which order the tests are
written, how often, and in which of the two words.

## Main definitions

* `TreeQuery.Native.Grammar.Simple.asTest` — a simple selector as an attribute test.
* `TreeQuery.Native.Grammar.Compound.Rewrites` — the ways to write a compound differently.
* `TreeQuery.Native.Grammar.SelectorList.Rephrases` — a list whose compounds are written
  differently.

## Main results

* `TreeQuery.Native.Grammar.describes_compound_iff` — what a compound says, in attribute tests.
* `TreeQuery.Native.rephrasing_keepsAnswers` — a text that is rephrased gets the same answers.
-/

namespace TreeQuery.Native

open Text

variable {d : Document} {n : NodeId}

/-! ## Ids and classes as attribute tests -/

/-- An attribute test that compares: the node has the attribute, and its value compares. -/
lemma AttributeTest.describes_comparison_iff {name value : Text} {op : Operator} :
    AttributeTest.Describes ⟨name, some (op, value)⟩ d n ↔
      ∃ actual, d.attribute? n name = some actual ∧ op.Compares value actual := by
  refine exists_congr fun actual => and_congr_right fun _ => ⟨fun h => h op value rfl, ?_⟩
  rintro h op' value' heq
  obtain ⟨rfl, rfl⟩ := Prod.mk.inj (Option.some.inj heq)
  exact h

namespace Grammar

/-- The attribute test that asks for an id. -/
def idTest (name : Text) : AttributeTest := ⟨"id".toList, some (.equals, name)⟩

/-- The attribute test that asks for a class. -/
def classTest (name : Text) : AttributeTest := ⟨"class".toList, some (.includes, name)⟩

/-- A simple selector as an attribute test. -/
def Simple.asTest : Simple → AttributeTest
  | id name => idTest name.1
  | className name => classTest name.1
  | «attribute» a => a.test

lemma describes_idTest_iff {name : Text} :
    (idTest name).Describes d n ↔ d.attribute? n "id".toList = some name := by
  rw [idTest, AttributeTest.describes_comparison_iff]
  simp [Operator.Compares]

lemma describes_classTest_iff {name : Text} :
    (classTest name).Describes d n ↔
      ∃ value, d.attribute? n "class".toList = some value ∧ name ∈ words value :=
  AttributeTest.describes_comparison_iff

/-- **What a compound says**, in attribute tests: the node is an element with the tag, if there is
one, and the simple selectors are met, whatever their kinds and their order. -/
theorem describes_compound_iff (c : Compound) :
    c.compound.Describes d n ↔ d.isElement n = true ∧
      (∀ tag, c.type.bind TypeSelector.tag? = some tag → d.tag n = tag) ∧
      ∀ x ∈ c.simples, x.asTest.Describes d n := by
  constructor
  · rintro ⟨helement, htag, hids, hclasses, hattributes⟩
    refine ⟨helement, htag, fun x hx => ?_⟩
    cases x with
    | id name => exact describes_idTest_iff.2 (hids name.1 (List.mem_filterMap.2 ⟨_, hx, rfl⟩))
    | className name =>
      exact describes_classTest_iff.2 (hclasses name.1 (List.mem_filterMap.2 ⟨_, hx, rfl⟩))
    | «attribute» a => exact hattributes a.test (List.mem_filterMap.2 ⟨_, hx, rfl⟩)
  · rintro ⟨helement, htag, hsimples⟩
    refine ⟨helement, htag, fun name h => ?ids, fun name h => ?classes, fun t h => ?attributes⟩
    all_goals
      obtain ⟨x, hx, hname⟩ := List.mem_filterMap.1 h
      have hmet := hsimples x hx
      cases x <;> simp only [Option.some.injEq, reduceCtorEq] at hname
      subst hname
    case ids => exact describes_idTest_iff.1 hmet
    case classes => exact describes_classTest_iff.1 hmet
    case attributes => exact hmet

/-! ## Writing compounds differently -/

/-- The ways to write a compound differently. -/
inductive Compound.Rewrites (c c' : Compound) : Prop
  /-- The simple selectors in another order. -/
  | reorder (htype : c'.type = c.type) (h : c.simples.Perm c'.simples)
  /-- A simple selector once more. -/
  | again {x : Simple} (htype : c'.type = c.type) (hx : x ∈ c.simples)
      (h : c'.simples = c.simples ++ [x])
  /-- An id as an attribute test. -/
  | id (xs ys : List Simple) {name : Name} {a : Attribute} (htype : c'.type = c.type)
      (ha : (Simple.attribute a).text = "[id=\"".toList ++ name.1 ++ "\"]".toList)
      (h : c.simples = xs ++ .id name :: ys) (h' : c'.simples = xs ++ .attribute a :: ys)
  /-- A class as an attribute test. -/
  | className (xs ys : List Simple) {name : Name} {a : Attribute} (htype : c'.type = c.type)
      (ha : (Simple.attribute a).text = "[class~=\"".toList ++ name.1 ++ "\"]".toList)
      (h : c.simples = xs ++ .className name :: ys) (h' : c'.simples = xs ++ .attribute a :: ys)
  /-- A star in front of a compound that has no type selector. -/
  | star (htype : c.type = none) (htype' : c'.type = some .any) (h : c'.simples = c.simples)

/-- A compound can be written as the other one in any number of steps, to and fro. -/
def Compound.Rephrases : Compound → Compound → Prop := Relation.EqvGen Rewrites

lemma isName_of_all {s : Text} (hs : s ≠ []) (h : s.all isNameChar = true) : IsName s :=
  ⟨hs, List.all_eq_true.1 h⟩

/-- What is written like an attribute test with a name between double quotes is that test. -/
lemma test_eq_of_text {key : Text} (hkey : IsName key) (op : Operator) (name : Name)
    {a : Attribute} (h : (Simple.attribute a).text =
      '[' :: key ++ op.sign ++ ['"'] ++ name.1 ++ ['"', ']']) :
    a.test = ⟨key, some (op, name.1)⟩ := by
  have hquote : '"' ∉ name.1 := not_mem_name name (by decide)
  have hwell : AttributeTest.WellFormed ⟨key, some (op, name.1)⟩ := by
    refine ⟨hkey, fun op' value h => ?_⟩
    obtain ⟨-, rfl⟩ := Prod.mk.inj (Option.some.inj h)
    exact fun h => hquote h.1
  obtain ⟨b, hb, htext⟩ := exists_attribute hwell
  have hinner : a.inner ++ [] = b.inner ++ [] := by
    have hcanonical := h.trans (by simp [AttributeTest.canonical, quoteFor, hquote] :
      _ = AttributeTest.canonical ⟨key, some (op, name.1)⟩)
    simpa [Simple.text] using hcanonical.trans htext.symm
  rw [(attribute_append_inj hinner).1, hb]

lemma test_eq_idTest {name : Name} {a : Attribute}
    (h : (Simple.attribute a).text = "[id=\"".toList ++ name.1 ++ "\"]".toList) :
    a.test = idTest name.1 :=
  test_eq_of_text (isName_of_all (by decide) rfl) .equals name h

lemma test_eq_classTest {name : Name} {a : Attribute}
    (h : (Simple.attribute a).text = "[class~=\"".toList ++ name.1 ++ "\"]".toList) :
    a.test = classTest name.1 :=
  test_eq_of_text (isName_of_all (by decide) rfl) .includes name h

/-- **Writing a compound differently** does not change what it says. -/
theorem Compound.Rewrites.describes_iff {c c' : Compound} (h : c.Rewrites c') :
    c'.compound.Describes d n ↔ c.compound.Describes d n := by
  simp only [describes_compound_iff]
  refine and_congr_right fun _ => ?_
  cases h with
  | reorder htype h => simp only [htype, h.mem_iff]
  | again htype hx h =>
    rw [htype, h]
    refine and_congr_right fun _ => ⟨fun h x hx => h x (List.mem_append_left _ hx), fun h => ?_⟩
    exact List.forall_mem_append.2 ⟨h, List.forall_mem_singleton.2 (h _ hx)⟩
  | id _ _ htype ha h h' =>
    rw [htype, h, h']
    simp only [List.forall_mem_append, List.forall_mem_cons, Simple.asTest, test_eq_idTest ha]
  | className _ _ htype ha h h' =>
    rw [htype, h, h']
    simp only [List.forall_mem_append, List.forall_mem_cons, Simple.asTest, test_eq_classTest ha]
  | star htype htype' h =>
    rw [htype, htype', h]
    simp [TypeSelector.tag?]

lemma Compound.Rephrases.holds_eq {c c' : Compound} (h : c.Rephrases c') :
    c'.compound.holds d = c.compound.holds d := by
  funext n
  rw [Bool.eq_iff_iff, Compound.holds_iff, Compound.holds_iff]
  induction h with
  | rel _ _ h => exact h.describes_iff
  | refl _ => exact Iff.rfl
  | symm _ _ _ ih => exact ih.symm
  | trans _ _ _ _ _ ih ih' => exact ih'.trans ih

/-! ## Writing selectors differently -/

/-- The same combinator with a compound that is written differently behind it. -/
def Link.Rephrases (l l' : Link) : Prop := l'.1 = l.1 ∧ l.2.Rephrases l'.2

/-- A complex selector whose compounds are written differently. -/
def Complex.Rephrases (x x' : Complex) : Prop :=
  x.head.Rephrases x'.head ∧ List.Forall₂ Link.Rephrases x.links x'.links

/-- The same comma with a complex selector behind it whose compounds are written differently. -/
def Item.Rephrases (i i' : Item) : Prop :=
  i'.before = i.before ∧ i'.after = i.after ∧ i.complex.Rephrases i'.complex

/-- A selector list whose compounds are written differently. -/
def SelectorList.Rephrases (t t' : SelectorList) : Prop :=
  t.head.Rephrases t'.head ∧ List.Forall₂ Item.Rephrases t.items t'.items

/-- Matching depends on what compounds say, at every place of a complex selector. -/
lemma holds_extendBy_congr {left left' : Native.Complex} {ls ls' : List Link}
    (hleft : left'.holds d = left.holds d) (h : List.Forall₂ Link.Rephrases ls ls') :
    (extendBy left' ls').holds d = (extendBy left ls).holds d := by
  induction h generalizing left left' with
  | nil => exact hleft
  | cons hl _ ih =>
    obtain ⟨hk, hc⟩ := hl
    refine ih ?_
    funext n
    rw [Layout.holds_extend, Layout.holds_extend, hk, hc.holds_eq, hleft]

lemma Complex.Rephrases.holds_eq {x x' : Complex} (h : x.Rephrases x') :
    x'.complex.holds d = x.complex.holds d := by
  obtain ⟨hhead, hlinks⟩ := h
  exact holds_extendBy_congr hhead.holds_eq hlinks

lemma any_items_congr {is is' : List Item} (h : List.Forall₂ Item.Rephrases is is') :
    (is'.any fun i => i.complex.complex.holds d n) =
      is.any fun i => i.complex.complex.holds d n := by
  induction h with
  | nil => rfl
  | cons hi _ ih => rw [List.any_cons, List.any_cons, ih, hi.2.2.holds_eq]

/-- **Rephrasing does not change matching.** -/
theorem SelectorList.Rephrases.holds_eq {t t' : SelectorList} (h : t.Rephrases t') :
    t'.list.holds d = t.list.holds d := by
  obtain ⟨hhead, hitems⟩ := h
  funext n
  simp only [Native.SelectorList.holds, SelectorList.list, List.any_cons, List.any_map,
    Function.comp_def, hhead.holds_eq, any_items_congr hitems]

end Grammar

/-- **Simple selectors are interchangeable.** Let a text be parsed to a selector list, and let any
of its compounds be written differently, in any number of steps: with its ids, classes and
attribute tests in another order, with some of them repeated, with ids and classes as attribute
tests or the other way round, with a star in front of a compound that has no type selector or
without it. The new text, with any blanks around it, is parsed as well; every node of every
document satisfies the new list if and only if it satisfies the old one; and the questions of a
document are answered for the new text as for the old one.

**Proof sketch.** What a compound says can be put in attribute tests (`describes_compound_iff`), and
there the ways of writing it make no difference. Matching depends on nothing else, at every place of
a complex selector (`holds_extendBy_congr`), and derived texts are parsed to what they mean. -/
theorem rephrasing_keepsAnswers {s : Text} {list : SelectorList}
    (h : SelectorList.parse s = .ok list) :
    ∃ t : Grammar.SelectorList, t.text = trim s ∧ t.list = list ∧
      ∀ t' : Grammar.SelectorList, t.Rephrases t' →
      ∀ before after : Text, (∀ c ∈ before, isBlank c = true) → (∀ c ∈ after, isBlank c = true) →
        SelectorList.parse (before ++ t'.text ++ after) = .ok t'.list ∧
        ∀ d : Document, ∀ n,
          t'.list.holds d n = list.holds d n ∧
          d.selectAll n (before ++ t'.text ++ after) = d.selectAll n s ∧
          d.selectFirst n (before ++ t'.text ++ after) = d.selectFirst n s ∧
          d.closest n (before ++ t'.text ++ after) = d.closest n s ∧
          d.satisfies n (before ++ t'.text ++ after) = d.satisfies n s := by
  obtain ⟨t, htext, hlist, -⟩ := (parse_eq_ok_iff s list).1 h
  refine ⟨t, htext, hlist, fun t' ht before after hbefore hafter => ?_⟩
  have hparse := parse_eq_ok_of_text t' hbefore hafter
  have hholds (d : Document) : t'.list.holds d = list.holds d := hlist ▸ ht.holds_eq
  refine ⟨hparse, fun d n => ⟨congrFun (hholds d) n, ?_⟩⟩
  simp only [Document.selectAll, Document.selectFirst, Document.closest, Document.satisfies,
    hparse, h, Except.map, hholds, and_self]

/-- All ways of writing a compound differently one after the other, to the left of a combinator and
in front of a comma. -/
theorem rephrasing_keepsAnswers_allWays :
    let s : Text := "#i.c .d,e".toList
    let s' : Text := "*[class~=\"c\"].c[id=\"i\"] .d,e\n".toList
    let list : SelectorList := [.extend (.single ⟨none, [['i']], [['c']], []⟩) .descendant
      ⟨none, [], [['d']], []⟩, .single ⟨some ['e'], [], [], []⟩]
    SelectorList.parse s = .ok list ∧
      ∃ list' : SelectorList, SelectorList.parse s' = .ok list' ∧ ∀ d : Document, ∀ n,
        list'.holds d n = list.holds d n ∧ d.selectAll n s' = d.selectAll n s := by
  intro s s' list
  have hparse : SelectorList.parse s = .ok list := by decide +kernel
  obtain ⟨t, htext, -, hrephrased⟩ := rephrasing_keepsAnswers hparse
  let name (c : Char) (hc : isNameChar c = true) : Grammar.Name :=
    ⟨[c], List.cons_ne_nil c [], List.forall_mem_singleton.2 hc⟩
  let i : Grammar.Name := name 'i' (by decide +kernel)
  let c : Grammar.Name := name 'c' (by decide +kernel)
  let test (key : Text) (hkey : IsName key) (op : Operator) (v : Text) (hv : '"' ∉ v) :
      Grammar.Attribute := ⟨noSpaces, ⟨key, hkey⟩, noSpaces,
        some ⟨op, noSpaces, .doubleQuoted v hv, noSpaces⟩⟩
  let hasId := test "id".toList (Grammar.isName_of_all nofun rfl) .equals ['i'] (by decide)
  let hasClass := test "class".toList (Grammar.isName_of_all nofun rfl) .includes ['c'] (by decide)
  let links : List Grammar.Link := [(.descendant oneSpace (List.cons_ne_nil _ _),
    ⟨none, [.className (name 'd' (by decide +kernel))], .inr (List.cons_ne_nil _ _)⟩)]
  let items : List Grammar.Item := [⟨noSpaces, noSpaces,
    ⟨⟨some (.tag (name 'e' (by decide +kernel))), [], .inl nofun⟩, []⟩⟩]
  let written (c : Grammar.Compound) : Grammar.SelectorList := ⟨⟨c, links⟩, items⟩
  let c₀ : Grammar.Compound := ⟨none, [.id i, .className c], .inr nofun⟩
  let c₁ : Grammar.Compound := ⟨none, [.id i, .className c, .className c], .inr nofun⟩
  let c₂ : Grammar.Compound := ⟨none, [.attribute hasId, .className c, .className c], .inr nofun⟩
  let c₃ : Grammar.Compound :=
    ⟨none, [.attribute hasId, .attribute hasClass, .className c], .inr nofun⟩
  let c₄ : Grammar.Compound :=
    ⟨none, [.attribute hasClass, .className c, .attribute hasId], .inr nofun⟩
  let c₅ : Grammar.Compound :=
    ⟨some .any, [.attribute hasClass, .className c, .attribute hasId], .inr nofun⟩
  have hrewritten : c₀.Rephrases c₅ := by
    refine .trans _ c₁ _ (.rel _ _ (.again (x := .className c) rfl (by simp [c₀]) rfl)) ?_
    refine .trans _ c₂ _ (.rel _ _ (.id [] _ rfl rfl rfl rfl)) ?_
    refine .trans _ c₃ _ (.rel _ _ (.className [_] _ rfl rfl rfl rfl)) ?_
    refine .trans _ c₄ _ (.rel _ _ (.reorder rfl ?_)) (.rel _ _ (.star rfl rfl rfl))
    exact (List.perm_append_singleton _ _).symm
  have ht : t = written c₀ := Grammar.SelectorList.text_injective (htext.trans (by decide +kernel))
  obtain ⟨hparse', hsame⟩ := hrephrased (written c₅)
    (ht ▸ ⟨⟨hrewritten, .cons ⟨rfl, .refl _⟩ .nil⟩, .cons ⟨rfl, rfl, .refl _, .nil⟩ .nil⟩)
    [] ['\n'] nofun (List.forall_mem_singleton.2 (by decide))
  exact ⟨hparse, (written c₅).list, hparse', fun d n => ⟨(hsame d n).1, (hsame d n).2.1⟩⟩

end TreeQuery.Native
