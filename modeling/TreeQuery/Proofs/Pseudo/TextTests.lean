import TreeQuery.Proofs.Pseudo.Standard
import TreeQuery.Proofs.Text.Lines
import TreeQuery.Proofs.Text.Lowercase

set_option relaxedAutoImplicit false
set_option autoImplicit false

/-!
# How the tests of the text are related

Five of the built-in pseudo-selectors test the text of an element. Four of them compare lowercases,
of the text as it is or of the trimmed text, and one compares trimmed texts as they are. They are
ordered as their names say: what is exactly the argument also begins with it and ends with it, and
what begins or ends with it contains it.

That a text literally holds the argument is another matter, since an argument is lowercased by
itself. A sigma at its end is then the end of a word, and in the text it need not be.

## Main definitions

* `TreeQuery.Registry.Accepts` — a name with an argument accepts all elements with a text.

## Main results

* `TreeQuery.Registry.accepts_ofText_iff` — what a test of the text accepts.
* `TreeQuery.Registry.literalMatches_iff` — which literal matches are accepted.
* `TreeQuery.Registry.literalMatches_rejected` — literal matches that are not accepted.
* `TreeQuery.Registry.textTests_ordered` — the tests are ordered by implication.
-/

namespace TreeQuery

open Text Pseudo

/-! ## Comma-separated arguments -/

/-- Nothing but the empty text has an empty lowercase. -/
lemma Text.lower_ne_nil_iff {s : Text} : lower s ≠ [] ↔ s ≠ [] := by
  cases s with
  | nil => exact Iff.rfl
  | cons c s =>
    have hc : lowerIn false (meetsCasedOr false s) c ≠ [] := by
      unfold lowerIn
      split
      · simp
      · split <;> simp
    simp [lower_eq, lowerBetween, hc]

/-- The text is searched for the trimmed parts between the commas of the argument, without the empty
ones. -/
lemma Pseudo.textContainsAny_iff {t a : Text} : textContainsAny t a = true ↔
    ∃ part ∈ a.splitOn ',', trim part ≠ [] ∧ textContains t (trim part) = true := by
  have hfragment (f : Text) : f ∈ fragments a ↔
      (∃ part ∈ a.splitOn ',', lower (trim part) = f) ∧ f ≠ [] := by
    rw [fragments, pieces_eq_splitOnP, ← List.splitOn, List.mem_filter, List.mem_map]
    simp
  rw [textContainsAny, List.any_eq_true]
  constructor
  · rintro ⟨f, hf, hoccurs⟩
    obtain ⟨⟨part, hpart, rfl⟩, hne⟩ := (hfragment f).1 hf
    exact ⟨part, hpart, lower_ne_nil_iff.1 hne, hoccurs⟩
  · rintro ⟨part, hpart, hne, hoccurs⟩
    exact ⟨_, (hfragment _).2 ⟨⟨part, hpart, rfl⟩, lower_ne_nil_iff.2 hne⟩, hoccurs⟩

/-! ## What a name accepts -/

namespace Registry

variable {t a : Text}

/-- The name is registered, and with the argument it says yes of every element with the text,
whatever else the element is, and does nothing else. -/
def Accepts (r : Registry) (name t a : Text) : Prop :=
  ∃ p : Pseudo, r.find? name = some @p ∧ ∀ (limit : Nat) (e : Element limit)
    (short : a.length < limit), e.text = t → p e a short = .ok true

/-- **A test of the text accepts what it holds of.** -/
theorem accepts_ofText_iff {name : Text} (test : (text argument : Text) → Bool)
    (h : (name, @ofText test) ∈ builtins) : standard.Accepts name t a ↔ test t a = true := by
  let tested : Pseudo := ofText test
  have hfind : standard.find? name = some @tested := find?_standard_eq_some_iff.2 h
  constructor
  · rintro ⟨p, hp, hyes⟩
    have hsame : @tested = @p := Option.some.inj (hfind.symm.trans hp)
    let e : Element (a.length + 1) := ⟨t, fun _ => .ok false, fun _ => .ok false,
      fun _ _ => .ok false, fun _ _ => .ok false, fun _ _ => .ok ()⟩
    have htested : tested e a (Nat.lt_succ_self _) = .ok true := by
      rw [hsame]
      exact hyes _ e _ rfl
    exact Except.ok.inj (congrArg Eval.result htested)
  · intro htest
    refine ⟨tested, hfind, fun limit e short he => ?_⟩
    subst he
    exact congrArg Eval.ok htest

lemma accepts_contains_iff : standard.Accepts "contains".toList t a ↔ lower a <:+: lower t := by
  rw [accepts_ofText_iff textContains (by simp [builtins, contains])]
  exact occursIn_iff

lemma accepts_containsAny_iff : standard.Accepts "containsAny".toList t a ↔
    ∃ part ∈ a.splitOn ',', trim part ≠ [] ∧
      standard.Accepts "contains".toList t (trim part) := by
  rw [accepts_ofText_iff textContainsAny (by simp [builtins, containsAny]),
    textContainsAny_iff]
  simp only [accepts_contains_iff, textContains, occursIn_iff]

lemma accepts_exact_iff : standard.Accepts "exact".toList t a ↔ trim t = trim a := by
  rw [accepts_ofText_iff textEquals (by simp [builtins, exact])]
  exact beq_iff_eq

lemma accepts_startsWith_iff :
    standard.Accepts "startsWith".toList t a ↔ lower a <+: lower (trim t) := by
  rw [accepts_ofText_iff textStarts (by simp [builtins, startsWith])]
  exact List.isPrefixOf_iff_prefix

lemma accepts_endsWith_iff :
    standard.Accepts "endsWith".toList t a ↔ lower a <:+ lower (trim t) := by
  rw [accepts_ofText_iff textEnds (by simp [builtins, endsWith])]
  exact List.isSuffixOf_iff_suffix

/-! ## Literal matches -/

/-- **Which literal matches are accepted.** Text and argument are lowercased separately. A text
that literally holds the argument is accepted for containing it if the argument is lowercased there
as it is by itself: no letter with case stands in front of it if it opens on a sigma, and none
behind it if it closes on one. The arguments for which this is so of all texts that hold them are
those that neither open nor close on a sigma, such as all those without a capital sigma. Of a
trimmed text that literally begins or ends with the argument the condition is also necessary. -/
theorem literalMatches_iff (a : Text) :
    (∀ u v, (meetsCased u.reverse = true → ¬ OpensOnSigma a) →
      (meetsCased v = true → ¬ ClosesOnSigma a) →
        standard.Accepts "contains".toList (u ++ a ++ v) a) ∧
    ((∀ t, a <:+: t → standard.Accepts "contains".toList t a) ↔
      ¬ OpensOnSigma a ∧ ¬ ClosesOnSigma a) ∧
    (∀ t v, trim t = a ++ v → (standard.Accepts "startsWith".toList t a ↔
      (meetsCased v = true → ¬ ClosesOnSigma a))) ∧
    (∀ t u, trim t = u ++ a → (standard.Accepts "endsWith".toList t a ↔
      (meetsCased u.reverse = true → ¬ OpensOnSigma a))) ∧
    ('Σ' ∉ a → ¬ OpensOnSigma a ∧ ¬ ClosesOnSigma a) := by
  refine ⟨?inside, ⟨?necessary, ?sufficient⟩, ?starts, ?ends, ?plain⟩
  case inside =>
    intro u v hopens hcloses
    exact accepts_contains_iff.2 (lower_infix_append hopens hcloses)
  case necessary =>
    intro hall
    constructor
    · intro hopens
      exact not_infix_of_opensOnSigma hopens
        (accepts_contains_iff.1 (hall _ (List.suffix_cons 'a' a).isInfix))
    · intro hcloses
      exact not_infix_of_closesOnSigma hcloses
        (accepts_contains_iff.1 (hall _ (List.prefix_append a ['a']).isInfix))
  case sufficient =>
    rintro ⟨hopens, hcloses⟩ t ⟨u, v, rfl⟩
    exact accepts_contains_iff.2 (lower_infix_append (fun _ => hopens) fun _ => hcloses)
  case starts =>
    intro t v ht
    rw [accepts_startsWith_iff, ht, lower_prefix_iff]
  case ends =>
    intro t u ht
    rw [accepts_endsWith_iff, ht, lower_suffix_iff]
  case plain =>
    intro hplain
    exact ⟨fun ⟨p, q, hpq, _⟩ => hplain (hpq ▸ by simp), fun ⟨p, q, hpq, _⟩ =>
      hplain (hpq ▸ by simp)⟩

/-- The argument `ΑΣ` closes on a sigma. A text that holds it is accepted where a blank stands
behind it, though further letters come, and it is accepted for beginning and ending with it. -/
theorem literalMatches_accepted :
    standard.Accepts "contains".toList "Ο ΑΣ, Α".toList "ΑΣ".toList ∧
    standard.Accepts "startsWith".toList "\tΑΣ Α".toList "ΑΣ".toList ∧
    standard.Accepts "endsWith".toList "Α ΑΣ\n".toList "ΑΣ".toList := by
  obtain ⟨hinside, -, hstarts, hends, -⟩ := literalMatches_iff "ΑΣ".toList
  have hafter : meetsCased ", Α".toList ≠ true ∧ meetsCased " Α".toList ≠ true := by
    decide +kernel
  have hbefore : meetsCased "Ο ".toList.reverse ≠ true ∧ meetsCased "Α ".toList.reverse ≠ true := by
    decide +kernel
  exact ⟨hinside "Ο ".toList ", Α".toList (absurd · hbefore.1) (absurd · hafter.1),
    (hstarts _ " Α".toList (by decide +kernel)).2 (absurd · hafter.2),
    (hends _ "Α ".toList (by decide +kernel)).2 (absurd · hbefore.2)⟩

/-- **Literal matches that are not accepted**: the sigma that ends the argument `ΑΣ` is the end of a
word, but not so in the text `ΑΣΑ`, and for the argument `Σ` it is the other way round at the end of
the text `ΑΣ`. -/
theorem literalMatches_rejected :
    "ΑΣ".toList <:+: "ΑΣΑ".toList ∧
    ¬ standard.Accepts "contains".toList "ΑΣΑ".toList "ΑΣ".toList ∧
    "ΑΣ".toList <+: trim "ΑΣΑ".toList ∧
    ¬ standard.Accepts "startsWith".toList "ΑΣΑ".toList "ΑΣ".toList ∧
    "Σ".toList <:+ trim "ΑΣ".toList ∧
    ¬ standard.Accepts "endsWith".toList "ΑΣ".toList "Σ".toList := by
  simp only [accepts_contains_iff, accepts_startsWith_iff, accepts_endsWith_iff]
  decide +kernel

/-! ## The order of the tests -/

/-- **The tests of the text are ordered by implication.** A text that is exactly the argument begins
and ends with the trimmed argument and contains it, and a text that begins or ends with the argument
contains it, though the one is asked of the trimmed text and the other of the whole. To contain any
of the parts of the argument is to contain one of those that are not blank, trimmed.

**Proof sketch.** The lowercase of the trimmed text stands in the lowercase of the text, since the
blanks around it neither have case nor are passed over by the rule for the final sigma. So what it
begins or ends with stands there too. -/
theorem textTests_ordered (t a : Text) :
    (standard.Accepts "exact".toList t a →
      standard.Accepts "startsWith".toList t (trim a) ∧
      standard.Accepts "endsWith".toList t (trim a) ∧
      standard.Accepts "contains".toList t (trim a)) ∧
    (standard.Accepts "startsWith".toList t a → standard.Accepts "contains".toList t a) ∧
    (standard.Accepts "endsWith".toList t a → standard.Accepts "contains".toList t a) ∧
    (standard.Accepts "containsAny".toList t a ↔
      ∃ part ∈ a.splitOn ',', trim part ≠ [] ∧
        standard.Accepts "contains".toList t (trim part)) := by
  refine ⟨?exact, ?starts, ?ends, accepts_containsAny_iff⟩
  case exact =>
    intro hexact
    rw [accepts_startsWith_iff, accepts_endsWith_iff, accepts_contains_iff,
      ← accepts_exact_iff.1 hexact]
    exact ⟨List.prefix_rfl, List.suffix_rfl, lower_trim_infix_lower t⟩
  case starts =>
    intro hstarts
    exact accepts_contains_iff.2
      ((accepts_startsWith_iff.1 hstarts).isInfix.trans (lower_trim_infix_lower t))
  case ends =>
    intro hends
    exact accepts_contains_iff.2
      ((accepts_endsWith_iff.1 hends).isInfix.trans (lower_trim_infix_lower t))

/-- A text between blanks that is exactly the argument, with a final sigma at its end: it also
begins with it, ends with it and contains it, and so it contains any of two parts. -/
theorem textTests_ordered_odos :
    standard.Accepts "exact".toList "\u00a0ΟΔΟΣ\n".toList "ΟΔΟΣ ".toList ∧
    standard.Accepts "startsWith".toList "\u00a0ΟΔΟΣ\n".toList "ΟΔΟΣ".toList ∧
    standard.Accepts "endsWith".toList "\u00a0ΟΔΟΣ\n".toList "ΟΔΟΣ".toList ∧
    standard.Accepts "contains".toList "\u00a0ΟΔΟΣ\n".toList "ΟΔΟΣ".toList ∧
    standard.Accepts "containsAny".toList "\u00a0ΟΔΟΣ\n".toList " ,ΟΔΟΣ ".toList := by
  have hexact : standard.Accepts "exact".toList "\u00a0ΟΔΟΣ\n".toList "ΟΔΟΣ ".toList :=
    accepts_exact_iff.2 (by decide +kernel)
  have htrim : trim "ΟΔΟΣ ".toList = "ΟΔΟΣ".toList := by decide +kernel
  obtain ⟨hstarts, hends, hcontains⟩ :=
    (textTests_ordered "\u00a0ΟΔΟΣ\n".toList "ΟΔΟΣ ".toList).1 hexact
  have hany := (textTests_ordered "\u00a0ΟΔΟΣ\n".toList " ,ΟΔΟΣ ".toList).2.2.2.2
    ⟨"ΟΔΟΣ ".toList, by decide +kernel, by decide +kernel, hcontains⟩
  rw [htrim] at hstarts hends hcontains
  exact ⟨hexact, hstarts, hends, hcontains, hany⟩

end Registry
end TreeQuery
