import TreeQuery.Proofs.Text.CharClasses
import TreeQuery.Proofs.Text.Trimming

set_option relaxedAutoImplicit false
set_option autoImplicit false

/-!
# Lowercasing part by part

The lowercase of a text is not put together from the lowercases of its parts: a capital sigma is
lowercased to a final sigma where a word ends, and cutting a text may end a word. All that a part
must know of the rest is whether a letter with case meets it on the left and on the right,
characters that case ignores being passed over. So a part has four lowercases, one of them in the
place where nothing meets it. They differ in two letters at most, a sigma at the beginning of the
part and a sigma at its end.

Blanks neither have case nor are passed over. So a text is lowercased between blanks as it is
lowercased by itself.

## Main definitions

* `TreeQuery.Text.lowerBetween` — the lowercase of a part of a text.
* `TreeQuery.Text.OpensOnSigma`, `TreeQuery.Text.ClosesOnSigma` — parts with a sigma at an end that
  depends on what meets them there.

## Main results

* `TreeQuery.Text.lowerBetween_append` — lowercasing part by part.
* `TreeQuery.Text.lower_trim_infix_lower` — the lowercase of a trimmed text is a part of the
  lowercase of the text.
* `TreeQuery.Text.lowerBetween_eq_lower` — where a part is lowercased as it is by itself.
* `TreeQuery.Text.lower_prefix_iff`, `TreeQuery.Text.lower_suffix_iff`,
  `TreeQuery.Text.lower_infix_append` — where a text begins with, ends with or holds the lowercase
  of a part of it.
* `TreeQuery.Text.not_infix_of_opensOnSigma`, `TreeQuery.Text.not_infix_of_closesOnSigma` — texts
  that do not hold the lowercase of a part of them.
-/

namespace TreeQuery.Text

open Property

variable {s p q r : Text} {c : Char} {before after : Bool}

/-! ## What meets a part -/

/-- Whether the first character that is not passed over is a letter with case. If all characters
of the text are passed over, `beyond` says whether what stands behind it is. -/
def meetsCasedOr (beyond : Bool) (s : Text) : Bool :=
  match s.dropWhile caseIgnorable.holds with
  | [] => beyond
  | c :: _ => cased.holds c

lemma meetsCased_eq (s : Text) : meetsCased s = meetsCasedOr false s := by
  unfold meetsCased meetsCasedOr
  cases s.dropWhile caseIgnorable.holds <;> rfl

lemma meetsCasedOr_cons_of_ignorable (hc : caseIgnorable.holds c = true) (beyond : Bool)
    (s : Text) : meetsCasedOr beyond (c :: s) = meetsCasedOr beyond s := by
  rw [meetsCasedOr, List.dropWhile_cons_of_pos hc, meetsCasedOr]

lemma meetsCasedOr_cons (hc : caseIgnorable.holds c = false) (beyond : Bool) (s : Text) :
    meetsCasedOr beyond (c :: s) = cased.holds c := by
  rw [meetsCasedOr, List.dropWhile_cons_of_neg (by simp [hc])]

lemma meetsCasedOr_append (beyond : Bool) (s r : Text) :
    meetsCasedOr beyond (s ++ r) = meetsCasedOr (meetsCasedOr beyond r) s := by
  induction s with
  | nil => rfl
  | cons c s ih =>
    rw [List.cons_append]
    cases hc : caseIgnorable.holds c with
    | true => rw [meetsCasedOr_cons_of_ignorable hc, meetsCasedOr_cons_of_ignorable hc, ih]
    | false => rw [meetsCasedOr_cons hc, meetsCasedOr_cons hc]

/-- What is passed over altogether leaves it to what stands behind. -/
lemma meetsCasedOr_of_ignorable (hs : ∀ c ∈ s, caseIgnorable.holds c = true) (beyond : Bool) :
    meetsCasedOr beyond s = beyond := by
  rw [meetsCasedOr, List.dropWhile_eq_nil_iff.2 hs]

/-- A letter with case that stands in a text is met whatever stands behind the text. -/
lemma meetsCasedOr_of_meetsCased (hs : meetsCased s = true) (beyond : Bool) :
    meetsCasedOr beyond s = true := by
  rw [meetsCased] at hs
  rw [meetsCasedOr]
  split <;> simp_all

/-- Blanks are no letters with case, and they are not passed over. -/
lemma meetsCasedOr_of_blanks (hs : ∀ c ∈ s, isBlank c = true) : meetsCasedOr false s = false := by
  cases s with
  | nil => rfl
  | cons c s =>
    have hc : isBlank c = true := hs c (by simp)
    rw [meetsCasedOr_cons (caseIgnorable_of_isBlank hc), cased_of_isBlank hc]

/-! ## The lowercase of a part -/

/-- The lowercase of a character in a place where `before` and `after` say whether a letter with
case meets it. -/
def lowerIn (before after : Bool) (c : Char) : Text :=
  if c = 'Σ' then [if before && !after then 'ς' else 'σ']
  else if c = 'İ' then ['i', '\u0307']
  else [lowerChar c]

/-- The lowercase of a part of a text in a place where `before` and `after` say whether a letter
with case meets the part. -/
def lowerBetween (before after : Bool) : Text → Text
  | [] => []
  | c :: s =>
    lowerIn before (meetsCasedOr after s) c ++ lowerBetween (meetsCasedOr before [c]) after s

lemma lowerAfter_eq (preceding s : Text) :
    lowerAfter preceding s = lowerBetween (meetsCased preceding) false s := by
  induction s generalizing preceding with
  | nil => rfl
  | cons c s ih =>
    have hbefore : meetsCased (c :: preceding) = meetsCasedOr (meetsCased preceding) [c] := by
      rw [meetsCased_eq, meetsCased_eq, ← meetsCasedOr_append, List.singleton_append]
    rw [lowerAfter, lowerBetween, ih, hbefore, lowerIn, ← meetsCased_eq, endsWord]

/-- A whole text is a part that nothing meets. -/
lemma lower_eq (s : Text) : lower s = lowerBetween false false s := lowerAfter_eq [] s

/-- **Lowercasing part by part**: each of two parts must know what meets it in the other one. -/
theorem lowerBetween_append (before after : Bool) (s r : Text) :
    lowerBetween before after (s ++ r) =
      lowerBetween before (meetsCasedOr after r) s ++
        lowerBetween (meetsCasedOr before s.reverse) after r := by
  induction s generalizing before with
  | nil => rfl
  | cons c s ih =>
    rw [List.cons_append, lowerBetween, lowerBetween, ih, meetsCasedOr_append, List.reverse_cons,
      meetsCasedOr_append before s.reverse, List.append_assoc]

/-- **A trimmed text is lowercased as in its place**, for the blanks around it end every word. -/
theorem lower_trim_infix_lower (s : Text) : lower (trim s) <:+: lower s := by
  obtain ⟨before, after, hbefore, hafter, hs⟩ := exists_trim s
  have hbefore : meetsCasedOr false before.reverse = false :=
    meetsCasedOr_of_blanks fun c hc => hbefore c (List.mem_reverse.1 hc)
  have hafter : meetsCasedOr false after = false := meetsCasedOr_of_blanks hafter
  have hparts : lower s =
      lowerBetween false (meetsCasedOr false (trim s ++ after)) before ++ lower (trim s) ++
        lowerBetween (meetsCasedOr false (before ++ trim s).reverse) false after := by
    rw [lower_eq, lower_eq]
    nth_rewrite 1 [hs]
    rw [lowerBetween_append, lowerBetween_append, hafter, hbefore, meetsCasedOr_append, hafter]
  exact ⟨_, _, hparts.symm⟩

/-! ## Sigmas at the ends of a part -/

/-- The part begins with a capital sigma that no letter with case comes behind, as far as the part
goes and characters that case ignores being passed over. A letter with case in front of the part
may make it the end of a word. -/
def OpensOnSigma (s : Text) : Prop :=
  ∃ p q, s = p ++ 'Σ' :: q ∧ (∀ c ∈ p, caseIgnorable.holds c = true) ∧ meetsCased q = false

/-- The part ends with a capital sigma that a letter with case comes before, as far as the part goes
and characters that case ignores being passed over. A letter with case behind the part keeps it from
being the end of a word. -/
def ClosesOnSigma (s : Text) : Prop :=
  ∃ p q, s = p ++ 'Σ' :: q ∧ (∀ c ∈ q, caseIgnorable.holds c = true) ∧
    meetsCased p.reverse = true

lemma caseIgnorable_sigma : caseIgnorable.holds 'Σ' = false := by decide +kernel

lemma cased_sigma : cased.holds 'Σ' = true := by decide +kernel

/-- Only for a capital sigma it matters what meets it. -/
lemma lowerIn_eq_of_ne (hc : c ≠ 'Σ') (before after before' after' : Bool) :
    lowerIn before after c = lowerIn before' after' c := by
  rw [lowerIn, lowerIn, if_neg hc, if_neg hc]

/-- A part that case ignores has one lowercase only. -/
lemma lowerBetween_eq_of_ignorable (hs : ∀ c ∈ s, caseIgnorable.holds c = true)
    (before after before' after' : Bool) :
    lowerBetween before after s = lowerBetween before' after' s := by
  induction s generalizing before before' with
  | nil => rfl
  | cons c s ih =>
    obtain ⟨hc, hs⟩ := List.forall_mem_cons.1 hs
    have hne : c ≠ 'Σ' := by
      rintro rfl
      simp [caseIgnorable_sigma] at hc
    exact congrArg₂ (· ++ ·) (lowerIn_eq_of_ne hne _ _ _ _) (ih hs _ _)

/-- A character that is not passed over keeps the two sides of a part apart. -/
lemma lowerBetween_append_cons (hc : caseIgnorable.holds c = false) (before after : Bool)
    (p q : Text) : lowerBetween before after (p ++ c :: q) =
      lowerBetween before (cased.holds c) p ++
        (lowerIn (meetsCasedOr before p.reverse) (meetsCasedOr after q) c ++
          lowerBetween (cased.holds c) after q) := by
  rw [lowerBetween_append, lowerBetween, meetsCasedOr_cons hc, meetsCasedOr_cons hc]

/-- A text that is not passed over altogether has a first character that is not. -/
lemma ignorable_or_first (s : Text) : (∀ c ∈ s, caseIgnorable.holds c = true) ∨
    ∃ p c q, s = p ++ c :: q ∧ (∀ c ∈ p, caseIgnorable.holds c = true) ∧
      caseIgnorable.holds c = false := by
  cases hrest : s.dropWhile caseIgnorable.holds with
  | nil => exact .inl (List.dropWhile_eq_nil_iff.1 hrest)
  | cons c q =>
    refine .inr ⟨s.takeWhile caseIgnorable.holds, c, q, ?_, fun c hc => List.mem_takeWhile_imp hc,
      stops_cons.1 (hrest ▸ stops_dropWhile _ s)⟩
    rw [← hrest, List.takeWhile_append_dropWhile]

/-- A text that is not passed over altogether has a last character that is not. -/
lemma ignorable_or_last (s : Text) : (∀ c ∈ s, caseIgnorable.holds c = true) ∨
    ∃ p c q, s = p ++ c :: q ∧ (∀ c ∈ q, caseIgnorable.holds c = true) ∧
      caseIgnorable.holds c = false := by
  rcases ignorable_or_first s.reverse with h | ⟨p, c, q, hs, hp, hc⟩
  · exact .inl fun c hc => h c (List.mem_reverse.2 hc)
  · refine .inr ⟨q.reverse, c, p.reverse, ?_, fun c hc => hp c (List.mem_reverse.1 hc), hc⟩
    rw [← List.reverse_reverse s, hs]
    simp

/-- **On the left** it matters what meets a part only if the part opens on a sigma. -/
lemma lowerBetween_of_not_opens (h : ¬ OpensOnSigma s) (before after : Bool) :
    lowerBetween before after s = lowerBetween false after s := by
  rcases ignorable_or_first s with hs | ⟨p, c, q, rfl, hp, hc⟩
  · exact lowerBetween_eq_of_ignorable hs _ _ _ _
  · have hpivot : lowerIn before (meetsCasedOr after q) c =
        lowerIn false (meetsCasedOr after q) c := by
      by_cases hsigma : c = 'Σ'
      · subst hsigma
        have hq : meetsCased q = true := by
          rw [← Bool.not_eq_false]
          exact fun hq => h ⟨p, q, rfl, hp, hq⟩
        simp [lowerIn, meetsCasedOr_of_meetsCased hq]
      · exact lowerIn_eq_of_ne hsigma _ _ _ _
    have hreverse : ∀ c ∈ p.reverse, caseIgnorable.holds c = true :=
      fun c hc => hp c (List.mem_reverse.1 hc)
    rw [lowerBetween_append_cons hc, lowerBetween_append_cons hc,
      meetsCasedOr_of_ignorable hreverse, meetsCasedOr_of_ignorable hreverse, hpivot,
      lowerBetween_eq_of_ignorable hp before _ false]

/-- **On the right** it matters what meets a part that nothing meets on the left only if the part
closes on a sigma. -/
lemma lowerBetween_of_not_closes (h : ¬ ClosesOnSigma s) (after : Bool) :
    lowerBetween false after s = lower s := by
  rw [lower_eq]
  rcases ignorable_or_last s with hs | ⟨p, c, q, rfl, hq, hc⟩
  · exact lowerBetween_eq_of_ignorable hs _ _ _ _
  · have hpivot : lowerIn (meetsCasedOr false p.reverse) after c =
        lowerIn (meetsCasedOr false p.reverse) false c := by
      by_cases hsigma : c = 'Σ'
      · subst hsigma
        have hp : meetsCasedOr false p.reverse = false := by
          rw [← meetsCased_eq, ← Bool.not_eq_true]
          exact fun hp => h ⟨p, q, rfl, hq, hp⟩
        simp [lowerIn, hp]
      · exact lowerIn_eq_of_ne hsigma _ _ _ _
    rw [lowerBetween_append_cons hc, lowerBetween_append_cons hc, meetsCasedOr_of_ignorable hq,
      meetsCasedOr_of_ignorable hq, hpivot, lowerBetween_eq_of_ignorable hq _ after _ false]

/-- **Where a part is lowercased as it is by itself**: a letter with case meets it on the left only
if the part does not open on a sigma, and on the right only if it does not close on one. -/
theorem lowerBetween_eq_lower (hopens : before = true → ¬ OpensOnSigma s)
    (hcloses : after = true → ¬ ClosesOnSigma s) : lowerBetween before after s = lower s := by
  have hleft : lowerBetween before after s = lowerBetween false after s := by
    cases before with
    | true => exact lowerBetween_of_not_opens (hopens rfl) _ _
    | false => rfl
  rw [hleft]
  cases after with
  | true => exact lowerBetween_of_not_closes (hcloses rfl) _
  | false => exact (lower_eq s).symm

/-- A letter with case in front of a part that opens on a sigma makes this a final sigma. -/
theorem exists_of_opensOnSigma (h : OpensOnSigma s) :
    ∃ u v, lower s = u ++ 'σ' :: v ∧ lowerBetween true false s = u ++ 'ς' :: v := by
  obtain ⟨p, q, rfl, hp, hq⟩ := h
  have hreverse : ∀ c ∈ p.reverse, caseIgnorable.holds c = true :=
    fun c hc => hp c (List.mem_reverse.1 hc)
  rw [meetsCased_eq] at hq
  refine ⟨lowerBetween false true p, lowerBetween true false q, ?_, ?_⟩
  · rw [lower_eq, lowerBetween_append_cons caseIgnorable_sigma, cased_sigma,
      meetsCasedOr_of_ignorable hreverse, hq]
    rfl
  · rw [lowerBetween_append_cons caseIgnorable_sigma, cased_sigma,
      meetsCasedOr_of_ignorable hreverse, hq, lowerBetween_eq_of_ignorable hp true _ false true]
    rfl

/-- A letter with case behind a part that closes on a sigma keeps this from being a final sigma. -/
theorem exists_of_closesOnSigma (h : ClosesOnSigma s) :
    ∃ u v, lower s = u ++ 'ς' :: v ∧ lowerBetween false true s = u ++ 'σ' :: v := by
  obtain ⟨p, q, rfl, hq, hp⟩ := h
  rw [meetsCased_eq] at hp
  refine ⟨lowerBetween false true p, lowerBetween true false q, ?_, ?_⟩
  · rw [lower_eq, lowerBetween_append_cons caseIgnorable_sigma, cased_sigma, hp,
      meetsCasedOr_of_ignorable hq]
    rfl
  · rw [lowerBetween_append_cons caseIgnorable_sigma, cased_sigma, hp,
      meetsCasedOr_of_ignorable hq, lowerBetween_eq_of_ignorable hq true true true false]
    rfl

/-! ## Where a part is lowercased as it is by itself -/

/-- With nothing on the left a part is lowercased as it is by itself exactly if no letter with case
meets it on the right or it does not close on a sigma. -/
lemma lowerBetween_right_eq_iff :
    lowerBetween false after s = lower s ↔ (after = true → ¬ ClosesOnSigma s) := by
  refine ⟨?_, fun h => lowerBetween_eq_lower (by simp) h⟩
  rintro heq rfl hcloses
  obtain ⟨u, v, hlower, hbetween⟩ := exists_of_closesOnSigma hcloses
  rw [hlower, hbetween, List.append_right_inj] at heq
  exact absurd (List.cons.inj heq).1 (by decide)

/-- With nothing on the right a part is lowercased as it is by itself exactly if no letter with case
meets it on the left or it does not open on a sigma. -/
lemma lowerBetween_left_eq_iff :
    lowerBetween before false s = lower s ↔ (before = true → ¬ OpensOnSigma s) := by
  refine ⟨?_, fun h => lowerBetween_eq_lower h (by simp)⟩
  rintro heq rfl hopens
  obtain ⟨u, v, hlower, hbetween⟩ := exists_of_opensOnSigma hopens
  rw [hlower, hbetween, List.append_right_inj] at heq
  exact absurd (List.cons.inj heq).1 (by decide)

/-! ## Parts at the two ends of a text -/

/-- The lowercase of a text from those of two parts. -/
lemma lower_append (s r : Text) :
    lower (s ++ r) = lowerBetween false (meetsCased r) s ++
      lowerBetween (meetsCased s.reverse) false r := by
  rw [lower_eq, lowerBetween_append, meetsCased_eq, meetsCased_eq]

/-- What meets a part makes its lowercase neither longer nor shorter. -/
lemma length_lowerBetween (before after : Bool) (s : Text) :
    (lowerBetween before after s).length = (lower s).length := by
  have hcongr (s : Text) (before after before' after' : Bool) :
      (lowerBetween before after s).length = (lowerBetween before' after' s).length := by
    induction s generalizing before before' with
    | nil => rfl
    | cons c s ih =>
      have hc (before after : Bool) :
          (lowerIn before after c).length = if c = 'İ' then 2 else 1 := by
        unfold lowerIn
        by_cases hsigma : c = 'Σ'
        · subst hsigma
          simp
        · rw [if_neg hsigma]
          split <;> rfl
      rw [lowerBetween, lowerBetween, List.length_append, List.length_append, hc, hc, ih]
  rw [lower_eq]
  exact hcongr s _ _ _ _

/-- **At the beginning of a text** the lowercase of a part stands exactly if the part is lowercased
there as it is by itself. -/
theorem lower_prefix_iff :
    lower s <+: lower (s ++ r) ↔ (meetsCased r = true → ¬ ClosesOnSigma s) := by
  rw [← lowerBetween_right_eq_iff, lower_append]
  constructor
  · rintro ⟨u, hu⟩
    exact (List.append_inj_left hu (length_lowerBetween _ _ _).symm).symm
  · intro heq
    rw [heq]
    exact List.prefix_append _ _

/-- **At the end of a text** the lowercase of a part stands exactly if the part is lowercased there
as it is by itself. -/
theorem lower_suffix_iff :
    lower s <:+ lower (r ++ s) ↔ (meetsCased r.reverse = true → ¬ OpensOnSigma s) := by
  rw [← lowerBetween_left_eq_iff, lower_append]
  constructor
  · rintro ⟨u, hu⟩
    exact (List.append_inj_right' hu (length_lowerBetween _ _ _).symm).symm
  · intro heq
    rw [heq]
    exact List.suffix_append _ _

/-- A part is lowercased inside a text as it is by itself if what meets it there does not matter. -/
theorem lower_infix_append (hopens : meetsCased p.reverse = true → ¬ OpensOnSigma s)
    (hcloses : meetsCased r = true → ¬ ClosesOnSigma s) : lower s <:+: lower (p ++ s ++ r) := by
  have hparts : lowerBetween (meetsCased p.reverse) (meetsCased r) s = lower s :=
    lowerBetween_eq_lower hopens hcloses
  rw [lower_eq (p ++ s ++ r), lowerBetween_append, lowerBetween_append, ← meetsCased_eq,
    ← meetsCased_eq, hparts]
  exact ⟨_, _, rfl⟩

/-! ## A letter next to a part -/

lemma meetsCased_letter : meetsCased ['a'] = true := by decide +kernel

lemma lowerBetween_letter (before after : Bool) : lowerBetween before after ['a'] = ['a'] := by
  revert before after
  decide +kernel

/-- **With a letter in front** of a part that opens on a sigma, the lowercase of the part stands
nowhere in the lowercase of the text: one sigma of it has become a final one. -/
theorem not_infix_of_opensOnSigma (h : OpensOnSigma s) : ¬ lower s <:+: lower ('a' :: s) := by
  have hletter : lower ('a' :: s) = 'a' :: lowerBetween true false s := by
    rw [← List.singleton_append, lower_append, lowerBetween_letter, List.reverse_singleton,
      meetsCased_letter, List.singleton_append]
  obtain ⟨u, v, hlower, hbetween⟩ := exists_of_opensOnSigma h
  intro hinfix
  have hcount := hinfix.sublist.count_le 'σ'
  have hne : 'a' ≠ 'σ' ∧ 'ς' ≠ 'σ' := by decide
  simp only [hletter, hlower, hbetween, List.count_append, List.count_cons_self,
    List.count_cons_of_ne hne.1, List.count_cons_of_ne hne.2] at hcount
  omega

/-- **With a letter behind** a part that closes on a sigma, the lowercase of the part stands nowhere
in the lowercase of the text: a final sigma of it has become an ordinary one. -/
theorem not_infix_of_closesOnSigma (h : ClosesOnSigma s) : ¬ lower s <:+: lower (s ++ ['a']) := by
  have hletter : lower (s ++ ['a']) = lowerBetween false true s ++ ['a'] := by
    rw [lower_append, lowerBetween_letter, meetsCased_letter]
  obtain ⟨u, v, hlower, hbetween⟩ := exists_of_closesOnSigma h
  intro hinfix
  have hcount := hinfix.sublist.count_le 'ς'
  have hne : 'a' ≠ 'ς' ∧ 'σ' ≠ 'ς' := by decide
  simp only [hletter, hlower, hbetween, List.count_append, List.count_cons_self,
    List.count_cons_of_ne hne.1, List.count_cons_of_ne hne.2, List.count_nil] at hcount
  omega

end TreeQuery.Text
