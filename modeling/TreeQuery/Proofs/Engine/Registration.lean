import TreeQuery.Proofs.Engine.Parse
import TreeQuery.Proofs.Pseudo.Standard
import TreeQuery.Proofs.Text.CharClasses

set_option relaxedAutoImplicit false
set_option autoImplicit false

/-!
# The warning about names that are never looked up

Registering a name gives a warning if the name seems to be one that no occurrence can have. Names
in occurrences are made of word characters. The warning goes by alphanumeric characters and the
underscore instead, and so it is not always right: a name may be warned of and looked up, and a
name that is never looked up may pass without a warning.

## Main definitions

* `TreeQuery.Template.LooksUp` — taking a selector apart looks a name up.
* `TreeQuery.Registry.Matchable` — some selector looks a name up.
* `TreeQuery.Registry.WarnsRightly` — a warning is given exactly if no selector does.

## Main results

* `TreeQuery.Engine.parse_congr`, `TreeQuery.Engine.parse_insert_ne_iff` — the names that are
  looked up are those on whose registration the answer depends.
* `TreeQuery.Template.exists_looksUp_iff`, `TreeQuery.Registry.matchable_iff` — which names are
  looked up in some selector.
* `TreeQuery.Registry.warning_accurate_iff` — when the warning is right.
* `TreeQuery.Registry.warning_inaccurate` — names about which it is wrong.
-/

namespace TreeQuery

open Text Template

/-! ## The names that are looked up -/

/-- Taking the selector apart looks the name up: an occurrence in it has this name. -/
def Template.LooksUp (t : Template) (s name : Text) : Prop := ∃ o ∈ t.occurrences s, o.name = name

namespace Engine

variable {t : Template} {s name : Text}

/-- **Only the names that are looked up matter**: registries that know the same under these names
lead to the same answer, with the same notices. -/
theorem parse_congr {r r' : Registry}
    (h : ∀ name, t.LooksUp s name → r.find? name = r'.find? name) :
    (Engine.mk t r).parse s = (Engine.mk t r').parse s := by
  have hnotices : (Engine.mk t r).unknownNotices s = (Engine.mk t r').unknownNotices s := by
    refine List.filterMap_congr fun o ho => ?_
    rw [h o.name ⟨o, ho, rfl⟩]
  have hcalls : (Engine.mk t r).calls s = (Engine.mk t r').calls s := by
    refine List.filterMap_congr fun ⟨o, ho⟩ _ => ?_
    exact congrArg (Option.map _) (h o.name ⟨o, ho, rfl⟩)
  rw [parse, parse, hnotices, hcalls]

/-- There is a notice for a name exactly if it is looked up and not registered. -/
lemma notice_mem_parse_iff {r : Registry} :
    .notice (.unknownPseudo name s) ∈ ((Engine.mk t r).parse s).effects ↔
      t.LooksUp s name ∧ r.find? name = none := by
  obtain ⟨calls, hparse, -⟩ := (Engine.mk t r).takesApart_occurrences s
  simp only [hparse, List.mem_filterMap, List.mem_map]
  constructor
  · rintro ⟨-, ⟨o, ho, rfl⟩, hnotice⟩
    split at hnotice
    · simp at hnotice
    · rename_i hfind
      obtain rfl : o.name = name := by simpa [lookup] using hnotice
      exact ⟨⟨o, ho, rfl⟩, by simpa [lookup] using hfind⟩
  · rintro ⟨⟨o, ho, rfl⟩, hfind⟩
    exact ⟨t.lookup o, ⟨o, ho, rfl⟩, by simp [lookup, hfind]⟩

/-- **A new name is looked up exactly if it makes a difference** that it is registered. -/
theorem parse_insert_ne_iff {r : Registry} (p : Pseudo) (h : r.find? name = none) :
    (Engine.mk t (r.insert name @p)).parse s ≠ (Engine.mk t r).parse s ↔ t.LooksUp s name := by
  constructor
  · intro hne
    by_contra hlooks
    refine hne (parse_congr fun other hother => ?_)
    rw [Registry.find?_insert, if_neg]
    rintro rfl
    exact hlooks hother
  · intro hlooks heq
    have hnotice := notice_mem_parse_iff.2 ⟨hlooks, h⟩
    rw [← heq, notice_mem_parse_iff, Registry.find?_insert, if_pos rfl] at hnotice
    simp at hnotice

end Engine

namespace Template

/-- A name of word characters is looked up in the occurrence of it with an empty value. -/
lemma looksUp_written (t : Template) {name : Text} (hne : name ≠ [])
    (hword : ∀ c ∈ name, isWord c = true) : t.LooksUp (t.written ⟨name, []⟩) name := by
  have ho : occurrence? t (t.written ⟨name, []⟩) = some (⟨name, []⟩, []) :=
    occurrence?_eq_some_iff.2 ⟨by simp, ⟨hne, hword, .nil⟩, .nil _ _⟩
  refine ⟨⟨name, []⟩, ?_, rfl⟩
  rw [occurrences_eq, decompose_of_occurrence? ho]
  exact List.mem_cons_self

/-- **The names that can be looked up** are those made of one or more word characters, with every
template. -/
theorem exists_looksUp_iff (t : Template) {name : Text} :
    (∃ s, t.LooksUp s name) ↔ name ≠ [] ∧ ∀ c ∈ name, isWord c = true := by
  constructor
  · rintro ⟨s, o, ho, rfl⟩
    rw [occurrences_eq] at ho
    have hwf : o.WellFormed := (decompose_exact t s).2.fits.wellFormed o ho
    exact ⟨hwf.name_ne_nil, hwf.isWord_of_mem_name⟩
  · rintro ⟨hne, hword⟩
    exact ⟨_, t.looksUp_written hne hword⟩

end Template

namespace Registry

/-! ## The warning -/

/-- Some selector looks the name up, with some template. -/
def Matchable (name : Text) : Prop := ∃ (t : Template) (s : Text), t.LooksUp s name

/-- Registering a pseudo-selector under the name gives the warning exactly if no selector looks the
name up. -/
def WarnsRightly (r : Registry) (name : Text) (p : Pseudo) : Prop :=
  .unmatchableName name ∈ (r.register name @p).2 ↔ ¬ Matchable name

lemma matchable_iff {name : Text} :
    Matchable name ↔ name ≠ [] ∧ ∀ c ∈ name, isWord c = true :=
  ⟨fun ⟨t, hs⟩ => t.exists_looksUp_iff.1 hs,
    fun hname => ⟨.default, Template.default.exists_looksUp_iff.2 hname⟩⟩

/-- What is warned of: the empty name, and names with a character that does not look like a word
character. -/
lemma unmatchableName_mem_register_iff (r : Registry) (name : Text) (p : Pseudo) :
    .unmatchableName name ∈ (r.register name @p).2 ↔
      name = [] ∨ ∃ c ∈ name, looksLikeWord c = false := by
  have hseems : seemsUnmatchable name = true ↔
      name = [] ∨ ∃ c ∈ name, looksLikeWord c = false := by
    simp [seemsUnmatchable, looksLikeWord]
  rw [register, registrationNotices, ← hseems]
  cases seemsUnmatchable name <;> cases (r.find? name).isSome <;> simp

/-- **When the warning is right.** A name is warned of if it is empty or holds a character that does
not look like a word character. It is never looked up, in no selector and with no template, if it is
empty or holds a character that is no word character. So the warning is right exactly for the names
that are made of word characters if and only if they are made of characters that look like it, such
as all names of ASCII characters.

**Proof sketch.** An occurrence that scanning finds has the right shape (`decompose_exact`), so its
name is made of word characters; and a name of word characters is looked up in the selector that is
an occurrence of it with an empty value. -/
theorem warning_accurate_iff (r : Registry) (name : Text) (p : Pseudo) :
    (.unmatchableName name ∈ (r.register name @p).2 ↔
      name = [] ∨ ∃ c ∈ name, looksLikeWord c = false) ∧
    (Matchable name ↔ name ≠ [] ∧ ∀ c ∈ name, isWord c = true) ∧
    (r.WarnsRightly name @p ↔
      ((∀ c ∈ name, looksLikeWord c = true) ↔ ∀ c ∈ name, isWord c = true)) ∧
    ((∀ c ∈ name, c.toNat < 128) → r.WarnsRightly name @p) := by
  have hwarned := r.unmatchableName_mem_register_iff name @p
  have hrightly : r.WarnsRightly name @p ↔
      ((∀ c ∈ name, looksLikeWord c = true) ↔ ∀ c ∈ name, isWord c = true) := by
    rw [WarnsRightly, hwarned, matchable_iff]
    by_cases hname : name = []
    · simp [hname]
    · have hall : (∃ c ∈ name, looksLikeWord c = false) ↔
          ¬ ∀ c ∈ name, looksLikeWord c = true := by simp
      rw [hall]
      simp only [hname, false_or, ne_eq, not_false_eq_true, true_and]
      exact not_iff_not
  refine ⟨hwarned, matchable_iff, hrightly, fun hascii => hrightly.2 ?_⟩
  exact forall₂_congr fun c hc => by rw [looksLikeWord_of_ascii (hascii c hc)]

/-- **The warning is wrong** about a letter with a combining accent, which is warned of though it is
looked up, and about a superscript two, which is never looked up and not warned of. -/
theorem warning_inaccurate :
    .unmatchableName "x\u0301".toList ∈ (standard.register "x\u0301".toList Pseudo.self).2 ∧
    Template.default.LooksUp "advanced-selector-x\u0301(\"\")".toList "x\u0301".toList ∧
    ¬ standard.WarnsRightly "x\u0301".toList Pseudo.self ∧
    .unmatchableName "\u00b2".toList ∉ (standard.register "\u00b2".toList Pseudo.self).2 ∧
    ¬ Matchable "\u00b2".toList ∧ ¬ standard.WarnsRightly "\u00b2".toList Pseudo.self := by
  have haccent : looksLikeWord '\u0301' = false := by decide +kernel
  have hword : "x\u0301".toList.all isWord = true := by decide +kernel
  have htwo : looksLikeWord '\u00b2' = true ∧ isWord '\u00b2' = false := by decide +kernel
  have hwarned : .unmatchableName "x\u0301".toList ∈
      (standard.register "x\u0301".toList Pseudo.self).2 :=
    (unmatchableName_mem_register_iff _ _ _).2 (.inr ⟨_, by simp, haccent⟩)
  have hlooks : Template.default.LooksUp "advanced-selector-x\u0301(\"\")".toList
      "x\u0301".toList :=
    Template.default.looksUp_written (by decide) (List.all_eq_true.1 hword)
  have hsilent : .unmatchableName "\u00b2".toList ∉
      (standard.register "\u00b2".toList Pseudo.self).2 :=
    (not_congr (unmatchableName_mem_register_iff _ _ _)).2 (by simp [htwo.1])
  have hunmatchable : ¬ Matchable "\u00b2".toList := by
    rw [matchable_iff]
    simp [htwo.2]
  exact ⟨hwarned, hlooks, fun h => h.1 hwarned ⟨_, _, hlooks⟩, hsilent, hunmatchable,
    fun h => hsilent (h.2 hunmatchable)⟩

end Registry
end TreeQuery
