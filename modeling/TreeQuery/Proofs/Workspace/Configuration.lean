import Mathlib.Data.List.Induction
import TreeQuery.Proofs.Engine.Parse
import TreeQuery.Proofs.Engine.Repetition
import TreeQuery.Proofs.Pseudo.Standard

set_option relaxedAutoImplicit false
set_option autoImplicit false

/-!
# Configurations

Template and registry of a workspace are settled by the commands that have been executed so far. A
token of the template has the value that the last patch since the last reset gave it, and its
built-in value if no patch did; a name stands for what was last registered under it, and for what is
built in if nothing was. No other command has a part in it, a query as little as a patch that cannot
be read.

## Main definitions

* `TreeQuery.Template.Token` — the three tokens of a template.
* `TreeQuery.Command.patch?`, `TreeQuery.Command.registered?` — what a command does to template and
  registry.
* `TreeQuery.Command.Asks` — the commands that ask something.
* `TreeQuery.LastGives` — the last of the commands that give a value.
* `TreeQuery.Workspace.Follows` — a part of workspaces that is given by commands.

## Main results

* `TreeQuery.Table.pairwise_keys_put` — writing to a table keeps its keys in strict order.
* `TreeQuery.Workspace.context_execute` — what a command may change of a context.
* `TreeQuery.Workspace.Follows.run_eq_iff` — the last command counts.
* `TreeQuery.Workspace.configuration_run_new` — a run from the beginning.
-/

namespace TreeQuery

/-! ## Names in order -/

namespace Table

section Keys

variable {κ α : Type} [DecidableEq κ] [LT κ] [DecidableLT κ]

lemma mem_keys_put {key other : κ} {value : α} {t : Table κ α} :
    other ∈ keys (put key value t) ↔ other = key ∨ other ∈ keys t := by
  induction t with
  | nil => simp [put, keys]
  | cons entry t ih =>
    obtain ⟨k, v⟩ := entry
    have hcons (k' : κ) (v' : α) (t' : Table κ α) : keys ((k', v') :: t') = k' :: keys t' := rfl
    rw [put]
    by_cases hk : key = k
    · rw [if_pos hk, hcons, hcons, List.mem_cons, List.mem_cons, hk, or_self_left]
    · by_cases hl : key < k
      · rw [if_neg hk, if_pos hl, hcons, List.mem_cons]
      · rw [if_neg hk, if_neg hl, hcons, hcons, List.mem_cons, List.mem_cons, ih, or_left_comm]

/-- **Writing to a table keeps its keys in strict order**, and so without repetition. -/
theorem pairwise_keys_put [IsTrans κ (· < ·)] [Std.Trichotomous (α := κ) (· < ·)] {t : Table κ α}
    (h : (keys t).Pairwise (· < ·)) (key : κ) (value : α) :
    (keys (put key value t)).Pairwise (· < ·) := by
  induction t with
  | nil => exact List.pairwise_singleton _ key
  | cons entry t ih =>
    obtain ⟨k, v⟩ := entry
    obtain ⟨hhead, htail⟩ := List.pairwise_cons.1 h
    rw [put]
    by_cases hk : key = k
    · subst hk
      rw [if_pos rfl]
      exact h
    · by_cases hl : key < k
      · rw [if_neg hk, if_pos hl]
        refine List.pairwise_cons.2 ⟨fun other hother => ?_, h⟩
        rcases List.mem_cons.1 hother with rfl | hother
        · exact hl
        · exact IsTrans.trans key k other hl (hhead other hother)
      · rw [if_neg hk, if_neg hl]
        refine List.pairwise_cons.2 ⟨fun other hother => ?_, ih htail⟩
        rcases mem_keys_put.1 hother with rfl | hother
        · by_contra hg
          exact hk (Std.Trichotomous.trichotomous other k hl hg)
        · exact hhead other hother

end Keys

end Table

namespace Registry

lemma mem_names_insert {r : Registry} {name other : Text} {p : Pseudo} :
    other ∈ (r.insert name @p).names ↔ other = name ∨ other ∈ r.names :=
  Table.mem_keys_put

lemma pairwise_names_insert {r : Registry} (h : r.names.Pairwise (· < ·)) (name : Text)
    (p : Pseudo) : (r.insert name @p).names.Pairwise (· < ·) :=
  Table.pairwise_keys_put h name (@p)

/-- After registering pseudo-selectors under some names, these have come to the names of before. -/
lemma names_foldl_insert (entries : List (Text × Pseudo)) {r : Registry}
    (h : r.names.Pairwise (· < ·)) :
    (entries.foldl (fun r entry => r.insert entry.1 entry.2) r).names.Pairwise (· < ·) ∧
      ∀ name, name ∈ (entries.foldl (fun r entry => r.insert entry.1 entry.2) r).names ↔
        name ∈ entries.map Prod.fst ∨ name ∈ r.names := by
  induction entries generalizing r with
  | nil => exact ⟨h, fun name => (or_iff_right List.not_mem_nil).symm⟩
  | cons entry entries ih =>
    obtain ⟨hsorted, hmem⟩ := ih (pairwise_names_insert h entry.1 entry.2)
    refine ⟨hsorted, fun name => (hmem name).trans ((or_congr_right mem_names_insert).trans ?_)⟩
    rw [List.map_cons, List.mem_cons, or_left_comm, or_assoc]

/-- The names of the standard registry are those of the built-in pseudo-selectors, in order. -/
lemma names_standard : standard.names.Pairwise (· < ·) ∧
    ∀ name, name ∈ standard.names ↔ name ∈ Pseudo.builtins.map Prod.fst := by
  obtain ⟨hsorted, hmem⟩ := names_foldl_insert Pseudo.builtins (r := empty) .nil
  exact ⟨hsorted, fun name => (hmem name).trans (or_iff_left List.not_mem_nil)⟩

example : standard.names = ["closest".toList, "contains".toList, "containsAny".toList,
    "endsWith".toList, "exact".toList, "self".toList, "smuggleIf".toList, "startsWith".toList] := by
  decide

end Registry

/-! ## What commands do to a configuration -/

namespace Template

/-- The tokens of a template. -/
inductive Token
  | lead
  | trail
  | wrapper
  deriving DecidableEq, Repr

/-- The value of a token. -/
def token (t : Template) : Token → Text
  | .lead => t.lead
  | .trail => t.trail
  | .wrapper => t.wrapper

/-- The value that a patch gives to a token. -/
def Patch.token? (p : Patch) : Token → Option Text
  | .lead => p.lead
  | .trail => p.trail
  | .wrapper => p.wrapper

lemma token_apply (t : Template) (p : Patch) (k : Token) :
    (t.apply p).token k = (p.token? k).getD (t.token k) := by
  cases k <;> rfl

end Template

namespace Command

open Template

/-- The patch that a command applies, unless it has none that can be read. -/
def patch? : Command → Option Patch
  | .configure p => some p
  | .configureJson s => (Patch.ofJson s).toOption
  | _ => none

/-- The value that a command gives to a token. -/
def token? (k : Token) (c : Command) : Option Text := c.patch?.bind fun p => p.token? k

/-- What a command registers under a name. -/
def registered? (name : Text) : Command → Option Pseudo
  | .register other p => if other = name then some @p else none
  | _ => none

/-- The template after a command. -/
def template (c : Command) (t : Template) : Template :=
  match c with
  | .reset => .default
  | _ => c.patch?.elim t t.apply

/-- The registry after a command. -/
def registry (c : Command) (r : Registry) : Registry :=
  match c with
  | .register name p => r.insert name @p
  | _ => r

/-- Whether provenance is recorded after a command. -/
def recording (c : Command) (before : Bool) : Bool :=
  match c with
  | .setRecording on => on
  | _ => before

/-- A token after a command other than a reset. -/
lemma token_template {c : Command} (h : c ≠ .reset) (t : Template) (k : Token) :
    (c.template t).token k = (c.token? k).getD (t.token k) := by
  have htemplate : c.template t = c.patch?.elim t t.apply := by
    cases c with
    | reset => exact absurd rfl h
    | _ => rfl
  rw [htemplate, token?]
  cases c.patch? with
  | none => rfl
  | some p => exact token_apply t p k

/-- What a name stands for after a command. -/
lemma find?_registry (c : Command) (r : Registry) (name : Text) :
    (c.registry r).find? name = (c.registered? name).or (r.find? name) := by
  cases c with
  | register other p =>
    rw [registered?]
    refine (r.find?_insert other name @p).trans ?_
    by_cases hname : other = name
    · simp [hname]
    · simp [hname, Ne.symm hname]
  | _ => rfl

/-- The command asks something: a query for a match or for all of them, a query upwards, or the
application of a rule. -/
inductive Asks : Command → Prop
  | query (root : NodeId) (alternatives : Alternatives) : Asks (.query root alternatives)
  | queryAll (root : NodeId) (alternatives : Alternatives) (greedy : Bool) :
      Asks (.queryAll root alternatives greedy)
  | closest (root : NodeId) (alternatives : Alternatives) : Asks (.closest root alternatives)
  | settle (n : NodeId) (r : Rule) : Asks (.settle n r)

end Command

namespace Workspace

variable {w : Workspace} {c : Command}

/-- **What a command may change of a context**: the template by a patch or a reset, the registry by
registering, the recording by switching it; and the records, in whatever way. -/
theorem context_execute (w : Workspace) (c : Command) :
    ∃ records, (w.execute c).1.context =
      ⟨c.template w.context.template, c.registry w.context.registry,
        c.recording w.context.recording, records⟩ := by
  cases c with
  | configureJson s =>
    refine ⟨w.context.records, ?_⟩
    simp only [execute, Context.configureJson, Command.template, Command.patch?]
    cases Template.Patch.ofJson s <;> rfl
  | query root alternatives => exact w.context.context_query (w.handle root) alternatives
  | queryAll root alternatives greedy =>
    exact w.context.context_queryAll (w.handle root) alternatives greedy
  | closest root alternatives => exact w.context.context_closest (w.handle root) alternatives
  | wrap node s => exact w.context.wrap_eq (node.map w.handle) s
  | _ => exact ⟨_, rfl⟩

lemma template_execute (w : Workspace) (c : Command) :
    (w.execute c).1.context.template = c.template w.context.template := by
  obtain ⟨records, h⟩ := w.context_execute c
  rw [h]

lemma registry_execute (w : Workspace) (c : Command) :
    (w.execute c).1.context.registry = c.registry w.context.registry := by
  obtain ⟨records, h⟩ := w.context_execute c
  rw [h]

/-- **A command that asks leaves the configuration as it was**, whether it fails or not. -/
theorem configuration_execute_of_asks (h : c.Asks) :
    ∃ records, (w.execute c).1.context = { w.context with records := records } := by
  obtain ⟨records, hcontext⟩ := w.context_execute c
  refine ⟨records, hcontext.trans ?_⟩
  cases h <;> rfl

end Workspace

/-! ## The last command that counts -/

section Last

variable {α : Type} {gives : Command → Option α} {takesBack : Command → Prop}

/-- Some command gives the value `v`, and after it none gives a value or takes it back. -/
def LastGives (gives : Command → Option α) (takesBack : Command → Prop) (commands : List Command)
    (v : α) : Prop :=
  ∃ before c after, commands = before ++ c :: after ∧ gives c = some v ∧
    ∀ c' ∈ after, gives c' = none ∧ ¬ takesBack c'

lemma not_lastGives_nil {v : α} : ¬ LastGives gives takesBack [] v := by
  rintro ⟨before, c, after, h, -⟩
  simp at h

/-- The last command gives the value, or an earlier one does and the last one lets it be. -/
lemma lastGives_concat {commands : List Command} {c : Command} {v : α} :
    LastGives gives takesBack (commands ++ [c]) v ↔
      gives c = some v ∨
        (gives c = none ∧ ¬ takesBack c) ∧ LastGives gives takesBack commands v := by
  constructor
  · rintro ⟨before, c', after, h, hgives, hafter⟩
    rcases List.eq_nil_or_concat' after with rfl | ⟨after, last, rfl⟩
    · obtain ⟨-, hc⟩ := List.append_inj' h rfl
      obtain rfl : c = c' := List.singleton_inj.1 hc
      exact .inl hgives
    · rw [← List.cons_append, ← List.append_assoc] at h
      obtain ⟨hcommands, hc⟩ := List.append_inj' h rfl
      obtain rfl : c = last := List.singleton_inj.1 hc
      obtain ⟨hafter, hlast⟩ := List.forall_mem_append.1 hafter
      have hc := hlast c (List.mem_singleton_self c)
      exact .inr ⟨hc, before, c', after, hcommands, hgives, hafter⟩
  · rintro (hgives | ⟨hc, before, c', after, rfl, hgives, hafter⟩)
    · exact ⟨commands, c, [], rfl, hgives, by simp⟩
    · refine ⟨before, c', after ++ [c], by simp, hgives, ?_⟩
      exact List.forall_mem_append.2 ⟨hafter, List.forall_mem_singleton.2 hc⟩

namespace Workspace

/-- A part of workspaces that commands give values to, or back its initial state. -/
structure Follows {β : Type} (part : Workspace → β) (gives : Command → Option α)
    (takesBack : Command → Prop) (embed : α → β) (initial : β) : Prop where
  of_gives : ∀ (w : Workspace) {c : Command} {v : α}, gives c = some v →
    part (w.execute c).1 = embed v
  of_takesBack : ∀ (w : Workspace) {c : Command}, gives c = none → takesBack c →
    part (w.execute c).1 = initial
  of_other : ∀ (w : Workspace) {c : Command}, gives c = none → ¬ takesBack c →
    part (w.execute c).1 = part w

lemma run_concat (w : Workspace) (commands : List Command) (c : Command) :
    w.run (commands ++ [c]) = ((w.run commands).execute c).1 := by
  induction commands generalizing w with
  | nil => rfl
  | cons c' commands ih => exact ih _

/-- **The last command counts.** Such a part has after a run the value that was last given to it
and not taken back, and is in its initial state if there is none.

**Proof sketch.** By induction on the run from its end: the last command gives a value, or takes
back what was given before, or leaves the part as it was. -/
theorem Follows.run_eq_iff {β : Type} {part : Workspace → β} {embed : α → β} {initial b : β}
    (h : Follows part gives takesBack embed initial) {w : Workspace} (hw : part w = initial)
    (commands : List Command) :
    part (w.run commands) = b ↔
      (∃ v, LastGives gives takesBack commands v ∧ embed v = b) ∨
        (∀ v, ¬ LastGives gives takesBack commands v) ∧ initial = b := by
  induction commands using List.reverseRecOn with
  | nil => simp [not_lastGives_nil, run, hw]
  | append_singleton commands c ih =>
    rw [run_concat]
    simp only [lastGives_concat]
    cases hgives : gives c with
    | some v => simp [h.of_gives _ hgives]
    | none =>
      by_cases hback : takesBack c
      · simp [h.of_takesBack _ hgives hback, hback]
      · simp [h.of_other _ hgives hback, hback, ih]

end Workspace

end Last

/-! ## Runs -/

namespace Command

open Template

/-- The run last gives the token the value `v`: by a patch that can be read, after which neither
another such patch gives this token a value nor the template is reset. -/
def LastSets (commands : List Command) (k : Token) (v : Text) : Prop :=
  LastGives (token? k) (· = .reset) commands v

/-- The run last registers `p` under the name. -/
def LastRegisters (commands : List Command) (name : Text) (p : Pseudo) : Prop :=
  LastGives (registered? name) (fun _ => False) commands @p

end Command

namespace Workspace

open Template

lemma follows_token (k : Token) :
    Follows (fun w => w.context.template.token k) (Command.token? k) (· = .reset) id
      (Template.default.token k) where
  of_gives w c v hc := by
    have hne : c ≠ .reset := by
      rintro rfl
      simp [Command.token?, Command.patch?] at hc
    rw [template_execute, Command.token_template hne, hc]
    rfl
  of_takesBack w c _ hc := by
    subst hc
    rfl
  of_other w c hc hne := by
    rw [template_execute, Command.token_template hne, hc]
    rfl

lemma follows_registered (name : Text) :
    Follows (fun w => w.context.registry.find? name) (Command.registered? name) (fun _ => False)
      some (Registry.standard.find? name) where
  of_gives w c v hc := by rw [registry_execute, Command.find?_registry, hc, Option.some_or]
  of_takesBack w c _ h := h.elim
  of_other w c hc _ := by rw [registry_execute, Command.find?_registry, hc, Option.none_or]

/-- The names after a run: they are in order, and those of the registered pseudo-selectors have come
to the ones of before. -/
lemma names_run {w : Workspace} (h : w.context.registry.names.Pairwise (· < ·))
    (commands : List Command) :
    (w.run commands).context.registry.names.Pairwise (· < ·) ∧
      ∀ name, name ∈ (w.run commands).context.registry.names ↔
        name ∈ w.context.registry.names ∨ ∃ p : Pseudo, .register name @p ∈ commands := by
  induction commands using List.reverseRecOn with
  | nil => exact ⟨h, fun name => by simp [run]⟩
  | append_singleton commands c ih =>
    obtain ⟨hsorted, hmem⟩ := ih
    rw [run_concat, registry_execute]
    cases c with
    | register other p =>
      refine ⟨Registry.pairwise_names_insert hsorted other @p, fun name => ?_⟩
      refine Registry.mem_names_insert.trans ?_
      have hnew : (∃ p' : Pseudo, .register name @p' ∈ commands ++ [.register other @p]) ↔
          (∃ p' : Pseudo, .register name @p' ∈ commands) ∨ name = other := by
        simp only [List.mem_append, List.mem_singleton, exists_or, Command.register.injEq]
        simp
      rw [hmem name, hnew, or_comm, or_assoc]
    | _ => exact ⟨hsorted, fun name => (hmem name).trans (by simp)⟩

/-- **Configurations over whole runs.** After any run of commands on a new workspace each token of
the template has the value that was last given to it since the last reset, and its built-in value if
none was. The names are in strict order, and are those of the built-in pseudo-selectors and those
under which something has been registered. A name stands for what was last registered under it, and
for what is built in if nothing was; taking a selector apart looks up its occurrences in this way,
with a notice in place of each that is unknown. And a command that asks something changes neither
the template nor the registry nor whether provenance is recorded, whether it fails or not.

**Proof sketch.** A command changes the template by a patch or a reset and the registry by
registering, and in no other way (`context_execute`). So tokens and names follow the commands that
give them something, and the last of these counts (`Follows.run_eq_iff`). -/
theorem configuration_run_new (d : Document) (recording : Bool) (commands : List Command) :
    let w := (Workspace.new d recording).run commands
    (∀ k v, w.context.template.token k = v ↔
        Command.LastSets commands k v ∨
          (∀ v', ¬ Command.LastSets commands k v') ∧ Template.default.token k = v) ∧
      (w.context.registry.names.Pairwise (· < ·) ∧
        ∀ name, name ∈ w.context.registry.names ↔
          name ∈ Pseudo.builtins.map Prod.fst ∨ ∃ p : Pseudo, .register name @p ∈ commands) ∧
      (∀ name (p : Pseudo), w.context.registry.find? name = some @p ↔
        Command.LastRegisters commands name @p ∨
          (∀ p' : Pseudo, ¬ Command.LastRegisters commands name @p') ∧
            (name, @p) ∈ Pseudo.builtins) ∧
      (∀ s, w.context.engine.TakesApart s (w.context.template.base s)
        ((w.context.template.occurrences s).map w.context.template.lookup)) ∧
      ∀ c, c.Asks → (w.execute c).1.context.template = w.context.template ∧
        (w.execute c).1.context.registry = w.context.registry ∧
        (w.execute c).1.context.recording = w.context.recording := by
  intro w
  obtain ⟨hsorted, hmem⟩ := Registry.names_standard
  obtain ⟨hrunSorted, hrunMem⟩ := names_run (w := Workspace.new d recording) hsorted commands
  have hparse := w.context.engine.takesApart_occurrences
  refine ⟨?tokens, ⟨hrunSorted, ?names⟩, ?registered, hparse, ?asks⟩
  case tokens =>
    intro k v
    refine ((follows_token k).run_eq_iff rfl commands).trans (or_congr_left ?_)
    exact exists_eq_right
  case names => exact fun name => (hrunMem name).trans (or_congr_left (hmem name))
  case registered =>
    intro name p
    refine ((follows_registered name).run_eq_iff rfl commands).trans (or_congr ?_ ?_)
    · simp only [Option.some.injEq]
      exact exists_eq_right
    · exact and_congr_right fun _ => Registry.find?_standard_eq_some_iff
  case asks =>
    intro c hc
    obtain ⟨records, h⟩ := configuration_execute_of_asks (w := w) hc
    rw [h]
    exact ⟨rfl, rfl, rfl⟩

/-- A token that is given twice with a reset in between, the second time by a data text, and a
built-in name that stands for something else; a data text that ends too early and a query that fails
change nothing. The document has one element, which the query is asked from. -/
theorem configuration_run_new_reset :
    let commands : List Command := [.configure ⟨some [':'], none, none⟩, .reset,
      .configureJson ['[', '"', '!', '"', ']'], .register "exact".toList Pseudo.contains,
      .configureJson ['[', '"', '?', '"'], .query 1 [['>']]]
    let d : Document := ⟨#[⟨0, .element ['a'] []⟩], by decide⟩
    let w := (Workspace.new d false).run commands
    Document.ofMarkup "<a/>".toList = .ok d ∧
      (Command.LastSets commands .lead ['!'] ∧ w.context.template.token .lead = ['!']) ∧
      (Command.LastRegisters commands "exact".toList Pseudo.contains ∧
        w.context.registry.find? "exact".toList = some @Pseudo.contains) ∧
      (Command.query 1 [['>']]).Asks ∧
        (w.execute (.query 1 [['>']])).1.context.template = w.context.template := by
  intro commands d w
  have hsets : Command.LastSets commands .lead ['!'] := by
    refine ⟨commands.take 2, _, commands.drop 3, rfl, by decide +kernel, ?_⟩
    simp only [commands, List.drop, List.forall_mem_cons]
    exact ⟨⟨rfl, nofun⟩, ⟨by decide +kernel, nofun⟩, ⟨rfl, nofun⟩, nofun⟩
  have hregisters : Command.LastRegisters commands "exact".toList Pseudo.contains := by
    refine ⟨commands.take 3, _, commands.drop 4, rfl, rfl, ?_⟩
    simp only [commands, List.drop, List.forall_mem_cons]
    exact ⟨⟨rfl, nofun⟩, ⟨rfl, nofun⟩, nofun⟩
  obtain ⟨htokens, -, hnames, -, hasks⟩ := configuration_run_new d false commands
  have hquery : (Command.query 1 [['>']]).Asks := .query 1 [['>']]
  exact ⟨by decide +kernel, ⟨hsets, (htokens .lead ['!']).2 (.inl hsets)⟩,
    ⟨hregisters, (hnames _ Pseudo.contains).2 (.inl hregisters)⟩, hquery, (hasks _ hquery).1⟩

end Workspace

end TreeQuery
