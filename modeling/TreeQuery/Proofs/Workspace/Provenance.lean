import Mathlib.Data.List.Permutation
import TreeQuery.Proofs.Engine.Union
import TreeQuery.Workspace

set_option relaxedAutoImplicit false
set_option autoImplicit false

/-!
# Where a node came from

What a workspace says about the provenance of a node is settled by the commands that have been
executed so far: the last command since the last clearing that recorded something for the node is
the one that counts. Few commands record anything. Wrapping a node with a selector always does;
the three queries do so for what they return, and only while recording is on. A command that fails
records nothing, nor does any other command, and nothing but clearing erases a record.

The matches of one query have different nodes, so that none of them takes back what another one has
recorded.

## Main definitions

* `TreeQuery.Command.Records` — a command records a selector for a node.
* `TreeQuery.Workspace.Undisturbed` — no command of a run records anything for a node or clears.
* `TreeQuery.Workspace.LastRecords` — the last recording of a run for a node.

## Main results

* `TreeQuery.Workspace.provenance_execute_eq_some_iff` — one command.
* `TreeQuery.Workspace.provenance_run_eq_some_iff` — a run from any workspace.
* `TreeQuery.Workspace.provenance_run_new` — a run from the beginning.
-/

namespace TreeQuery

/-! ## Recordings -/

/-- The selector `s` is recorded for the node `n` when the command is executed in `w`. -/
inductive Command.Records (w : Workspace) : Command → (n : NodeId) → (s : Text) → Prop
  /-- Wrapping a node with a selector, whether recording is on or off. -/
  | wrap (n : NodeId) (s : Text) : Records w (.wrap (some n) (some s)) n s
  /-- A query that returns a match while recording is on: the alternative that found the node. -/
  | query {root : NodeId} {alternatives : Alternatives} {m : Match}
      (hon : w.context.recording = true)
      (hfound : (w.context.engine.query w.document root alternatives).result = .ok (some m)) :
      Records w (.query root alternatives) m.node m.alternative
  /-- A query that returns several matches while recording is on: for each of them the alternative
  to which its node is attributed. -/
  | queryAll {root : NodeId} {alternatives : Alternatives} {greedy : Bool} {ms : List Match}
      {m : Match} (hon : w.context.recording = true)
      (hfound : (w.context.engine.queryAll w.document root alternatives greedy).result = .ok ms)
      (hm : m ∈ ms) : Records w (.queryAll root alternatives greedy) m.node m.alternative
  /-- A query upwards that returns a node while recording is on: all alternatives, joined. -/
  | closest {root n : NodeId} {alternatives : Alternatives} (hon : w.context.recording = true)
      (hfound : w.document.closest root alternatives.joined = .ok (some n)) :
      Records w (.closest root alternatives) n alternatives.joined

namespace Workspace

/-- The selector that is recorded for a node of the document. -/
def provenance (w : Workspace) (n : NodeId) : Option Text := w.context.provenance (w.handle n)

/-- No command of the run records anything for the node, and none clears the records. -/
def Undisturbed (n : NodeId) : Workspace → List Command → Prop
  | _, [] => True
  | w, c :: commands =>
    (c ≠ .clearProvenance ∧ ∀ s, ¬ c.Records w n s) ∧ Undisturbed n (w.execute c).1 commands

/-- Some command of the run records `s` for the node `n`, and after it there is neither a recording
for this node nor a clearing. -/
def LastRecords (w : Workspace) (commands : List Command) (n : NodeId) (s : Text) : Prop :=
  ∃ before c after, commands = before ++ c :: after ∧ c.Records (w.run before) n s ∧
    Undisturbed n ((w.run before).execute c).1 after

end Workspace

/-! ## Wrapping matches -/

namespace Context

lemma recording_wrap (c : Context) (h : Option Handle) (s : Option Text) :
    (c.wrap h s).recording = c.recording := by
  unfold wrap
  split <;> rfl

/-- Wrapping a match in front of others. -/
lemma get?_records_wrap (c : Context) (root : Handle) (m : Match) (n : NodeId) :
    (c.wrap (some (root.sibling m.node)) (c.recorded m.alternative)).records.get? n =
      if c.recording = true ∧ n = m.node then some m.alternative else c.records.get? n := by
  unfold wrap recorded
  by_cases hon : c.recording = true
  · rw [if_pos hon]
    exact (Table.get?_put m.node n m.alternative c.records).trans (by simp [hon])
  · rw [if_neg hon]
    simp [hon]

/-- Nodes that are not among the matches keep their records. -/
lemma get?_records_wrapAll_of_not_mem {ms : List Match} {n : NodeId}
    (hn : n ∉ ms.map (·.node)) (c : Context) (root : Handle) :
    (c.wrapAll root ms).records.get? n = c.records.get? n := by
  induction ms generalizing c with
  | nil => rfl
  | cons m ms ih =>
    rw [List.map_cons, List.mem_cons, not_or] at hn
    obtain ⟨hm, hms⟩ := hn
    rw [wrapAll, ih hms, get?_records_wrap, if_neg fun h => hm h.2]

/-- While recording is off no node gets a record. -/
lemma wrapAll_of_off {c : Context} (hoff : ¬ c.recording = true) (root : Handle)
    (ms : List Match) : c.wrapAll root ms = c := by
  induction ms with
  | nil => rfl
  | cons m ms ih =>
    have hwrap : c.wrap (some (root.sibling m.node)) (c.recorded m.alternative) = c := by
      rw [recorded, if_neg hoff]
      rfl
    rw [wrapAll, hwrap, ih]

/-- **While recording is on every match gets its alternative recorded**, as long as no two matches
have the same node. -/
lemma get?_records_wrapAll_of_mem {ms : List Match} (hnodup : (ms.map (·.node)).Nodup) {m : Match}
    (hm : m ∈ ms) {c : Context} (hon : c.recording = true) (root : Handle) :
    (c.wrapAll root ms).records.get? m.node = some m.alternative := by
  induction ms generalizing c with
  | nil => simp at hm
  | cons m' ms ih =>
    obtain ⟨hm', hnodup⟩ := List.nodup_cons.1 hnodup
    rw [wrapAll]
    rcases List.mem_cons.1 hm with rfl | hm
    · rw [get?_records_wrapAll_of_not_mem hm', get?_records_wrap, if_pos ⟨hon, rfl⟩]
    · exact ih hnodup hm ((recording_wrap c _ _).trans hon)

/-! ## What the queries wrap -/

variable {c : Context} {root : Handle} {alternatives : Alternatives} {greedy : Bool}

lemma context_query_of_ok {m : Option Match}
    (h : (c.engine.query root.document root.node alternatives).result = .ok m) :
    (c.query root alternatives).context = c.wrapAll root m.toList := by
  rw [query, h]
  cases m <;> rfl

lemma context_query_of_error {e : QueryError}
    (h : (c.engine.query root.document root.node alternatives).result = .error e) :
    (c.query root alternatives).context = c := by
  rw [query, h]

lemma context_queryAll_of_ok {ms : List Match}
    (h : (c.engine.queryAll root.document root.node alternatives greedy).result = .ok ms) :
    (c.queryAll root alternatives greedy).context = c.wrapAll root ms := by
  rw [queryAll, h]

lemma context_queryAll_of_error {e : QueryError}
    (h : (c.engine.queryAll root.document root.node alternatives greedy).result = .error e) :
    (c.queryAll root alternatives greedy).context = c := by
  rw [queryAll, h]

lemma context_closest_of_ok {n : Option NodeId}
    (h : root.document.closest root.node alternatives.joined = .ok n) :
    (c.closest root alternatives).context =
      c.wrapAll root (n.toList.map (⟨·, alternatives.joined⟩)) := by
  cases alternatives with
  | nil =>
    -- Without alternatives the joined text is empty, which is no native selector.
    have hempty : root.document.closest root.node (Alternatives.joined []) =
        .error ⟨[], .empty⟩ := rfl
    rw [hempty] at h
    simp at h
  | cons a alternatives =>
    rw [closest, List.isEmpty_cons, if_neg Bool.false_ne_true]
    dsimp only
    rw [h]
    cases n <;> rfl

lemma context_closest_of_error {e : Native.InvalidSelector}
    (h : root.document.closest root.node alternatives.joined = .error e) :
    (c.closest root alternatives).context = c := by
  rw [closest]
  split
  · rfl
  · dsimp only
    rw [h]
    rfl

end Context

/-! ## What a command records -/

/-- Apart from wrapping and clearing by hand, a command records what it returns: the matches `ms`,
no two of which have the same node. -/
structure Command.Wraps (w : Workspace) (c : Command) (ms : List Match) : Prop where
  nodup : (ms.map (·.node)).Nodup
  records_eq : ∃ root, (w.execute c).1.context.records = (w.context.wrapAll root ms).records
  records_iff : ∀ n s, c.Records w n s ↔ w.context.recording = true ∧ ⟨n, s⟩ ∈ ms

namespace Command

variable {w : Workspace} {c : Command}

/-- A command that leaves the records alone. -/
lemma wraps_nothing (h : (w.execute c).1.context.records = w.context.records)
    (hnone : ∀ n s, ¬ c.Records w n s) : c.Wraps w [] where
  nodup := List.nodup_nil
  records_eq := ⟨w.handle 0, h⟩
  records_iff n s := by simp [hnone]

/-- The query for the first match records that match. -/
lemma exists_wraps_query (w : Workspace) (root : NodeId) (alternatives : Alternatives) :
    ∃ ms, (Command.query root alternatives).Wraps w ms := by
  cases hfound : (w.context.engine.query w.document root alternatives).result with
  | error e =>
    refine ⟨[], wraps_nothing ?_ fun n s h => ?_⟩
    · exact congrArg Context.records (Context.context_query_of_error hfound)
    · cases h with
      | query hon hm => simp [hfound] at hm
  | ok m =>
    refine ⟨m.toList, ?_, ⟨w.handle root, ?_⟩, fun n s => ⟨?_, ?_⟩⟩
    · cases m <;> simp
    · exact congrArg Context.records (Context.context_query_of_ok hfound)
    · intro h
      cases h with
      | query hon hm =>
        rw [hfound, Except.ok.injEq] at hm
        exact ⟨hon, by simp [hm]⟩
    · rintro ⟨hon, hm⟩
      have hm : m = some ⟨n, s⟩ := Option.mem_toList.1 hm
      exact .query hon (hm ▸ hfound)

/-- The query for all matches records all of them. -/
lemma exists_wraps_queryAll (w : Workspace) (root : NodeId) (alternatives : Alternatives)
    (greedy : Bool) : ∃ ms, (Command.queryAll root alternatives greedy).Wraps w ms := by
  cases hfound : (w.context.engine.queryAll w.document root alternatives greedy).result with
  | error e =>
    refine ⟨[], wraps_nothing ?_ fun n s h => ?_⟩
    · exact congrArg Context.records (Context.context_queryAll_of_error hfound)
    · cases h with
      | queryAll hon hms hm => simp [hfound] at hms
  | ok ms =>
    refine ⟨ms, (Engine.isUnionBeyond_of_collect hfound).nodup, ⟨w.handle root, ?_⟩,
      fun n s => ⟨?_, ?_⟩⟩
    · exact congrArg Context.records (Context.context_queryAll_of_ok hfound)
    · intro h
      cases h with
      | queryAll hon hms hm =>
        rw [hfound, Except.ok.injEq] at hms
        exact ⟨hon, hms ▸ hm⟩
    · rintro ⟨hon, hm⟩
      exact .queryAll hon hfound hm

/-- The query upwards records the node that it returns, with all alternatives. -/
lemma exists_wraps_closest (w : Workspace) (root : NodeId) (alternatives : Alternatives) :
    ∃ ms, (Command.closest root alternatives).Wraps w ms := by
  cases hfound : w.document.closest root alternatives.joined with
  | error e =>
    refine ⟨[], wraps_nothing ?_ fun n s h => ?_⟩
    · exact congrArg Context.records (Context.context_closest_of_error hfound)
    · cases h with
      | closest hon hn => simp [hfound] at hn
  | ok found =>
    refine ⟨found.toList.map (⟨·, alternatives.joined⟩), ?_, ⟨w.handle root, ?_⟩,
      fun n s => ⟨?_, ?_⟩⟩
    · cases found <;> simp
    · exact congrArg Context.records (Context.context_closest_of_ok hfound)
    · intro h
      cases h with
      | closest hon hn =>
        rw [hfound, Except.ok.injEq] at hn
        exact ⟨hon, by simp [hn]⟩
    · rintro ⟨hon, hm⟩
      obtain ⟨n', hn', hmatch⟩ := List.mem_map.1 hm
      obtain ⟨rfl, rfl⟩ := Match.mk.inj hmatch
      have hn' : found = some n' := Option.mem_toList.1 hn'
      exact .closest hon (hn' ▸ hfound)

/-- Every command but wrapping and clearing by hand records what it returns, if anything. -/
lemma exists_wraps (w : Workspace) (hclear : c ≠ .clearProvenance)
    (hwrap : ∀ n s, c ≠ .wrap (some n) (some s)) : ∃ ms, c.Wraps w ms := by
  cases c with
  | configure p => exact ⟨[], wraps_nothing rfl nofun⟩
  | configureJson s =>
    refine ⟨[], wraps_nothing ?_ nofun⟩
    simp only [Workspace.execute, Context.configureJson]
    cases Template.Patch.ofJson s <;> rfl
  | reset => exact ⟨[], wraps_nothing rfl nofun⟩
  | setRecording on => exact ⟨[], wraps_nothing rfl nofun⟩
  | register name pseudo => exact ⟨[], wraps_nothing rfl nofun⟩
  | query root alternatives => exact exists_wraps_query w root alternatives
  | queryAll root alternatives greedy => exact exists_wraps_queryAll w root alternatives greedy
  | closest root alternatives => exact exists_wraps_closest w root alternatives
  | settle node r => exact ⟨[], wraps_nothing rfl nofun⟩
  | wrap node s =>
    cases node with
    | none => exact ⟨[], wraps_nothing rfl nofun⟩
    | some n =>
      cases s with
      | none => exact ⟨[], wraps_nothing rfl nofun⟩
      | some s => exact absurd rfl (hwrap n s)
  | clearProvenance => exact absurd rfl hclear
  | assign node name value => exact ⟨[], wraps_nothing rfl nofun⟩

end Command

/-! ## One command -/

namespace Workspace

variable {w : Workspace} {c : Command} {n : NodeId} {s : Text}

/-- Wrapping a node with a selector by hand: the node has this selector recorded, the others have
what they had. -/
lemma provenance_execute_wrap (w : Workspace) (n m : NodeId) (s : Text) :
    (w.execute (.wrap (some n) (some s))).1.provenance m =
      if m = n then some s else w.provenance m :=
  Table.get?_put n m s w.context.records

/-- After clearing no node has a selector recorded. -/
lemma provenance_execute_clear (w : Workspace) (n : NodeId) :
    (w.execute .clearProvenance).1.provenance n = none := rfl

/-- **What a command records is there after it.** -/
theorem provenance_execute_of_records (h : c.Records w n s) :
    (w.execute c).1.provenance n = some s := by
  by_cases hwrap : ∃ n' s', c = .wrap (some n') (some s')
  · obtain ⟨n', s', rfl⟩ := hwrap
    cases h with
    | wrap => rw [provenance_execute_wrap, if_pos rfl]
  · push Not at hwrap
    have hclear : c ≠ .clearProvenance := by
      rintro rfl
      cases h
    obtain ⟨ms, hms⟩ := c.exists_wraps w hclear hwrap
    obtain ⟨hon, hm⟩ := (hms.records_iff n s).1 h
    obtain ⟨root, hrecords⟩ := hms.records_eq
    show (w.execute c).1.context.records.get? n = some s
    rw [hrecords]
    exact Context.get?_records_wrapAll_of_mem hms.nodup hm hon root

/-- **What a command neither records nor clears stays as it was.** -/
theorem provenance_execute_of_not_records (hclear : c ≠ .clearProvenance)
    (h : ∀ s, ¬ c.Records w n s) : (w.execute c).1.provenance n = w.provenance n := by
  by_cases hwrap : ∃ n' s', c = .wrap (some n') (some s')
  · obtain ⟨n', s', rfl⟩ := hwrap
    have hne : n ≠ n' := by
      rintro rfl
      exact h s' (.wrap n s')
    rw [provenance_execute_wrap, if_neg hne]
  · push Not at hwrap
    obtain ⟨ms, hms⟩ := c.exists_wraps w hclear hwrap
    obtain ⟨root, hrecords⟩ := hms.records_eq
    show (w.execute c).1.context.records.get? n = w.context.records.get? n
    rw [hrecords]
    by_cases hon : w.context.recording = true
    · refine Context.get?_records_wrapAll_of_not_mem (fun hn => ?_) w.context root
      obtain ⟨m, hm, rfl⟩ := List.mem_map.1 hn
      exact h m.alternative ((hms.records_iff _ _).2 ⟨hon, hm⟩)
    · rw [Context.wrapAll_of_off hon]

/-- **One command**: a node has a selector recorded after it exactly if the command recorded it, or
if it was recorded before and the command has neither recorded anything for the node nor cleared
the records. -/
theorem provenance_execute_eq_some_iff :
    (w.execute c).1.provenance n = some s ↔
      c.Records w n s ∨
        (c ≠ .clearProvenance ∧ ∀ s', ¬ c.Records w n s') ∧ w.provenance n = some s := by
  constructor
  · intro h
    by_cases hrecords : ∃ s', c.Records w n s'
    · obtain ⟨s', hs'⟩ := hrecords
      rw [provenance_execute_of_records hs', Option.some.injEq] at h
      exact .inl (h ▸ hs')
    · push Not at hrecords
      have hclear : c ≠ .clearProvenance := by
        rintro rfl
        rw [provenance_execute_clear] at h
        simp at h
      rw [provenance_execute_of_not_records hclear hrecords] at h
      exact .inr ⟨⟨hclear, hrecords⟩, h⟩
  · rintro (h | ⟨⟨hclear, hnone⟩, h⟩)
    · exact provenance_execute_of_records h
    · rw [provenance_execute_of_not_records hclear hnone, h]

/-! ## A run -/

lemma not_lastRecords_nil : ¬ w.LastRecords [] n s := by
  rintro ⟨before, c, after, h, -⟩
  simp at h

/-- The last recording of a run is made by its first command, or by one of the others. -/
lemma lastRecords_cons {commands : List Command} :
    w.LastRecords (c :: commands) n s ↔
      c.Records w n s ∧ Undisturbed n (w.execute c).1 commands ∨
        (w.execute c).1.LastRecords commands n s := by
  constructor
  · rintro ⟨before, c', after, h, hrecords, hafter⟩
    cases before with
    | nil =>
      obtain ⟨rfl, rfl⟩ := List.cons.inj h
      exact .inl ⟨hrecords, hafter⟩
    | cons b before =>
      obtain ⟨rfl, rfl⟩ := List.cons.inj h
      exact .inr ⟨before, c', after, rfl, hrecords, hafter⟩
  · rintro (⟨hrecords, hafter⟩ | ⟨before, c', after, rfl, hrecords, hafter⟩)
    · exact ⟨[], c, commands, rfl, hrecords, hafter⟩
    · exact ⟨c :: before, c', after, rfl, hrecords, hafter⟩

/-- **A run from any workspace**: a node has a selector recorded after it exactly if this was the
last recording for the node since the last clearing, or if the selector was recorded before and no
command of the run has recorded anything for the node or cleared the records.

**Proof sketch.** By induction on the run, each step being `provenance_execute_eq_some_iff`. -/
theorem provenance_run_eq_some_iff {commands : List Command} :
    (w.run commands).provenance n = some s ↔
      w.LastRecords commands n s ∨ Undisturbed n w commands ∧ w.provenance n = some s := by
  induction commands generalizing w with
  | nil =>
    have hrun : w.run [] = w := rfl
    simp [hrun, not_lastRecords_nil, Undisturbed]
  | cons c commands ih =>
    have hrun : w.run (c :: commands) = (w.execute c).1.run commands := rfl
    rw [hrun, ih, provenance_execute_eq_some_iff, lastRecords_cons, Undisturbed]
    constructor
    · rintro (hlast | ⟨hrest, hrecords | ⟨hstep, hbefore⟩⟩)
      · exact .inl (.inr hlast)
      · exact .inl (.inl ⟨hrecords, hrest⟩)
      · exact .inr ⟨⟨hstep, hrest⟩, hbefore⟩
    · rintro ((⟨hrecords, hrest⟩ | hlast) | ⟨⟨hstep, hrest⟩, hbefore⟩)
      · exact .inr ⟨hrest, .inl hrecords⟩
      · exact .inl hlast
      · exact .inr ⟨hrest, .inr ⟨hstep, hbefore⟩⟩

/-- **Provenance over whole runs.** After any run of commands on a new workspace, with recording on
or off at its beginning, a node has the selector recorded that was recorded last for it since the
records were last cleared, and none if there was no such recording. So immediately after a query for
all matches, while recording is on, every node that it returns has the alternative recorded to which
the query has attributed it.

**Proof sketch.** In a new workspace nothing is recorded, so only the first case of
`provenance_run_eq_some_iff` is left. A query for all matches records each of them, and they have
different nodes. -/
theorem provenance_run_new (d : Document) (recording : Bool) (commands : List Command) :
    let w := (Workspace.new d recording).run commands
    (∀ n s, w.provenance n = some s ↔ (Workspace.new d recording).LastRecords commands n s) ∧
      ∀ root alternatives greedy ms, w.context.recording = true →
        (w.context.engine.queryAll w.document root alternatives greedy).result = .ok ms →
        (w.execute (.queryAll root alternatives greedy)).2.1 = .nodes (ms.map (·.node)) ∧
          ∀ m ∈ ms, (w.execute (.queryAll root alternatives greedy)).1.provenance m.node =
            some m.alternative := by
  intro w
  constructor
  · intro n s
    have hnew : (Workspace.new d recording).provenance n = none := rfl
    rw [provenance_run_eq_some_iff, hnew]
    simp
  · intro root alternatives greedy ms hon hfound
    constructor
    · have hresult : (w.context.queryAll (w.handle root) alternatives greedy).eval.result =
          .ok (ms.map fun m => (w.handle root).sibling m.node) := by
        rw [Context.queryAll, Eval.result_map]
        exact congrArg (Except.map _) hfound
      have hanswer : (w.execute (.queryAll root alternatives greedy)).2.1 =
          answer (fun hs => .nodes (hs.map (·.node)))
            (w.context.queryAll (w.handle root) alternatives greedy).eval := rfl
      rw [hanswer, answer, hresult]
      simp [Handle.sibling, Function.comp_def]
    · intro m hm
      exact provenance_execute_of_records (.queryAll hon hfound hm)

/-- A record that is cleared and made again while recording is off, and two alternatives of which
the second also finds what the first has found. -/
theorem provenance_run_new_overlapping :
    let d : Document := ⟨#[⟨0, .element ['r'] []⟩, ⟨1, .element ['a'] []⟩], by decide⟩
    let commands : List Command := [.wrap (some 1) (some ['x']), .clearProvenance,
      .wrap (some 1) (some ['y']), .setRecording true]
    let inner : Text := ['*', '>', '*']
    let w := (Workspace.new d false).run commands
    (Workspace.new d false).LastRecords commands 1 ['y'] ∧ w.context.recording = true ∧
      (w.context.engine.queryAll w.document 0 [inner, ['*']] true).result =
        .ok [⟨2, inner⟩, ⟨1, ['*']⟩] ∧
      (w.execute (.queryAll 0 [inner, ['*']] true)).1.provenance 2 = some inner ∧
      (w.execute (.queryAll 0 [inner, ['*']] true)).1.provenance 1 = some ['*'] := by
  intro d commands inner w
  have hon : w.context.recording = true := rfl
  have hw : w.provenance 1 = some ['y'] := rfl
  have hfound : (w.context.engine.queryAll w.document 0 [inner, ['*']] true).result =
      .ok [⟨2, inner⟩, ⟨1, ['*']⟩] := by
    show (Engine.queryAll ⟨.default, .standard⟩ d 0 [inner, ['*']] true).result = _
    unfold inner
    cbv
  obtain ⟨hlast, hquery⟩ := provenance_run_new d false commands
  have hrecorded := (hquery 0 [inner, ['*']] true _ hon hfound).2
  exact ⟨(hlast 1 ['y']).1 hw, hon, hfound, hrecorded ⟨2, inner⟩ (by simp),
    hrecorded ⟨1, ['*']⟩ (by simp)⟩

end Workspace

end TreeQuery
