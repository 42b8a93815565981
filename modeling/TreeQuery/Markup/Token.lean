import TreeQuery.Markup.Reference

/-!
# Tokens of markup

A marked-up text is a sequence of tags, raw texts, verbatim sections and asides (comments and
processing instructions). Which of them may follow one another is not looked at here.

## Main definitions

* `TreeQuery.Markup.Token` — a part of a marked-up text.
* `TreeQuery.Markup.token?` — the token at the beginning of a text.
* `TreeQuery.Markup.tokens` — all tokens of a text.
* `TreeQuery.Markup.declaration?` — the declaration in front of the tokens.
-/

namespace TreeQuery.Markup

open Text

/-- An attribute as written, with a raw value. -/
abbrev RawAttribute := QName × Text

/-- A part of a marked-up text. -/
inductive Token
  /-- A start tag; `closed` if it closes its element at once. -/
  | start (name : QName) (attributes : List RawAttribute) (closed : Bool)
  /-- An end tag. -/
  | stop (name : QName)
  /-- A raw text, with references. -/
  | text (raw : Text)
  /-- A verbatim section, without references. -/
  | verbatim (raw : Text)
  /-- A comment or a processing instruction. -/
  | aside
  deriving DecidableEq, Repr

/-! ## Asides and verbatim sections -/

/-- The characters, if they all may stand in markup. -/
def allowed (s : Text) : Except Problem Text :=
  match s.find? fun c => !isMarkupChar c with
  | some c => .error (.badCharacter c)
  | none => .ok s

/-- The text up to the first `close`, which is left out of both results. -/
def before? (close : Text) : Text → Except Problem (Text × Text)
  | [] => .error .endOfText
  | c :: s =>
    match after? close (c :: s) with
    | some rest => .ok ([], rest)
    | none =>
      if isMarkupChar c then (before? close s).map fun (inner, rest) => (c :: inner, rest)
      else .error (.badCharacter c)

/-- A comment whose opening has been read. Two hyphens in a row are allowed at its end only, and
no third one in front of them. -/
def comment? (s : Text) : Except Problem (Token × Text) :=
  match before? ['-', '-', '>'] s with
  | .error e => .error e
  | .ok (inner, rest) =>
    if occursIn ['-', '-'] inner || inner.getLast? == some '-' then .error .misplaced
    else .ok (.aside, rest)

/-- A processing instruction whose opening has been read. A declaration is none. -/
def instruction? (s : Text) : Except Problem (Token × Text) :=
  if (after? ['x', 'm', 'l', ' '] s).isSome then .error .misplaced
  else match name? s with
    | none => .error .badName
    | some (_, s) =>
      match before? ['?', '>'] (skipSpace s) with
      | .error e => .error e
      | .ok (_, rest) => .ok (.aside, rest)

/-- A verbatim section whose opening has been read. -/
def verbatim? (s : Text) : Except Problem (Token × Text) :=
  match before? [']', ']', '>'] s with
  | .error e => .error e
  | .ok (inner, rest) => .ok (.verbatim inner, rest)

/-! ## Tags and texts -/

/-- An equals sign with spaces around it. -/
def equals? (s : Text) : Except Problem Text :=
  match skipSpace s with
  | '=' :: rest => .ok (skipSpace rest)
  | _ => .error .misplaced

/-- A raw attribute value between two quotes of one kind. A less-than sign may not stand in
it. -/
def quotedRaw? (s : Text) : Except Problem (Text × Text) :=
  match s with
  | [] => .error .endOfText
  | quote :: s =>
    if quote = '"' ∨ quote = '\'' then
      let raw := s.takeWhile fun c => c != quote && c != '<'
      match s.dropWhile fun c => c != quote && c != '<' with
      | [] => .error .endOfText
      | c :: rest =>
        if c = quote then (allowed raw).map fun raw => (raw, rest) else .error .misplaced
    else .error .misplaced

/-- An attribute with its value. -/
def attribute? (s : Text) : Except Problem (RawAttribute × Text) :=
  match qname? s with
  | none => .error .badName
  | some (name, s) =>
    match equals? s with
    | .error e => .error e
    | .ok s => (quotedRaw? s).map fun (raw, rest) => ((name, raw), rest)

theorem length_of_equals? {s rest : Text} (h : equals? s = .ok rest) :
    rest.length < s.length := by
  have hs := length_skipSpace_le s
  unfold equals? at h
  split at h
  · rename_i r hr
    simp only [Except.ok.injEq] at h
    have := length_skipSpace_le r
    rw [hr, List.length_cons] at hs
    rw [← h]
    omega
  · simp at h

theorem length_of_quotedRaw? {s raw rest : Text} (h : quotedRaw? s = .ok (raw, rest)) :
    rest.length ≤ s.length := by
  unfold quotedRaw? at h
  split at h
  · simp at h
  · rename_i quote s
    split at h
    · simp only at h
      have hd := (List.dropWhile_sublist (fun c => c != quote && c != '<') (l := s)).length_le
      split at h
      · simp at h
      · rename_i c r hr
        rw [hr, List.length_cons] at hd
        split at h
        · unfold allowed at h
          split at h
          · simp [Except.map] at h
          · simp only [Except.map, Except.ok.injEq, Prod.mk.injEq] at h
            rw [← h.2, List.length_cons]
            omega
        · simp at h
    · simp at h

theorem length_of_attribute? {s rest : Text} {a : RawAttribute}
    (h : attribute? s = .ok (a, rest)) : rest.length < s.length := by
  unfold attribute? at h
  split at h
  · simp at h
  · rename_i name s₁ hn
    have h₁ := length_of_qname? hn
    split at h
    · simp at h
    · rename_i s₂ he
      have h₂ := length_of_equals? he
      cases hq : quotedRaw? s₂ with
      | error e => simp [hq, Except.map] at h
      | ok p =>
        obtain ⟨raw, r⟩ := p
        simp only [hq, Except.map, Except.ok.injEq, Prod.mk.injEq] at h
        have h₃ := length_of_quotedRaw? hq
        rw [← h.2]
        omega

/-- The attributes of a start tag and its end. Every attribute has spaces in front of it. -/
def attributes? (s : Text) : Except Problem (List RawAttribute × Bool × Text) :=
  match skipSpace s with
  | [] => .error .endOfText
  | '/' :: r =>
    match r with
    | '>' :: rest => .ok ([], true, rest)
    | _ => .error .misplaced
  | '>' :: rest => .ok ([], false, rest)
  | _ :: _ =>
    if s.head?.any isSpace then
      match _h : attribute? (skipSpace s) with
      | .error e => .error e
      | .ok (a, rest) =>
        (attributes? rest).map fun (as, closed, rest) => (a :: as, closed, rest)
    else .error .misplaced
termination_by s.length
decreasing_by
  have h₁ := length_of_attribute? ‹_›
  have h₂ := length_skipSpace_le s
  omega

/-- A start tag whose less-than sign has been read. -/
def startTag? (s : Text) : Except Problem (Token × Text) :=
  match qname? s with
  | none => .error .badName
  | some (name, s) =>
    (attributes? s).map fun (as, closed, rest) => (.start name as closed, rest)

/-- An end tag whose less-than sign and slash have been read. -/
def endTag? (s : Text) : Except Problem (Token × Text) :=
  match qname? s with
  | none => .error .badName
  | some (name, s) =>
    match skipSpace s with
    | '>' :: rest => .ok (.stop name, rest)
    | _ => .error .misplaced

/-- What begins with a less-than sign, which has been read. -/
def markup? (s : Text) : Except Problem (Token × Text) :=
  match s with
  | '!' :: s =>
    match after? ['-', '-'] s with
    | some s => comment? s
    | none =>
      match after? "[CDATA[".toList s with
      | some s => verbatim? s
      | none =>
        if (after? "DOCTYPE".toList s).isSome then .error .documentType else .error .misplaced
  | '?' :: s => instruction? s
  | '/' :: s => endTag? s
  | s => startTag? s

/-- The token at the beginning of a text that is not empty. A text ends in front of the next
less-than sign, and the end of a verbatim section may not stand in it. -/
def token? (c : Char) (s : Text) : Except Problem (Token × Text) :=
  if c = '<' then markup? s
  else
    let raw := c :: s.takeWhile (· != '<')
    if occursIn [']', ']', '>'] raw then .error .misplaced
    else (allowed raw).map fun raw => (.text raw, s.dropWhile (· != '<'))

/-! ## Reading uses up characters -/

theorem length_of_before? {close s inner rest : Text} (h : before? close s = .ok (inner, rest)) :
    rest.length ≤ s.length := by
  induction s generalizing inner with
  | nil => simp [before?] at h
  | cons c s ih =>
    unfold before? at h
    split at h
    · rename_i r hr
      simp only [Except.ok.injEq, Prod.mk.injEq] at h
      have := length_of_after? hr
      rw [← h.2]
      omega
    · split at h
      · cases hb : before? close s with
        | error e => simp [hb, Except.map] at h
        | ok p =>
          obtain ⟨i, r⟩ := p
          simp only [hb, Except.map, Except.ok.injEq, Prod.mk.injEq] at h
          obtain ⟨rfl, rfl⟩ := h
          exact Nat.le_succ_of_le (ih hb)
      · simp at h

theorem length_of_comment? {s rest : Text} {t : Token} (h : comment? s = .ok (t, rest)) :
    rest.length ≤ s.length := by
  unfold comment? at h
  split at h
  · simp at h
  · rename_i inner r hb
    split at h
    · simp at h
    · simp only [Except.ok.injEq, Prod.mk.injEq] at h
      exact h.2 ▸ length_of_before? hb

theorem length_of_instruction? {s rest : Text} {t : Token}
    (h : instruction? s = .ok (t, rest)) : rest.length ≤ s.length := by
  unfold instruction? at h
  split at h
  · simp at h
  · split at h
    · simp at h
    · rename_i n s₁ hn
      split at h
      · simp at h
      · rename_i inner r hb
        simp only [Except.ok.injEq, Prod.mk.injEq] at h
        have h₁ := length_of_name? hn
        have h₂ := length_skipSpace_le s₁
        have h₃ := length_of_before? hb
        rw [← h.2]
        omega

theorem length_of_verbatim? {s rest : Text} {t : Token} (h : verbatim? s = .ok (t, rest)) :
    rest.length ≤ s.length := by
  unfold verbatim? at h
  split at h
  · simp at h
  · rename_i inner r hb
    simp only [Except.ok.injEq, Prod.mk.injEq] at h
    exact h.2 ▸ length_of_before? hb

theorem length_of_attributes? {s rest : Text} {as : List RawAttribute} {closed : Bool}
    (h : attributes? s = .ok (as, closed, rest)) : rest.length ≤ s.length := by
  have hs := length_skipSpace_le s
  fun_induction attributes? s generalizing as closed with
  | case1 => simp at h
  | case2 s r hr =>
    simp only [Except.ok.injEq, Prod.mk.injEq] at h
    rw [hr] at hs
    simp only [List.length_cons] at hs
    rw [← h.2.2]
    omega
  | case3 => simp at h
  | case4 s r hr =>
    simp only [Except.ok.injEq, Prod.mk.injEq] at h
    rw [hr] at hs
    simp only [List.length_cons] at hs
    rw [← h.2.2]
    omega
  | case5 => simp at h
  | case6 s _ _ _ _ _ _ a r ha ih =>
    cases hb : attributes? r with
    | error e => simp [hb, Except.map] at h
    | ok p =>
      obtain ⟨bs, closed', r'⟩ := p
      simp only [hb, Except.map, Except.ok.injEq, Prod.mk.injEq] at h
      obtain ⟨rfl, rfl, rfl⟩ := h
      have h₁ := length_of_attribute? ha
      have h₂ := ih hb (length_skipSpace_le r)
      omega
  | case7 => simp at h

theorem length_of_startTag? {s rest : Text} {t : Token} (h : startTag? s = .ok (t, rest)) :
    rest.length ≤ s.length := by
  unfold startTag? at h
  split at h
  · simp at h
  · rename_i name s₁ hn
    cases ha : attributes? s₁ with
    | error e => simp [ha, Except.map] at h
    | ok p =>
      obtain ⟨as, closed, r⟩ := p
      simp only [ha, Except.map, Except.ok.injEq, Prod.mk.injEq] at h
      have h₁ := length_of_qname? hn
      have h₂ := length_of_attributes? ha
      rw [← h.2]
      omega

theorem length_of_endTag? {s rest : Text} {t : Token} (h : endTag? s = .ok (t, rest)) :
    rest.length ≤ s.length := by
  unfold endTag? at h
  split at h
  · simp at h
  · rename_i name s₁ hn
    have h₁ := length_of_qname? hn
    have h₂ := length_skipSpace_le s₁
    split at h
    · rename_i r hr
      simp only [Except.ok.injEq, Prod.mk.injEq] at h
      rw [hr, List.length_cons] at h₂
      rw [← h.2]
      omega
    · simp at h

theorem length_of_markup? {s rest : Text} {t : Token} (h : markup? s = .ok (t, rest)) :
    rest.length ≤ s.length := by
  unfold markup? at h
  split at h
  · rename_i s
    simp only [List.length_cons]
    split at h
    · rename_i r hr
      have h₁ := length_of_after? hr
      have h₂ := length_of_comment? h
      omega
    · split at h
      · rename_i r hr
        have h₁ := length_of_after? hr
        have h₂ := length_of_verbatim? h
        omega
      · split at h <;> simp at h
  · exact Nat.le_succ_of_le (length_of_instruction? h)
  · exact Nat.le_succ_of_le (length_of_endTag? h)
  · exact length_of_startTag? h

theorem length_of_token? {c : Char} {s rest : Text} {t : Token}
    (h : token? c s = .ok (t, rest)) : rest.length ≤ s.length := by
  unfold token? at h
  split at h
  · exact length_of_markup? h
  · simp only at h
    split at h
    · simp at h
    · unfold allowed at h
      split at h
      · simp [Except.map] at h
      · simp only [Except.map, Except.ok.injEq, Prod.mk.injEq] at h
        rw [← h.2]
        exact (List.dropWhile_sublist _).length_le

/-! ## Whole texts -/

/-- All tokens of a text. -/
def tokens (s : Text) : Except Problem (List Token) :=
  match s with
  | [] => .ok []
  | c :: s =>
    match _h : token? c s with
    | .error e => .error e
    | .ok (t, rest) => (tokens rest).map (t :: ·)
termination_by s.length
decreasing_by
  have := length_of_token? ‹_›
  simp
  omega

/-- An attribute of the declaration, and spaces or the end of the declaration behind it. -/
def declarationItem? (s : Text) : Except Problem Text :=
  match attribute? s with
  | .error e => .error e
  | .ok (_, rest) =>
    if rest.head?.any isSpace || (after? ['?', '>'] rest).isSome then .ok (skipSpace rest)
    else .error .misplaced

/-- The declaration in front of the tokens, whose opening with a space has been read: a version,
and perhaps an encoding and a word on outside declarations. Their values do not matter. -/
def declaration? (s : Text) : Except Problem Text := do
  let s := skipSpace s
  let version := "version".toList
  if (after? version s).isNone then throw .misplaced
  let s ← declarationItem? s
  let s ← if (after? "encoding".toList s).isSome then declarationItem? s else .ok s
  let s ← if (after? "standalone".toList s).isSome then (attribute? s).map Prod.snd else .ok s
  match after? ['?', '>'] (skipSpace s) with
  | some rest => return rest
  | none => throw .misplaced

/-- The tokens of a whole text. A byte order mark and a declaration may stand in front. -/
def tokensOfText (s : Text) : Except Problem (List Token) :=
  let s := (after? ['\ufeff'] s).getD s
  match after? "<?xml ".toList s with
  | none => tokens s
  | some s => declaration? s >>= tokens

end TreeQuery.Markup
