import ModuleKeeper.Proofs.Scanning

/-!
# The tokens of a document that cannot be read to its end

The lexer hands out tokens until it stops, and the last token is then the sign of the
trouble that stopped it.  That trouble is one that the text explains, or it is
what makes the rest of the document unreadable.  It is the only sign of trouble among
the tokens: whatever a step finds is a token of another kind.

## Main results

* `runs_take`, `runs_token`, `comes_step`: a step keeps the lexer sane, or it stops for a
  reason that is in the text.
* `explains_of_broken_mem_ofText`: the trouble that tokens end with.
-/

namespace ModuleKeeper.Yaml

namespace Lexer

variable {cs : List CodePoint} {l : Lexer}

/-- The lexer stands in the text, and no token so far is the sign of trouble. -/
structure Sane (cs : List CodePoint) (l : Lexer) : Prop where
  rest : l.cursor.rest <:+ cs
  unbroken : ∀ token ∈ l.tokens, token.isBroken = false

/-- The lexer goes on, or it stops for a reason that is in the text. -/
abbrev Runs (cs : List CodePoint) (outcome : Except Stop Lexer) : Prop :=
  Comes (fun s => Explains cs s.trouble) (Sane cs) outcome

theorem runs_stop (c : Cursor) : Runs cs (c.stop .malformed) := .inl Trouble.foreseen_malformed

/-! ## What leaves the lexer sane -/

theorem Sane.push (h : Sane cs l) {token : Token} (ht : token.isBroken = false) :
    Sane cs (l.push token) := by
  refine ⟨h.rest, ?_⟩
  exact List.forall_mem_cons.2 ⟨ht, h.unbroken⟩

theorem Sane.insert (h : Sane cs l) (place : Nat) {token : Token} (ht : token.isBroken = false) :
    Sane cs (l.insert place token) := by
  refine ⟨h.rest, fun u hu => ?_⟩
  rcases List.mem_append.1 hu with hu | hu
  · exact h.unbroken u (List.mem_of_mem_take hu)
  · rcases List.mem_cons.1 hu with rfl | hu
    · exact ht
    · exact h.unbroken u (List.mem_of_mem_drop hu)

theorem Sane.skip (h : Sane cs l) (n : Nat) : Sane cs (l.skip n) :=
  ⟨(l.cursor.skip_suffix n).trans h.rest, h.unbroken⟩

theorem Sane.allowKey (h : Sane cs l) (allowed : Bool) : Sane cs (l.allowKey allowed) :=
  ⟨h.rest, h.unbroken⟩

theorem Sane.forget (h : Sane cs l) : Sane cs l.forget := ⟨h.rest, h.unbroken⟩

theorem Sane.enter (h : Sane cs l) (column : Nat) : Sane cs (l.enter column) :=
  ⟨h.rest, h.unbroken⟩

theorem Sane.openBlock (h : Sane cs l) {token : Token} (ht : token.isBroken = false) :
    Sane cs (l.openBlock token) := by
  unfold Lexer.openBlock
  split
  · exact (h.enter _).push ht
  · exact h

theorem Sane.closeFrom (column : Int) (outer : List Int) :
    ∀ {l : Lexer}, Sane cs l → Sane cs (closeFrom column outer l) := by
  induction outer with
  | nil => exact fun h => h
  | cons o outer ih =>
      intro l h
      unfold Lexer.closeFrom
      split
      · have hpush : Sane cs (l.push .blockEnd) := h.push rfl
        exact ih ⟨hpush.rest, hpush.unbroken⟩
      · exact h

theorem Sane.close (h : Sane cs l) (column : Int) : Sane cs (l.close column) := by
  unfold Lexer.close
  split
  · exact Sane.closeFrom column l.outer h
  · exact h

theorem Sane.toToken (limit : Nat) : ∀ {l : Lexer}, Sane cs l → Sane cs (toToken limit l) := by
  induction limit with
  | zero => exact fun h => h
  | succ limit ih =>
      intro l h
      have hskip := (l.cursor.skipSpaces.skipComment_suffix.trans
        l.cursor.skipSpaces_suffix).trans h.rest
      unfold Lexer.toToken
      dsimp only
      split
      · rename_i b d hbreak
        exact ih ⟨(Cursor.lineBreak?_suffix hbreak).trans hskip, h.unbroken⟩
      · exact ⟨hskip, h.unbroken⟩

theorem Sane.lookAhead (h : Sane cs l) : Sane cs l.lookAhead := by
  unfold Lexer.lookAhead
  dsimp only
  split
  · refine ⟨?_, h.unbroken⟩
    show l.cursor.lookForSeparator.rest <:+ cs
    rw [l.cursor.lookForSeparator_rest]
    exact h.rest
  · split
    · exact ⟨h.rest, h.unbroken⟩
    · exact h

theorem sane_start (cs : List CodePoint) : Sane cs (start cs).skipMark := by
  have hstart : Sane cs (start cs) :=
    ⟨List.suffix_refl _, fun _ hmem => absurd hmem List.not_mem_nil⟩
  unfold skipMark
  split
  · exact hstart.skip 1
  · exact hstart

/-! ## Steps -/

theorem runs_dropStale (h : Sane cs l) : Runs cs l.dropStale := by
  unfold dropStale
  split
  · exact runs_stop _
  · exact ⟨h.rest, h.unbroken⟩

theorem runs_dropCandidate (h : Sane cs l) : Runs cs l.dropCandidate := by
  unfold dropCandidate
  split
  · split
    · exact runs_stop _
    · exact h.forget
  · exact h

theorem runs_remember (h : Sane cs l) : Runs cs l.remember := by
  unfold remember
  split
  · exact (runs_dropCandidate h).map fun k hk => ⟨hk.rest, hk.unbroken⟩
  · exact h

/-- A scan from where the lexer stands gives it a token, or stops it. -/
theorem runs_take (h : Sane cs l) {found : Scan Token}
    (hfound : Finds (fun s => Explains l.cursor.rest s.trouble) l.cursor found) :
    Runs cs (l.take found) := by
  refine (hfound.imp (fun s hs => hs.of_suffix h.rest) fun _ => id).map ?_
  intro r hr
  exact ⟨hr.2.trans h.rest, (h.push hr.1).unbroken⟩

theorem runs_leaveBlocks (h : Sane cs l) : Runs cs l.leaveBlocks :=
  (runs_dropCandidate (h.close (-1))).map fun _ hk => hk.allowKey false

theorem runs_openBracket (h : Sane cs l) {token : Token} (ht : token.isBroken = false) :
    Runs cs (l.openBracket token) := by
  refine (runs_remember h).map fun k hk => ?_
  have hflow : Sane cs { k with flow := k.flow + 1, keyAllowed := true } := ⟨hk.rest, hk.unbroken⟩
  exact (hflow.skip 1).push ht

theorem runs_closeBracket (h : Sane cs l) {token : Token} (ht : token.isBroken = false) :
    Runs cs (l.closeBracket token) := by
  refine (runs_dropCandidate h).map fun k hk => ?_
  have hflow : Sane cs { k with flow := k.flow - 1, keyAllowed := false } := ⟨hk.rest, hk.unbroken⟩
  exact (hflow.skip 1).push ht

theorem runs_comma (h : Sane cs l) : Runs cs l.comma :=
  (runs_dropCandidate (h.allowKey true)).map fun _ hk => (hk.skip 1).push rfl

theorem runs_blockMark (h : Sane cs l) {opening mark : Token} (allowed : Bool)
    (hopening : opening.isBroken = false) (hmark : mark.isBroken = false) :
    Runs cs (l.blockMark opening mark allowed) := by
  unfold blockMark
  split
  · exact runs_stop _
  · have hopen : Sane cs (if l.flow = 0 then l.openBlock opening else l) := by
      split
      · exact h.openBlock hopening
      · exact h
    exact (runs_dropCandidate (hopen.allowKey allowed)).map fun _ hk => (hk.skip 1).push hmark

theorem runs_colon (h : Sane cs l) : Runs cs l.colon := by
  unfold colon
  split
  · rename_i k _
    have hkey : Sane cs (l.forget.insert k.place .key) := h.forget.insert _ rfl
    dsimp only
    refine Sane.push (.skip (.allowKey ?_ false) 1) rfl
    split
    · exact (hkey.enter _).insert _ rfl
    · exact hkey
  · exact runs_blockMark h _ rfl rfl

/-- A token that may be a key is found where the lexer stands. -/
theorem runs_keyLike (h : Sane cs l) {found : Lexer → Scan Token}
    (hfound : ∀ k : Lexer, Finds (fun s => Explains k.cursor.rest s.trouble) k.cursor (found k)) :
    Runs cs (l.keyLike found) :=
  (runs_remember h).bind fun k hk => runs_take (hk.allowKey false) (hfound k)

theorem runs_blockScalar (h : Sane cs l) (isFolded : Bool) (limit : Nat) :
    Runs cs (l.blockScalar isFolded limit) := by
  refine (runs_dropCandidate (h.allowKey true)).bind fun k hk => runs_take hk ?_
  have hscalar := (scans_blockAt isFolded k.indent limit k.cursor.next).of_suffix
    k.cursor.next_suffix
  exact (hscalar.imp (fun _ => Explains.of_foreseen) fun _ => id).map fun r hr => ⟨rfl, hr⟩

theorem runs_plainScalar (h : Sane cs l) (limit : Nat) : Runs cs (l.plainScalar limit) := by
  refine (runs_remember h).map fun k hk => ?_
  have hpush : Sane cs
      (k.push (.scalar (plainAt (k.flow != 0) (k.indent + 1) limit k.cursor).text true)) :=
    hk.push rfl
  exact ⟨(plainAt_suffix _ _ limit k.cursor).trans hk.rest, hpush.unbroken⟩

/-- What a scan behind the mark here finds is found here. -/
theorem finds_of_scans {α : Type} {c : Cursor} {scan : Scan α} (token : α → Token)
    (h : Scans (fun s => Explains c.next.rest s.trouble) c.next scan)
    (ht : ∀ a, (token a).isBroken = false) :
    Finds (fun s => Explains c.rest s.trouble) c (scan.map fun r => (token r.1, r.2)) :=
  (explains_of_suffix h c.next_suffix).map fun r hr => ⟨ht r.1, hr⟩

theorem runs_token (h : Sane cs l) (limit : Nat) : Runs cs (l.token limit) := by
  have hahead := h.lookAhead
  have hname : ∀ c : Cursor, Scans (fun s => Explains c.rest s.trouble) c (nameAt c) := fun c =>
    (scans_nameAt c).imp (fun _ => Explains.of_foreseen) fun _ => id
  have hdirective : Runs cs
      (l.lookAhead.leaveBlocks.bind fun k => k.take (directiveAt limit k.cursor.next)) := by
    refine (runs_leaveBlocks hahead).bind fun k hk => runs_take hk ?_
    exact ((finds_directiveAt limit k.cursor.next).of_suffix k.cursor.next_suffix).imp
      (fun _ => Explains.of_foreseen) fun _ => id
  have hseparator : ∀ token : Token, token.isBroken = false →
      Runs cs (l.lookAhead.leaveBlocks.map fun k => (k.skip 3).push token) := fun token ht =>
    (runs_leaveBlocks hahead).map fun k hk => (hk.skip 3).push ht
  unfold token
  generalize l.lookAhead = k at hahead hdirective hseparator ⊢
  have hquoted : ∀ quote, Runs cs (k.keyLike fun k =>
      (quotedFrom quote [] limit k.cursor.next).map fun r => (.scalar r.1 false, r.2)) :=
    fun quote => runs_keyLike hahead fun k =>
      finds_of_scans (.scalar · false) (scans_quotedFrom quote [] limit _) fun _ => rfl
  refine .ite hdirective ?_
  refine .ite (hseparator .documentStart rfl) (.ite (hseparator .documentEnd rfl) ?_)
  refine .ite (runs_openBracket hahead rfl) (.ite (runs_openBracket hahead rfl) ?_)
  refine .ite (runs_closeBracket hahead rfl) (.ite (runs_closeBracket hahead rfl) ?_)
  refine .ite (runs_comma hahead) ?_
  refine .ite (runs_blockMark hahead true rfl rfl) ?_
  refine .ite (runs_blockMark hahead _ rfl rfl) ?_
  refine .ite (runs_colon hahead) ?_
  refine .ite (runs_keyLike hahead fun k => finds_of_scans .reference (hname _) fun _ => rfl) ?_
  refine .ite (runs_keyLike hahead fun k => finds_of_scans .anchor (hname _) fun _ => rfl) ?_
  refine .ite (runs_keyLike hahead fun k => (finds_tagAt limit k.cursor).imp
    (fun _ => Explains.of_foreseen) fun _ => id) ?_
  refine .ite (runs_blockScalar hahead false limit) (.ite (runs_blockScalar hahead true limit) ?_)
  exact .ite (hquoted _) (.ite (runs_plainScalar hahead limit) (runs_stop _))

theorem comes_step (h : Sane cs l) (limit : Nat) :
    Comes (fun s => Explains cs s.trouble) (fun r : Bool × Lexer => Sane cs r.2)
      (l.step limit) := by
  unfold step
  refine (runs_dropStale (h.toToken limit)).bind fun k hk => ?_
  have hclose := hk.close (k.cursor.column : Int)
  dsimp only
  split
  · exact (runs_leaveBlocks hclose).map fun _ => id
  · exact (runs_token hclose limit).map fun _ => id

/-! ## All tokens -/

/-- The tokens that a lexer hands out when it stops end with the only sign of trouble. -/
theorem eq_of_broken_mem_stopped (h : Sane cs l) {t u : Trouble}
    (hmem : Token.broken t ∈ l.stopped u) : t = u := by
  unfold stopped at hmem
  rcases List.mem_append.1 hmem with hmem | hmem
  · have hfalse := h.unbroken _ (List.mem_reverse.1 (List.mem_of_mem_take hmem))
    cases hfalse
  · cases List.mem_singleton.1 hmem
    rfl

/-- A run of the lexer ends for a reason that is in the text, or at the cut behind it. -/
theorem explains_of_broken_mem_run {size limit : Nat} {cut : Option Trouble} {t : Trouble}
    (steps : Nat) : ∀ {l : Lexer}, Sane cs l → Token.broken t ∈ run size cut limit steps l →
      Explains cs t ∨ cut = some t := by
  induction steps with
  | zero =>
      intro l h hmem
      rw [eq_of_broken_mem_stopped h hmem]
      exact .inl (.inl Trouble.foreseen_malformed)
  | succ steps ih =>
      intro l h hmem
      have hcut : ∀ reach u, (if size ≤ reach then cut else none) = some u → cut = some u := by
        intro reach u hu
        split at hu
        · exact hu
        · cases hu
      unfold run at hmem
      dsimp only at hmem
      have hstale := runs_dropStale h
      generalize l.dropStale = outcome at hstale hmem
      cases outcome with
      | error s =>
          rw [eq_of_broken_mem_stopped h hmem]
          exact .inl hstale
      | ok k =>
          have hstep := comes_step hstale limit
          dsimp only at hmem
          generalize k.step limit = outcome at hstep hmem
          cases outcome with
          | error s =>
              dsimp only at hmem
              rw [eq_of_broken_mem_stopped hstale hmem]
              -- A step that looked at the place of the cut was stopped there, whatever it found.
              cases hreach : (if size ≤ s.reach then cut else none) with
              | none => exact .inl hstep
              | some u => exact .inr (hcut _ u hreach)
          | ok r =>
              dsimp only at hmem
              split at hmem
              · rename_i u hreach
                rw [eq_of_broken_mem_stopped hstale hmem]
                exact .inr (hcut _ u hreach)
              · split at hmem
                · have hfalse := hstep.unbroken _ (List.mem_reverse.1 hmem)
                  cases hfalse
                · exact ih hstep hmem

end Lexer

/-- The sign of trouble among the tokens of a document is explained by the text, or by its cut. -/
theorem Token.explains_of_broken_mem_ofText {cs : List CodePoint} {cut : Option Trouble}
    {t : Trouble} (h : Token.broken t ∈ Token.ofText cs cut) : Explains cs t ∨ cut = some t :=
  Lexer.explains_of_broken_mem_run _ (Lexer.sane_start cs) h

end ModuleKeeper.Yaml
