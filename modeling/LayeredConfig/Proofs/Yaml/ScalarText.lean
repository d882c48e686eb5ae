import LayeredConfig.Proofs.Yaml.TagText
import LayeredConfig.Yaml.ScalarText

namespace LayeredConfig.Yaml

open Cursor

variable {c c' : Cursor}

/-! ### Spacing -/

theorem spacing_of_ended {limit fuel : ℕ} {s : Spacing} (h : c.rest = []) :
    spacing limit (fuel + 1) s c = some (s, c) := by
  simp [spacing, atBlank, atBreak, head, h]

/-- The line feed behind the text is one more break of the spacing. -/
theorem spacing_of_over {limit fuel fuel' : ℕ} {s s' : Spacing} (h : c.Over)
    (hbroken : s.broken = true) (hs : spacing limit fuel s c = some (s', c'))
    (hfuel : fuel < fuel') : s' = s ∧ c' = c ∧
      ∃ s'' d, spacing limit fuel' s c.framed = some (s'', d) ∧ s''.broken = true ∧
        d.rest = [] ∧ c.line < d.line := by
  obtain _ | fuel := fuel
  · cases hs
  rw [spacing_of_ended h.1] at hs
  obtain ⟨rfl, rfl⟩ := Prod.mk.inj (Option.some.inj hs)
  obtain ⟨fuel', rfl⟩ := Nat.exists_eq_add_of_lt hfuel
  have hrest : c.framed.rest = ['\n'] := by simp [h.1]
  have hline : c.framed.skipLine = ⟨[], c.framed.index + 1, c.framed.line + 1, 0⟩ :=
    skipLine_of_cons hrest (by simp)
  refine ⟨rfl, rfl, { s with more := s.more ++ c.framed.breakText }, c.framed.skipLine, ?_,
    hbroken, by rw [hline], by rw [hline, framed]; dsimp only; omega⟩
  rw [show fuel + 1 + fuel' + 1 = fuel + fuel' + 1 + 1 by omega, spacing]
  simp only [atBlank, atBreak, head, hrest, List.head?_cons, Option.any_some, hbroken]
  exact spacing_of_ended (by rw [hline])

theorem spacing_framed {limit fuel fuel' : ℕ} {s s' : Spacing} (h : c.Open)
    (hs : spacing limit fuel s c = some (s', c')) (hfuel : fuel < fuel') :
    ∃ s'' d, spacing limit fuel' s c.framed = some (s'', d) ∧ c.Before c' ∧
      (c'.Open ∧ s'' = s' ∧ d = c'.framed ∨
        c'.Over ∧ s'.broken = true ∧ s''.broken = true ∧ d.rest = [] ∧ c'.line < d.line) := by
  induction fuel generalizing fuel' s c with
  | zero => cases hs
  | succ fuel ih =>
    obtain ⟨fuel', rfl⟩ := Nat.exists_eq_succ_of_ne_zero (Nat.ne_of_gt (Nat.zero_lt_of_lt hfuel))
    have hless := Nat.lt_of_succ_lt_succ hfuel
    rw [spacing] at hs ⊢
    rw [atBlank_framed, h.atBreak_framed, startsWith_framed (by decide), h.head_framed,
      h.breakText_framed, h.skip_framed, h.skipLine_framed, column_framed]
    by_cases hblank : c.atBlank = true
    · rw [if_pos hblank] at hs ⊢
      have hbreak : c.atBreak = false := by
        obtain ⟨x, rest, hrest⟩ := List.exists_cons_of_ne_nil h.ne_nil
        have hx : isBlankChar x = true := by simpa [atBlank, head, hrest] using hblank
        by_contra hnot
        have hx' : isBreakChar x = true := by simpa [atBreak, head, hrest] using hnot
        simp [isBlankChar_of_isBreakChar hx'] at hx
      have hskip := h.alongSkip hbreak
      split at hs
      · next hbroken =>
        rw [if_pos hbroken]
        split at hs
        · cases hs
        · next htab =>
          rw [if_neg htab]
          obtain ⟨s'', d, hd, hbefore, hended⟩ := ih hskip.isOpen hs hless
          exact ⟨s'', d, hd, hskip.before.trans hbefore, hended⟩
      · next hbroken =>
        rw [if_neg hbroken]
        obtain ⟨s'', d, hd, hbefore, hended⟩ := ih hskip.isOpen hs hless
        exact ⟨s'', d, hd, hskip.before.trans hbefore, hended⟩
    rw [if_neg hblank] at hs ⊢
    by_cases hbreak : c.atBreak = true
    · rw [if_pos hbreak] at hs ⊢
      dsimp only at hs ⊢
      rcases (h.skipLine hbreak).2 with hopen | hover
      · obtain ⟨s'', d, hd, hbefore, hended⟩ := ih hopen hs hless
        exact ⟨s'', d, hd, (Before.skipLine h).trans hbefore, hended⟩
      · have hbroken (s : Spacing) : (if s.broken then { s with more := s.more ++ c.breakText }
            else ⟨[], c.breakText, [], true⟩ : Spacing).broken = true := by
          split
          · next hs => exact hs
          · rfl
        obtain ⟨rfl, rfl, s'', d, hd, hbroken', hrest, hline⟩ :=
          spacing_of_over hover (hbroken s) hs hless
        exact ⟨s'', d, hd, .skipLine h, .inr ⟨hover, hbroken s, hbroken', hrest, hline⟩⟩
    · rw [if_neg hbreak] at hs ⊢
      obtain ⟨rfl, rfl⟩ := Prod.mk.inj (Option.some.inj hs)
      exact ⟨s, c.framed, rfl, .refl h, .inl ⟨h, rfl, rfl⟩⟩

/-! ### Plain scalars -/

theorem plainWord_framed (inFlow : Bool) (cs : List Char) :
    plainWord inFlow (cs ++ ['\n']) = plainWord inFlow cs := by
  induction cs with
  | nil => simp [plainWord, isBreakChar]
  | cons x cs ih =>
    have hgap : isGap (cs ++ ['\n']).head? = isGap cs.head? := by
      cases cs <;> simp [isGap, isBreakChar]
    have hsign : (cs ++ ['\n']).head?.any (fun x => x == '?' || isFlowSign x) =
        cs.head?.any (fun x => x == '?' || isFlowSign x) := by
      cases cs <;> simp [isFlowSign]
    rw [List.cons_append, plainWord, plainWord, ih, hgap, hsign]

theorem isBreakChar_of_plainWord {inFlow : Bool} {cs word : List Char}
    (h : plainWord inFlow cs = some word) : ∀ x ∈ cs.take word.length, isBreakChar x = false := by
  induction cs generalizing word with
  | nil => simp
  | cons x cs ih =>
    rw [plainWord] at h
    split at h
    · obtain rfl := Option.some.inj h
      simp
    next hspacing =>
    split at h
    · cases h
    split at h
    · obtain rfl := Option.some.inj h
      simp
    · obtain ⟨word, hword, rfl⟩ := Option.map_eq_some_iff.1 h
      rw [List.length_cons, List.take_succ_cons, List.forall_mem_cons]
      refine ⟨?_, ih hword⟩
      simp only [Bool.or_eq_true, not_or, Bool.not_eq_true] at hspacing
      exact hspacing.2

theorem plainWords_of_ended {inFlow : Bool} {indent fuel : ℕ} {pending : Spacing}
    {text : List Char} (h : c.rest = []) :
    plainWords inFlow indent (fuel + 1) pending text c = some (text, pending.broken, c) := by
  obtain ⟨rest, index, line, column⟩ := c
  obtain rfl : rest = [] := h
  simp [plainWords, atDocumentBound, atMarker, startsWith, head, plainWord, skipMany, atBlank,
    atBreak]

theorem plainWords_framed {inFlow : Bool} {indent fuel fuel' : ℕ} {pending : Spacing}
    {text text' : List Char} {broken : Bool} (h : c.Open)
    (hw : plainWords inFlow indent fuel pending text c = some (text', broken, c'))
    (hfuel : fuel < fuel') :
    ∃ d, plainWords inFlow indent fuel' pending text c.framed = some (text', broken, d) ∧
      c'.Frames d ∧ c.Before c' := by
  induction fuel generalizing fuel' pending text c with
  | zero => cases hw
  | succ fuel ih =>
    obtain ⟨fuel', rfl⟩ := Nat.exists_eq_succ_of_ne_zero (Nat.ne_of_gt (Nat.zero_lt_of_lt hfuel))
    have hless := Nat.lt_of_succ_lt_succ hfuel
    rw [plainWords] at hw ⊢
    rw [atDocumentBound_framed, startsWith_framed (by decide), rest_framed, plainWord_framed]
    split at hw
    · next hstop =>
      cases hw
      rw [if_pos hstop]
      exact ⟨_, rfl, h.frames, .refl h⟩
    next hstop =>
    obtain ⟨word, hword, hw⟩ := Option.bind_eq_some_iff.1 hw
    obtain ⟨hlt, hopen⟩ := h.skipMany (isBreakChar_of_plainWord hword)
    have hbefore := Before.skipMany h hlt
    rw [if_neg hstop, hword, Option.bind_eq_bind, Option.bind_some, skipMany_framed hlt.le]
    dsimp only at hw ⊢
    rw [atBlank_framed, hopen.atBreak_framed]
    split at hw
    · next hnext =>
      cases hw
      rw [if_pos hnext]
      exact ⟨_, rfl, hopen.frames, hbefore⟩
    next hnext =>
    obtain ⟨⟨spaced, c₁⟩, hspaced, hw⟩ := Option.bind_eq_some_iff.1 hw
    obtain ⟨spaced', d, hspaced', hbefore', hended⟩ := spacing_framed hopen hspaced
      (Nat.lt_succ_self _)
    have hlength : (c.skipMany word.length).framed.rest.length =
        (c.skipMany word.length).rest.length + 1 := by simp
    rw [if_neg hnext, hlength, hspaced', Option.bind_eq_bind, Option.bind_some]
    dsimp only at hw ⊢
    rcases hended with ⟨hopen', rfl, rfl⟩ | ⟨hover, hbroken, hbroken', hrest, hline⟩
    · rw [column_framed]
      split at hw
      · next hindent =>
        cases hw
        rw [if_pos hindent]
        exact ⟨_, rfl, hopen'.frames, hbefore.trans hbefore'⟩
      · next hindent =>
        rw [if_neg hindent]
        obtain ⟨d, hd, hframes, hlast⟩ := ih hopen' hw hless
        exact ⟨d, hd, hframes, (hbefore.trans hbefore').trans hlast⟩
    · -- The text is over, so no word follows here or there.
      obtain ⟨fuel', rfl⟩ := Nat.exists_eq_succ_of_ne_zero (Nat.ne_of_gt (Nat.zero_lt_of_lt hless))
      obtain ⟨rfl, rfl, rfl⟩ : text' = _ ∧ broken = true ∧ c' = c₁ := by
        split at hw
        · cases hw
          exact ⟨rfl, hbroken, rfl⟩
        · obtain _ | fuel := fuel
          · cases hw
          · rw [plainWords_of_ended hover.1] at hw
            cases hw
            exact ⟨rfl, hbroken, rfl⟩
      refine ⟨d, ?_, .inr ⟨hover, hline, .inl hrest⟩, hbefore.trans hbefore'⟩
      rw [plainWords_of_ended hrest, hbroken']
      split <;> rfl

theorem plainScalar_framed {inFlow : Bool} {indent : ℕ} {text : List Char} {broken : Bool}
    (h : c.Open) (hs : plainScalar inFlow indent c = some (text, broken, c')) :
    ∃ d, plainScalar inFlow indent c.framed = some (text, broken, d) ∧
      c'.Frames d ∧ c.Before c' :=
  plainWords_framed h hs (by simp)

/-! ### Quoted scalars -/

theorem singleWord_framed (cs : List Char) : singleWord (cs ++ ['\n']) = singleWord cs := by
  fun_induction singleWord cs with
  | case1 rest word n hword ih =>
    simp only [List.cons_append, singleWord, ih, hword]
  | case2 x rest hquote hstop =>
    rw [List.cons_append, singleWord, if_pos hstop]
    rintro rest' rfl hrest
    cases rest with
    | nil => simp at hrest
    | cons y rest => exact hquote _ rfl (by rw [(List.cons.inj hrest).1])
  | case3 x rest hquote hword word n hrest ih =>
    rw [List.cons_append, singleWord, if_neg hword, ih, hrest]
    rintro rest' rfl -
    simp at hword
  | case4 => simp [singleWord, isBreakChar]

theorem isBreakChar_of_singleWord (cs : List Char) :
    ∀ x ∈ cs.take (singleWord cs).2, isBreakChar x = false := by
  fun_induction singleWord cs with
  | case1 rest word n hword ih =>
    rw [hword] at ih
    simpa [isBreakChar] using ih
  | case2 => simp
  | case3 x rest hquote hword word n hrest ih =>
    rw [hrest] at ih
    simp only [Bool.or_eq_true, not_or, Bool.not_eq_true] at hword
    rw [List.take_succ_cons, List.forall_mem_cons]
    exact ⟨hword.2, ih⟩
  | case4 => simp

def escape? : List Char → Option (Char × ℕ)
  | [] => none
  | x :: rest => match codeLength? x with
    | some length => (codeChar? length (rest.take length)).map (·, length + 1)
    | none => (escapedChar? x).map (·, 1)

theorem escape?_framed {cs : List Char} {e : Char} {n : ℕ}
    (hbreak : cs.head?.any isBreakChar = false) (h : escape? cs = some (e, n)) :
    escape? (cs ++ ['\n']) = some (e, n) ∧ n ≤ cs.length ∧
      ∀ x ∈ cs.take n, isBreakChar x = false := by
  cases cs with
  | nil => cases h
  | cons x rest =>
    have hx : isBreakChar x = false := by simpa using hbreak
    rw [List.cons_append, escape?] at *
    split at h
    · next length hlength =>
      obtain ⟨code, hcode, heq⟩ := Option.map_eq_some_iff.1 h
      obtain ⟨rfl, rfl⟩ := Prod.mk.inj heq
      have hcode' := hcode
      rw [codeChar?] at hcode'
      split at hcode'
      · next hdigits =>
        have hle : length ≤ rest.length := by
          rw [List.length_take] at hdigits
          omega
        obtain ⟨number, hnumber, -⟩ := Option.bind_eq_some_iff.1 hcode'
        refine ⟨?_, by simpa using hle, ?_⟩
        · rw [List.take_append_of_le_length hle, hcode]
          rfl
        · rw [List.take_succ_cons, List.forall_mem_cons]
          exact ⟨hx, isBreakChar_of_natural? hnumber⟩
      · cases hcode'
    · next hlength =>
      obtain ⟨code, hcode, heq⟩ := Option.map_eq_some_iff.1 h
      obtain ⟨rfl, rfl⟩ := Prod.mk.inj heq
      exact ⟨by rw [hcode]; rfl, by simp, by simpa using hx⟩

theorem doubleWord_cons (fuel : ℕ) (x : Char) (cs : List Char) : doubleWord (fuel + 1) (x :: cs) =
    if x = '\x22' || isBlankChar x || isBreakChar x then some ([], 0, .spacing)
    else if x ≠ '\\' then (doubleWord fuel cs).map fun r => (x :: r.1, r.2.1 + 1, r.2.2)
    else if cs.head?.any isBreakChar then some ([], 1, .escapedBreak)
    else (escape? cs).bind fun e => (doubleWord fuel (cs.drop e.2)).map fun r =>
      (e.1 :: r.1, r.2.1 + 1 + e.2, r.2.2) := by
  rw [doubleWord.eq_def]
  dsimp only
  split
  · rfl
  split
  · cases doubleWord fuel cs <;> rfl
  cases cs with
  | nil => rfl
  | cons y rest =>
    have hhead : (y :: rest).head?.any isBreakChar = isBreakChar y := rfl
    dsimp only
    rw [hhead]
    by_cases hbreak : isBreakChar y = true
    · rw [if_pos hbreak, if_pos hbreak]
    rw [if_neg hbreak, if_neg hbreak, escape?]
    cases codeLength? y with
    | some length =>
      dsimp only
      cases codeChar? length (rest.take length) with
      | none => rfl
      | some code =>
        have hdrop : (y :: rest).drop (length + 1) = rest.drop length := rfl
        rw [Option.map_some, Option.bind_some, hdrop]
        cases doubleWord fuel (rest.drop length) with
        | none => rfl
        | some r =>
          have hcount : r.2.1 + 2 + length = r.2.1 + 1 + (length + 1) := by omega
          simp [hcount]
    | none => cases escapedChar? y <;> cases hmore : doubleWord fuel rest <;> simp [hmore]

theorem doubleWord_framed {fuel fuel' n : ℕ} {cs word : List Char} {e : WordEnd}
    (h : doubleWord fuel cs = some (word, n, e)) (hfuel : fuel < fuel') :
    doubleWord fuel' (cs ++ ['\n']) = some (word, n, e) ∧
      ∀ x ∈ cs.take n, isBreakChar x = false := by
  induction fuel generalizing fuel' cs word n with
  | zero => cases cs <;> simp [doubleWord] at h
  | succ fuel ih =>
    obtain ⟨fuel', rfl⟩ := Nat.exists_eq_succ_of_ne_zero (Nat.ne_of_gt (Nat.zero_lt_of_lt hfuel))
    have hless := Nat.lt_of_succ_lt_succ hfuel
    cases cs with
    | nil =>
      obtain ⟨rfl, rfl, rfl⟩ : [] = word ∧ 0 = n ∧ .spacing = e := by simpa [doubleWord] using h
      exact ⟨by rw [List.nil_append, doubleWord_cons]; rfl, by simp⟩
    | cons x cs =>
      have hhead : (cs ++ ['\n']).head?.any isBreakChar = true ↔
          cs = [] ∨ cs.head?.any isBreakChar = true := by
        cases cs <;> simp [isBreakChar]
      rw [List.cons_append, doubleWord_cons] at *
      split at h
      · next hstop =>
        cases h
        rw [if_pos hstop]
        exact ⟨rfl, by simp⟩
      next hstop =>
      have hx : isBreakChar x = false := by
        simp only [Bool.or_eq_true, not_or, Bool.not_eq_true] at hstop
        exact hstop.2
      rw [if_neg hstop]
      split at h
      · next hplain =>
        obtain ⟨⟨word, n, e⟩, hmore, heq⟩ := Option.map_eq_some_iff.1 h
        cases heq
        obtain ⟨hframed, hnone⟩ := ih hmore hless
        rw [if_pos hplain, hframed, List.take_succ_cons, List.forall_mem_cons]
        exact ⟨rfl, hx, hnone⟩
      next hplain =>
      rw [if_neg hplain]
      split at h
      · next hbreak =>
        cases h
        rw [if_pos (hhead.2 (.inr hbreak))]
        exact ⟨rfl, by simpa using hx⟩
      next hbreak =>
      obtain ⟨⟨code, k⟩, hcode, h⟩ := Option.bind_eq_some_iff.1 h
      obtain ⟨⟨word, n, e⟩, hmore, heq⟩ := Option.map_eq_some_iff.1 h
      cases heq
      obtain ⟨hcode', hle, hcodes⟩ := escape?_framed (by simpa using hbreak) hcode
      obtain ⟨hframed, hnone⟩ := ih hmore hless
      have hne : cs ≠ [] := by
        rintro rfl
        cases hcode
      rw [if_neg (by rw [hhead]; exact not_or.2 ⟨hne, hbreak⟩), hcode', Option.bind_some,
        List.drop_append_of_le_length hle, hframed]
      refine ⟨rfl, ?_⟩
      rw [show n + 1 + k = k + n + 1 by omega, List.take_succ_cons, List.forall_mem_cons]
      refine ⟨hx, fun y hy => ?_⟩
      rw [List.take_add, List.mem_append] at hy
      exact hy.elim (hcodes y) (hnone y)

/-- One word of a quoted scalar, how many characters were read, and how it ends. -/
def quotedWord (quote : Char) (cs : List Char) : Option (List Char × ℕ × WordEnd) :=
  if quote = '\x27' then some ((singleWord cs).1, (singleWord cs).2, .spacing)
  else doubleWord (cs.length + 1) cs

theorem quotedWords_succ (quote : Char) (fuel : ℕ) (text : List Char) (c : Cursor) :
    quotedWords quote (fuel + 1) text c =
      if c.atDocumentBound || c.rest.isEmpty then none
      else (quotedWord quote c.rest).bind fun w =>
        let c₁ := c.skipMany w.2.1
        let start := if w.2.2 = .escapedBreak then Spacing.escaped else Spacing.none
        let c₂ := if w.2.2 = .escapedBreak then c₁.skipLine else c₁
        if c₁.startsWith quote ∧ w.2.2 = .spacing then some (text ++ w.1, c₁.skip)
        else if c₂.startsWith quote then some (text ++ w.1 ++ start.fold, c₂.skip)
        else (spacing 0 (c₂.rest.length + 1) start c₂).bind fun s =>
          quotedWords quote fuel (text ++ w.1 ++ s.1.fold) s.2 := by
  rw [quotedWords, quotedWord]
  split
  · rfl
  · split <;> rfl

theorem quotedWord_framed {quote : Char} {cs word : List Char} {n : ℕ} {e : WordEnd}
    (h : quotedWord quote cs = some (word, n, e)) :
    quotedWord quote (cs ++ ['\n']) = some (word, n, e) ∧
      ∀ x ∈ cs.take n, isBreakChar x = false := by
  rw [quotedWord] at *
  split at h
  · next hsingle =>
    cases h
    rw [if_pos hsingle, singleWord_framed]
    exact ⟨rfl, isBreakChar_of_singleWord cs⟩
  · next hdouble =>
    rw [if_neg hdouble]
    exact doubleWord_framed h (by simp)

theorem quotedWords_of_ended {quote : Char} {fuel : ℕ} {text : List Char} (h : c.rest = []) :
    quotedWords quote fuel text c = none := by
  cases fuel with
  | zero => rfl
  | succ fuel => rw [quotedWords_succ, h, if_pos (by simp)]

/-- A quoted scalar ends at its quote, where the text goes on. -/
theorem quotedWords_framed {quote : Char} (hquote : isBreakChar quote = false) {fuel fuel' : ℕ}
    {text text' : List Char} (h : c.Open)
    (hw : quotedWords quote fuel text c = some (text', c')) (hfuel : fuel < fuel') :
    quotedWords quote fuel' text c.framed = some (text', c'.framed) ∧ c.Before c' := by
  induction fuel generalizing fuel' text c with
  | zero => cases hw
  | succ fuel ih =>
    obtain ⟨fuel', rfl⟩ := Nat.exists_eq_succ_of_ne_zero (Nat.ne_of_gt (Nat.zero_lt_of_lt hfuel))
    have hless := Nat.lt_of_succ_lt_succ hfuel
    have hfeed : quote ≠ '\n' := by
      rintro rfl
      cases hquote
    have hclose (d : Cursor) (hd : d.Open) (hstart : d.startsWith quote = true) :
        d.framed.skip = d.skip.framed ∧ d.Before d.skip :=
      ⟨hd.skip_framed, (hd.alongSkip (atBreak_of_startsWith hstart hquote)).before⟩
    have hrest : c.framed.rest.isEmpty = c.rest.isEmpty := by
      obtain ⟨x, rest, hrest⟩ := List.exists_cons_of_ne_nil h.ne_nil
      simp [hrest]
    rw [quotedWords_succ] at hw ⊢
    rw [atDocumentBound_framed, hrest]
    split at hw
    · cases hw
    next hgoesOn =>
    obtain ⟨⟨word, n, e⟩, hword, hw⟩ := Option.bind_eq_some_iff.1 hw
    obtain ⟨hword', hnone⟩ := quotedWord_framed hword
    obtain ⟨hlt, hopen⟩ := h.skipMany hnone
    have hbefore := Before.skipMany h hlt
    rw [if_neg hgoesOn, rest_framed, hword', Option.bind_some]
    dsimp only at hw ⊢
    rw [skipMany_framed hlt.le, startsWith_framed hfeed]
    split at hw
    · next hend =>
      cases hw
      rw [if_pos hend, (hclose _ hopen hend.1).1]
      exact ⟨rfl, hbefore.trans (hclose _ hopen hend.1).2⟩
    next hend =>
    rw [if_neg hend]
    -- After an escaped break the next line is the place to go on from.
    have hnext : (if e = .escapedBreak then (c.skipMany n).framed.skipLine
        else (c.skipMany n).framed) =
          (if e = .escapedBreak then (c.skipMany n).skipLine else c.skipMany n).framed := by
      split
      · exact hopen.skipLine_framed
      · rfl
    have hbefore' : c.Before
        (if e = .escapedBreak then (c.skipMany n).skipLine else c.skipMany n) := by
      split
      · exact hbefore.trans (.skipLine hopen)
      · exact hbefore
    rw [hnext, startsWith_framed hfeed]
    generalize (if e = .escapedBreak then (c.skipMany n).skipLine else c.skipMany n) = c₂ at *
    have hopen₂ : c₂.Open := by
      rcases hbefore'.ended with hopen₂ | ⟨⟨hnil, -⟩, -⟩
      · exact hopen₂
      · -- Nothing is left of the text, and so no quote is.
        rw [spacing_of_ended hnil, if_neg (by simp [startsWith, head, hnil]),
          Option.bind_some, quotedWords_of_ended hnil] at hw
        cases hw
    split at hw
    · next hend' =>
      cases hw
      rw [if_pos hend', (hclose _ hopen₂ hend').1]
      exact ⟨rfl, hbefore'.trans (hclose _ hopen₂ hend').2⟩
    next hend' =>
    obtain ⟨⟨gap, c₃⟩, hgap, hw⟩ := Option.bind_eq_some_iff.1 hw
    obtain ⟨gap', d, hgap', hbefore'', hended⟩ := spacing_framed hopen₂ hgap (Nat.lt_succ_self _)
    have hlength : c₂.framed.rest.length = c₂.rest.length + 1 := by simp
    rw [if_neg hend', hlength, hgap', Option.bind_some]
    rcases hended with ⟨hopen₃, rfl, rfl⟩ | ⟨⟨hnil, -⟩, -⟩
    · obtain ⟨hframed, hlast⟩ := ih hopen₃ hw hless
      exact ⟨hframed, (hbefore'.trans hbefore'').trans hlast⟩
    · rw [quotedWords_of_ended hnil] at hw
      cases hw

theorem quotedScalar_framed {quote : Char} {text : List Char} (hquote : isBreakChar quote = false)
    (h : c.Open) (hstart : c.startsWith quote = true)
    (hs : quotedScalar quote c = some (text, c')) :
    quotedScalar quote c.framed = some (text, c'.framed) ∧ c.Before c' := by
  have hskip := h.alongSkip (atBreak_of_startsWith hstart hquote)
  have hfuel : c.rest.length + 1 < c.framed.rest.length + 1 := by simp
  obtain ⟨hframed, hbefore⟩ := quotedWords_framed hquote hskip.isOpen hs hfuel
  refine ⟨?_, hskip.before.trans hbefore⟩
  rw [quotedScalar, h.skip_framed, hframed]

/-! ### Block scalars -/

theorem increment_framed {n : ℕ} (h : c.Open) (hi : increment c = some (n, c')) :
    increment c.framed = some (n, c'.framed) ∧ c.Along c' := by
  obtain ⟨x, rest, hrest⟩ := List.exists_cons_of_ne_nil h.ne_nil
  have hhead : c.head = some x := by simp [head, hrest]
  rw [increment] at *
  rw [h.head_framed, h.skip_framed]
  rw [hhead] at hi ⊢
  dsimp only at hi ⊢
  split at hi
  · cases hi
  next hzero =>
  rw [if_neg hzero]
  split at hi
  · next hdigit =>
    cases hi
    have hbreak : c.atBreak = false := by
      rw [atBreak, hhead, Option.any_some]
      by_contra hnot
      simp [isDigit_of_isBreakChar (by simpa using hnot)] at hdigit
    rw [if_pos hdigit]
    exact ⟨rfl, h.alongSkip hbreak⟩
  · next hdigit =>
    cases hi
    rw [if_neg hdigit]
    exact ⟨rfl, h, rfl⟩

theorem atBreak_of_chomping? {chomping : Chomping} (h : chomping? c.head = some chomping) :
    c.atBreak = false := by
  rw [chomping?.eq_def] at h
  split at h
  · next hhead => simp [atBreak, hhead, isBreakChar]
  · next hhead => simp [atBreak, hhead, isBreakChar]
  · cases h

theorem blockHeader_framed {chomping : Chomping} {n : ℕ} (h : c.Open)
    (hb : blockHeader c = some (chomping, n, c')) :
    blockHeader c.framed = some (chomping, n, c'.framed) ∧ c.Along c' := by
  rw [blockHeader] at *
  rw [h.head_framed, h.skip_framed]
  cases hfirst : chomping? c.head with
  | some first =>
    rw [hfirst] at hb
    have hskip := h.alongSkip (atBreak_of_chomping? hfirst)
    obtain ⟨⟨n, d⟩, hn, heq⟩ := Option.bind_eq_some_iff.1 hb
    cases heq
    obtain ⟨hn', halong⟩ := increment_framed hskip.isOpen hn
    dsimp only
    rw [hn']
    exact ⟨rfl, hskip.trans halong⟩
  | none =>
    rw [hfirst] at hb
    obtain ⟨⟨n, d⟩, hn, hb⟩ := Option.bind_eq_some_iff.1 hb
    obtain ⟨hn', halong⟩ := increment_framed h hn
    dsimp only at hb ⊢
    rw [hn', Option.bind_eq_bind, Option.bind_some]
    dsimp only
    rw [halong.isOpen.head_framed, halong.isOpen.skip_framed]
    split at hb
    · next second hsecond =>
      cases hb
      have hchomping : chomping? d.head = some chomping := by
        split at hsecond
        · cases hsecond
        · exact hsecond
      rw [hsecond]
      exact ⟨rfl, halong.trans (halong.isOpen.alongSkip (atBreak_of_chomping? hchomping))⟩
    · next hsecond =>
      cases hb
      rw [hsecond]
      exact ⟨rfl, halong⟩

theorem blockBreaks_of_ended {indent fuel deepest : ℕ} {breaks : List Char} (h : c.rest = []) :
    blockBreaks indent (fuel + 1) breaks deepest c = some (breaks, max deepest c.column, c) := by
  obtain ⟨rest, index, line, column⟩ := c
  obtain rfl : rest = [] := h
  simp [blockBreaks, skipMany, atBreak, startsWith, head]

/-- The line feed behind the text ends one more empty line. -/
theorem blockBreaks_of_over {indent fuel deepest : ℕ} {breaks : List Char} (h : c.Over) :
    ∃ d, blockBreaks indent (fuel + 2) breaks deepest c.framed =
      some (breaks ++ ['\n'], max deepest c.column, d) ∧ d.rest = [] ∧ c.line < d.line := by
  obtain ⟨rest, index, line, column⟩ := c
  obtain ⟨rfl, rfl⟩ : rest = [] ∧ column = 0 := h
  refine ⟨⟨[], index + 5, line + 2, 0⟩, ?_, rfl, by simp⟩
  simp [blockBreaks, framed, skipMany, startsWith, atBreak, head, isBreakChar, breakText, skipLine]

theorem blockBreaks_framed {c₀ : Cursor} {indent fuel fuel' deepest deepest' : ℕ}
    {breaks breaks' : List Char} (h : c₀.Before c)
    (hb : blockBreaks indent fuel breaks deepest c = some (breaks', deepest', c'))
    (hfuel : fuel < fuel') :
    ∃ breaks'' d, blockBreaks indent fuel' breaks deepest c.framed = some (breaks'', deepest', d) ∧
      c₀.Before c' ∧ (c'.Open ∧ breaks'' = breaks' ∧ d = c'.framed ∨
        c'.Over ∧ d.rest = [] ∧ c'.line < d.line) := by
  induction fuel generalizing fuel' breaks deepest c with
  | zero => cases hb
  | succ fuel ih =>
    obtain ⟨fuel', rfl⟩ := Nat.exists_eq_succ_of_ne_zero (Nat.ne_of_gt (Nat.zero_lt_of_lt hfuel))
    have hless := Nat.lt_of_succ_lt_succ hfuel
    rcases h.ended with hopen | ⟨hover, hlater⟩
    · rw [blockBreaks] at *
      have hspaces : c.framed.rest.takeWhile (· == ' ') = c.rest.takeWhile (· == ' ') :=
        takeWhile_append_singleton rfl _
      rw [hspaces, column_framed]
      dsimp only at hb ⊢
      have htaken : (if indent = 0 then (c.rest.takeWhile (· == ' ')).length
          else min (c.rest.takeWhile (· == ' ')).length (indent - c.column)) ≤
            (c.rest.takeWhile (· == ' ')).length := by
        split
        · exact le_rfl
        · exact min_le_left _ _
      generalize (if indent = 0 then (c.rest.takeWhile (· == ' ')).length
          else min (c.rest.takeWhile (· == ' ')).length (indent - c.column)) = n at *
      obtain ⟨hlt, hopen'⟩ := hopen.skipMany (n := n) fun x hx => by
        have hmem : x ∈ c.rest.takeWhile (· == ' ') := by
          rw [List.prefix_iff_eq_take.1 (List.takeWhile_prefix (· == ' '))]
          exact List.take_subset_take_left _ htaken hx
        obtain rfl : x = ' ' := by simpa using List.mem_takeWhile_imp hmem
        decide
      have hbefore := h.trans (.skipMany hopen hlt)
      rw [skipMany_framed hlt.le, column_framed, startsWith_framed (by decide),
        hopen'.atBreak_framed, hopen'.breakText_framed, hopen'.skipLine_framed]
      split at hb
      · cases hb
      next htab =>
      rw [if_neg htab]
      split at hb
      · next hbreak =>
        rw [if_pos hbreak]
        exact ih (hbefore.trans (.skipLine hopen')) hb hless
      · next hbreak =>
        cases hb
        rw [if_neg hbreak]
        exact ⟨_, _, rfl, hbefore, .inl ⟨hopen', rfl, rfl⟩⟩
    · rw [blockBreaks_of_ended hover.1] at hb
      cases hb
      obtain ⟨k, rfl⟩ := Nat.exists_eq_succ_of_ne_zero (Nat.ne_of_gt (Nat.zero_lt_of_lt hless))
      obtain ⟨d, hd, hrest, hline⟩ := blockBreaks_of_over hover
      exact ⟨_, d, hd, h, .inr ⟨hover, hrest, hline⟩⟩

theorem blockLines_of_ended {literal afterBlank : Bool} {indent fuel : ℕ}
    {text leading trailing : List Char} (h : c.rest = []) :
    blockLines literal indent (fuel + 1) text leading trailing afterBlank c =
      some (text, leading, trailing, c) := by
  rw [blockLines, if_pos (.inr (by simp [h]))]

/-- The lines are the same. Only the breaks of the empty lines behind them may be more. -/
theorem blockLines_framed {literal afterBlank : Bool} {indent fuel fuel' : ℕ}
    {text text' leading leading' trailing trailing' : List Char} (h : c.Open)
    (hb : blockLines literal indent fuel text leading trailing afterBlank c =
      some (text', leading', trailing', c')) (hfuel : fuel < fuel') :
    ∃ trailing'' d, blockLines literal indent fuel' text leading trailing afterBlank c.framed =
        some (text', leading', trailing'', d) ∧ c'.Frames d ∧ c.Before c' ∧
      (c'.Open → trailing'' = trailing') := by
  induction fuel generalizing fuel' text leading trailing afterBlank c with
  | zero => cases hb
  | succ fuel ih =>
    obtain ⟨fuel', rfl⟩ := Nat.exists_eq_succ_of_ne_zero (Nat.ne_of_gt (Nat.zero_lt_of_lt hfuel))
    have hless := Nat.lt_of_succ_lt_succ hfuel
    have hempty : c.rest.isEmpty = false ∧ c.framed.rest.isEmpty = false := by
      obtain ⟨x, rest, hrest⟩ := List.exists_cons_of_ne_nil h.ne_nil
      simp [hrest]
    have hline := h.alongTakeWhile (p := (!isBreakChar ·)) fun x hx => by simp [hx]
    have hbefore := hline.before.trans (.skipLine hline.isOpen)
    rw [blockLines, hempty.1] at hb
    rw [blockLines, hempty.2, column_framed, atBlank_framed, takeWhile_framed (by decide)]
    split at hb
    · next hends =>
      cases hb
      rw [if_pos hends]
      exact ⟨_, _, rfl, h.frames, .refl h, fun _ => rfl⟩
    next hends =>
    rw [if_neg hends]
    dsimp only at hb ⊢
    rw [hline.isOpen.breakText_framed, hline.isOpen.skipLine_framed]
    obtain ⟨⟨breaks, deepest, c₁⟩, hbreaks, hb⟩ := Option.bind_eq_some_iff.1 hb
    obtain ⟨breaks', d, hbreaks', hbefore', hended⟩ := blockBreaks_framed hbefore hbreaks
      (Nat.lt_succ_self _)
    have hlength (c : Cursor) : c.framed.rest.length = c.rest.length + 1 := by simp
    rw [hlength, hbreaks', Option.bind_eq_bind, Option.bind_some]
    dsimp only at hb ⊢
    rcases hended with ⟨hopen, rfl, rfl⟩ | ⟨hover, hrest, hlater⟩
    · obtain ⟨trailing'', d, hd, hframes, hlast, hsame⟩ := ih hopen hb hless
      exact ⟨trailing'', d, hd, hframes, hbefore'.trans hlast, hsame⟩
    · -- The text is over, so there is no further line, here or there.
      obtain _ | fuel := fuel
      · cases hb
      obtain ⟨k, rfl⟩ := Nat.exists_eq_succ_of_ne_zero (Nat.ne_of_gt (Nat.zero_lt_of_lt hless))
      rw [blockLines_of_ended hover.1] at hb
      cases hb
      rw [blockLines_of_ended hrest]
      exact ⟨_, d, rfl, .inr ⟨hover, hlater, .inl hrest⟩, hbefore',
        fun hopen => absurd hopen hover.not_open⟩

/-- The header of a block scalar says that the breaks at its end are kept. -/
def Cursor.keepsBreaks (c : Cursor) : Bool :=
  (blockHeader c.skip).any fun header => header.1 == .keep

/-- Only a scalar that keeps the breaks at the end of the text has another text in the frame. -/
theorem blockScalar_framed {literal : Bool} {parent : ℤ} {text : List Char} (h : c.Open)
    (hbreak : c.atBreak = false) (hs : blockScalar literal parent c = some (text, c'))
    (hkept : ¬(c.keepsBreaks = true ∧ c'.rest = [])) :
    ∃ d, blockScalar literal parent c.framed = some (text, d) ∧ c'.Frames d ∧ c.Before c' := by
  have hskip := h.alongSkip hbreak
  obtain ⟨⟨chomping, n, c₁⟩, hheader, hs⟩ := Option.bind_eq_some_iff.1 hs
  obtain ⟨hheader', halong⟩ := blockHeader_framed hskip.isOpen hheader
  obtain ⟨c₂, hend, hs⟩ := Option.bind_eq_some_iff.1 hs
  obtain ⟨hend', hbefore⟩ := endLine?_framed halong.isOpen hend
  replace hbefore := (hskip.trans halong).before.trans hbefore
  dsimp only at hs
  obtain ⟨⟨trailing, deepest, c₃⟩, hbreaks, hs⟩ := Option.bind_eq_some_iff.1 hs
  obtain ⟨trailing', d, hbreaks', hbefore', hended⟩ := blockBreaks_framed hbefore hbreaks
    (Nat.lt_succ_self _)
  obtain ⟨⟨text, leading, last, c₄⟩, hlines, hs⟩ := Option.bind_eq_some_iff.1 hs
  cases hs
  have hlength (c : Cursor) : c.framed.rest.length = c.rest.length + 1 := by simp
  rw [blockScalar, h.skip_framed, hheader', Option.bind_eq_bind, Option.bind_some]
  dsimp only
  rw [hend', Option.bind_eq_bind, Option.bind_some, hlength, hbreaks', Option.bind_eq_bind,
    Option.bind_some]
  dsimp only at hlines ⊢
  rcases hended with ⟨hopen, rfl, rfl⟩ | ⟨hover, hrest, hlater⟩
  · obtain ⟨last', d, hlines', hframes, hlast, hsame⟩ := blockLines_framed hopen hlines
      (Nat.lt_succ_self _)
    rw [hlength, hlines', Option.bind_eq_bind, Option.bind_some]
    refine ⟨d, ?_, hframes, hbefore'.trans hlast⟩
    dsimp only
    cases chomping with
    | strip => rfl
    | clip => rfl
    | keep =>
      have hkeeps : c.keepsBreaks = true := by simp [keepsBreaks, hheader]
      have hopen' : c₄.Open := hlast.ended.resolve_right fun hover =>
        hkept ⟨hkeeps, hover.1.1⟩
      rw [hsame hopen']
      rfl
  · rw [blockLines_of_ended hover.1] at hlines
    cases hlines
    rw [blockLines_of_ended hrest, Option.bind_eq_bind, Option.bind_some]
    refine ⟨d, ?_, .inr ⟨hover, hlater, .inl hrest⟩, hbefore'⟩
    cases chomping with
    | strip => rfl
    | clip => rfl
    | keep => exact absurd ⟨by simp [keepsBreaks, hheader], hover.1⟩ hkept

end LayeredConfig.Yaml
