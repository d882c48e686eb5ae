import LayeredConfig.Proofs.Yaml.Tokens

namespace LayeredConfig.Yaml

open Cursor

namespace Tokenizer

variable {t u : Tokenizer} {c d : Cursor}

/-! ### The next token's place -/

/-- Past a byte order mark, blanks and a comment on a line. -/
def onLine (t : Tokenizer) : Cursor :=
  ((if t.cursor.column = 0 ∧ t.cursor.startsWith '\ufeff' then t.cursor.skip
    else t.cursor).skipWhile fun x =>
      x == ' ' || (x == '\t' && (t.inFlow || !t.keyAllowed))).skipComment

theorem toNext_succ (fuel : ℕ) (t : Tokenizer) : toNext (fuel + 1) t =
    if t.onLine.atBreak then
      toNext fuel { t with cursor := t.onLine.skipLine, keyAllowed := t.keyAllowed || !t.inFlow }
    else { t with cursor := t.onLine } :=
  rfl

theorem onLine_framed (h : t.cursor.Open) :
    t.framed.onLine = t.onLine.framed ∧ t.cursor.Along t.onLine := by
  have hmark : t.cursor.Along (if t.cursor.column = 0 ∧ t.cursor.startsWith '\ufeff'
      then t.cursor.skip else t.cursor) := by
    split
    · next hmark => exact h.alongSkip (atBreak_of_startsWith hmark.2 (by decide))
    · exact ⟨h, rfl⟩
  have hmark' : (if t.cursor.column = 0 ∧ t.cursor.startsWith '\ufeff'
      then t.cursor.framed.skip else t.cursor.framed) =
        (if t.cursor.column = 0 ∧ t.cursor.startsWith '\ufeff'
          then t.cursor.skip else t.cursor).framed := by
    rw [h.skip_framed, ← apply_ite]
  have hblanks := hmark.trans (hmark.isOpen.alongTakeWhile
    (p := fun x => x == ' ' || (x == '\t' && (t.inFlow || !t.keyAllowed))) fun x hx => by
      have hblank := isBlankChar_of_isBreakChar hx
      simp only [isBlankChar, Bool.or_eq_false_iff] at hblank
      simp [hblank])
  have hallowed : t.framed.keyAllowed = t.keyAllowed := rfl
  refine ⟨?_, hblanks.isOpen.skipComment, line_skipComment.trans hblanks.line_eq⟩
  rw [onLine, cursor_framed, column_framed, startsWith_framed (by decide), inFlow_framed,
    hallowed, hmark', skipWhile_framed (by simp), skipComment_framed]
  rfl

theorem length_onLine (t : Tokenizer) : t.onLine.rest.length ≤ t.cursor.rest.length := by
  refine length_skipComment.trans (length_skipWhile.trans ?_)
  split
  · exact length_skip
  · exact le_rfl

/-- At such a character nothing is passed over on its line. -/
def stands (x : Char) : Bool := !(isBlankChar x || x == '#' || x == '\ufeff')

theorem onLine_of_stands (h : t.cursor.head.all stands = true) : t.onLine = t.cursor := by
  have hskip (p : Char → Bool) (hp : ∀ x, stands x = true → p x = false) :
      t.cursor.skipWhile p = t.cursor := by
    rw [skipWhile, Cursor.takeWhile]
    cases hrest : t.cursor.rest with
    | nil => simp
    | cons x rest => simp [hp x (by simpa [head, hrest] using h)]
  have hstarts (x : Char) (hx : stands x = false) : t.cursor.startsWith x = false := by
    rw [startsWith, beq_eq_false_iff_ne]
    intro hhead
    simp [hhead, hx] at h
  have hcomment : t.cursor.skipComment = t.cursor := by
    rw [skipComment, hstarts '#' (by decide), if_neg (by decide)]
  rw [onLine, hstarts '\ufeff' (by decide), if_neg (by simp), hskip, hcomment]
  intro x hx
  simp only [stands, isBlankChar, Bool.not_eq_true', Bool.or_eq_false_iff] at hx
  simp [hx]

theorem toNext_of_ended (h : t.cursor.rest = []) (fuel : ℕ) : t.toNext fuel = t := by
  cases fuel with
  | zero => rfl
  | succ fuel =>
    rw [toNext_succ, onLine_of_stands (by simp [head, h]), if_neg (by simp [atBreak, head, h])]

/-- The same at another place, where a key may be allowed. -/
def moved (t : Tokenizer) (c : Cursor) (keyAllowed : Bool) : Tokenizer :=
  { t with cursor := c, keyAllowed }

theorem toNext_eq_moved (fuel : ℕ) (t : Tokenizer) :
    ∃ c keyAllowed, t.toNext fuel = t.moved c keyAllowed := by
  induction fuel generalizing t with
  | zero => exact ⟨t.cursor, t.keyAllowed, rfl⟩
  | succ fuel ih =>
    rw [toNext_succ]
    split
    · exact ih (t.moved t.onLine.skipLine (t.keyAllowed || !t.inFlow))
    · exact ⟨t.onLine, t.keyAllowed, rfl⟩

theorem toNext_of_feed (h : t.cursor.rest = [] ∨ t.cursor.rest = ['\n']) (fuel : ℕ) :
    ∃ e keyAllowed, t.toNext (fuel + 1) = t.moved e keyAllowed ∧ e.rest = [] ∧
      t.cursor.line ≤ e.line := by
  by_cases hend : t.cursor.rest = []
  · exact ⟨t.cursor, t.keyAllowed, toNext_of_ended hend _, hend, le_rfl⟩
  have hfeed := h.resolve_left hend
  have hline : t.cursor.skipLine = ⟨[], t.cursor.index + 1, t.cursor.line + 1, 0⟩ :=
    skipLine_of_cons hfeed (by simp)
  have hstands : t.cursor.head.all stands = true := by simp [head, hfeed, stands, isBlankChar]
  rw [toNext_succ, onLine_of_stands hstands,
    if_pos (by simp [atBreak, head, hfeed, isBreakChar]), hline]
  exact ⟨_, _, toNext_of_ended rfl _, rfl, Nat.le_succ _⟩

/-- The next token is found at the same place, or there is none, neither here nor there. -/
theorem toNext_framed {fuel : ℕ} (h : t.cursor.Open) (hfuel : t.cursor.rest.length < fuel) :
    t.cursor.Before (t.toNext fuel).cursor ∧
      ((t.toNext fuel).cursor.Open ∧ (t.toNext fuel).cursor.atBreak = false ∧
          t.framed.toNext (fuel + 1) = (t.toNext fuel).framed ∨
        (t.toNext fuel).cursor.Over ∧ ∃ e keyAllowed,
          t.framed.toNext (fuel + 1) = (t.toNext fuel).framed.moved e keyAllowed ∧
            e.rest = [] ∧ (t.toNext fuel).cursor.line < e.line) := by
  induction fuel generalizing t with
  | zero => omega
  | succ fuel ih =>
    obtain ⟨honLine, halong⟩ := onLine_framed h
    have hbefore := halong.before.trans (.skipLine halong.isOpen)
    rw [toNext_succ fuel t, toNext_succ (fuel + 1) t.framed, honLine, halong.isOpen.atBreak_framed,
      halong.isOpen.skipLine_framed, inFlow_framed]
    split
    · next hbreak =>
      let t₁ : Tokenizer :=
        { t with cursor := t.onLine.skipLine, keyAllowed := t.keyAllowed || !t.inFlow }
      have hlength : t₁.cursor.rest.length < fuel := by
        have := length_skipLine hbreak
        have := length_onLine t
        simp only [t₁]
        omega
      rcases (halong.isOpen.skipLine hbreak).2 with hopen | hover
      · obtain ⟨hlast, hended⟩ := ih (t := t₁) hopen hlength
        exact ⟨hbefore.trans hlast, hended⟩
      · have hsame : t₁.toNext fuel = t₁ := toNext_of_ended hover.1 _
        obtain ⟨e, keyAllowed, he, hrest, hline⟩ := toNext_of_feed (t := t₁.framed)
          (.inr (by simp [t₁, hover.1])) fuel
        have hline' : t₁.framed.cursor.line = t₁.cursor.line + 1 := rfl
        change t.cursor.Before (t₁.toNext fuel).cursor ∧ _
        rw [hsame]
        exact ⟨hbefore, .inr ⟨hover, e, keyAllowed, he, hrest, by omega⟩⟩
    · next hbreak =>
      exact ⟨halong.before, .inl ⟨halong.isOpen, by simpa using hbreak, rfl⟩⟩

/-! ### A whole run -/

def after (fuel : ℕ) (t : Tokenizer) : Option (List Token) := do
  let t ← t.dropStale
  match t.cursor.head with
  | none =>
    let t ← (t.closeTo (-1)).dropKey
    return (t.push .streamEnd).tokens.toList
  | some x => run fuel (← (t.closeTo t.cursor.column).takeToken x)

theorem run_succ (fuel : ℕ) (t : Tokenizer) :
    run (fuel + 1) t = (t.toNext (t.cursor.rest.length + 1)).after fuel :=
  rfl

theorem closeTo_moved (column : ℤ) (keyAllowed : Bool) :
    (t.moved c keyAllowed).closeTo column = (t.closeTo column).moved c keyAllowed := by
  have hblocks (outer : List ℤ) (t : Tokenizer) : closeBlocks column (t.moved c keyAllowed) outer =
      (closeBlocks column t outer).moved c keyAllowed := by
    induction outer generalizing t with
    | nil => rfl
    | cons next outer ih =>
      rw [closeBlocks, closeBlocks]
      have hindent : (t.moved c keyAllowed).indent = t.indent := rfl
      rw [hindent]
      split
      · exact ih { t.push .blockEnd with indent := next, outer }
      · rfl
  have hflow : (t.moved c keyAllowed).inFlow = t.inFlow := rfl
  rw [closeTo, closeTo, hflow]
  split
  · rfl
  · exact hblocks t.outer t

theorem dropKey_moved (keyAllowed : Bool) :
    (t.moved c keyAllowed).dropKey = t.dropKey.map (·.moved c keyAllowed) := by
  rw [dropKey, dropKey, setKey.eq_def, setKey.eq_def]
  have hpossible : (t.moved c keyAllowed).possible = t.possible := rfl
  rw [hpossible]
  cases t.possible with
  | nil => rfl
  | cons k? rest =>
    dsimp only
    split <;> rfl

/-- Where all keys are on lines before, they are all given up. -/
theorem dropStale_of_later (h : ∀ k, some k ∈ t.possible → k.line < t.cursor.line) :
    t.dropStale = if t.possible.any fun k? => k?.any (·.required) then none
      else some { t with possible := t.possible.map fun _ => none } := by
  have hany : (t.possible.any fun k? => k?.any fun k =>
      (k.line < t.cursor.line || k.index + 1024 < t.cursor.index) && k.required) =
        t.possible.any fun k? => k?.any (·.required) := by
    rw [Bool.eq_iff_iff, List.any_eq_true, List.any_eq_true]
    refine exists_congr fun k? => and_congr_right fun hk => ?_
    cases k? with
    | none => rfl
    | some k => simp [h k hk]
  have hkept : (t.possible.map fun k? => k?.filter fun k =>
      !(k.line < t.cursor.line || k.index + 1024 < t.cursor.index)) =
        t.possible.map fun _ => none := by
    refine List.map_congr_left fun k? hk => ?_
    cases k? with
    | none => rfl
    | some k => simp [Option.filter, h k hk]
  rw [dropStale]
  simp only [hany, hkept]

/-- Where the text is over, all that is left is to close the collections. -/
theorem after_of_over {fuel fuel' : ℕ} {tokens : List Token} {keyAllowed : Bool}
    (hrest : t.cursor.rest = []) (hkeys : ∀ k, some k ∈ t.possible → k.line < t.cursor.line)
    (hd : d.rest = []) (hline : t.cursor.line < d.line) (h : t.after fuel = some tokens) :
    (t.framed.moved d keyAllowed).after fuel' = some (.documentStart :: tokens) := by
  have hpossible : (t.framed.moved d keyAllowed).possible =
      t.possible.map (Option.map PossibleKey.framed) := rfl
  have hkeys' : ∀ k, some k ∈ (t.framed.moved d keyAllowed).possible →
      k.line < (t.framed.moved d keyAllowed).cursor.line := by
    intro k hk
    rw [hpossible] at hk
    obtain ⟨k?, hk?, heq⟩ := List.mem_map.1 hk
    obtain ⟨k', rfl, rfl⟩ := Option.map_eq_some_iff.1 heq
    have := hkeys k' hk?
    change k'.line + 1 < d.line
    omega
  have hrequired : ((t.possible.map (Option.map PossibleKey.framed)).any fun k? =>
      k?.any (·.required)) = t.possible.any fun k? => k?.any (·.required) := by
    rw [List.any_map]
    refine List.any_congr rfl fun k? => ?_
    cases k? <;> rfl
  rw [after, dropStale_of_later hkeys] at h
  rw [after, dropStale_of_later hkeys', hpossible, hrequired]
  split at h
  · cases h
  next hnone =>
  let t₁ : Tokenizer := { t with possible := t.possible.map fun _ => none }
  have hmoved : { t.framed.moved d keyAllowed with
      possible := (t.possible.map (Option.map PossibleKey.framed)).map fun _ => none } =
        t₁.framed.moved d keyAllowed := by
    simp [t₁, framed, moved, Function.comp_def]
  have hhead : t.cursor.head = none := by simp [head, hrest]
  have hhead' : d.head = none := by simp [head, hd]
  rw [if_neg hnone, hmoved]
  dsimp only [Option.bind_eq_bind, Option.bind_some] at h ⊢
  have hcursor : (t₁.framed.moved d keyAllowed).cursor = d := rfl
  rw [hhead] at h
  rw [hcursor, hhead', closeTo_moved, dropKey_moved, closeTo_framed, dropKey_framed]
  obtain ⟨t₂, hdrop, h⟩ := Option.bind_eq_some_iff.1 h
  have hdrop' : (t₁.closeTo (-1)).dropKey = some t₂ := hdrop
  obtain rfl := Option.some.inj h
  rw [hdrop']
  simp [push, moved, framed]

/-- The last token of the text is a block scalar that keeps the breaks at its end. -/
def endsKept : ℕ → Tokenizer → Bool
  | 0, _ => false
  | fuel + 1, t => match (t.toNext (t.cursor.rest.length + 1)).dropStale with
    | none => false
    | some t => match t.cursor.head with
      | none => false
      | some x =>
        let t := t.closeTo t.cursor.column
        match t.takeToken x with
        | none => false
        | some t' => t.atKept && t'.cursor.rest.isEmpty || endsKept fuel t'

/-- The end of the text is its only token, or the first one is part of a document's content. -/
def StartsContent (tokens : List Token) : Prop :=
  tokens = [.streamEnd] ∨ ∃ first rest, tokens = first :: rest ∧ first.bounds = false

theorem after_startsContent {fuel : ℕ} {tokens : List Token} (hrest : t.cursor.rest = [])
    (hleads : Leads t.tokens) (h : t.after fuel = some tokens) : StartsContent tokens := by
  obtain ⟨t₁, hstale, h⟩ := Option.bind_eq_some_iff.1 h
  have hmarks := dropStale_marks hstale
  have hhead : t₁.cursor.head = none := by simp [hmarks.cursor_eq, head, hrest]
  rw [hhead] at h
  obtain ⟨t₂, hdrop, h⟩ := Option.bind_eq_some_iff.1 h
  have hleads' := ((hmarks.trans (closeTo_marks t₁ (-1))).trans
    (dropKey_marks hdrop)).grows.leads hleads
  cases h
  rcases Nat.eq_zero_or_pos t₂.tokens.size with hsize | hsize
  · left
    simp [push, Array.eq_empty_of_size_eq_zero hsize]
  · right
    obtain ⟨first, rest, htokens⟩ := List.exists_cons_of_length_pos (l := t₂.tokens.toList) hsize
    refine ⟨first, rest ++ [.streamEnd], by simp [push, htokens], hleads' first ?_⟩
    rw [← Array.getElem?_toList, htokens]
    rfl

/-- The framed text has one token more, in front, unless a block scalar keeps its last breaks. -/
theorem run_framed {fuel fuel' : ℕ} {tokens : List Token} (hframes : t.Frames u)
    (hkeys : ∃ c₀ : Cursor, c₀.Before t.cursor ∧ t.KeysUpTo c₀.line) (hleads : Leads t.tokens)
    (hbound : (t.toNext (t.cursor.rest.length + 1)).atBound = true → 0 < t.tokens.size)
    (hrun : t.run fuel = some tokens) (hkept : t.endsKept fuel = false) (hfuel : fuel ≤ fuel') :
    u.run fuel' = some (.documentStart :: tokens) ∧ StartsContent tokens := by
  induction fuel generalizing fuel' t u with
  | zero => cases hrun
  | succ fuel ih =>
    obtain ⟨fuel', rfl⟩ := Nat.exists_eq_succ_of_ne_zero (Nat.ne_of_gt (Nat.zero_lt_of_lt hfuel))
    obtain ⟨c₀, hbefore, hkeys⟩ := hkeys
    obtain ⟨d, hd, rfl⟩ := hframes
    rw [run_succ] at hrun ⊢
    rcases hd with ⟨hopen, rfl⟩ | ⟨hover, hline, hrest⟩
    · have hlength : t.framed.cursor.rest.length = t.cursor.rest.length + 1 := by simp
      obtain ⟨hnext, hended⟩ := toNext_framed hopen (Nat.lt_succ_self _)
      obtain ⟨c, keyAllowed₁, hmoved⟩ := toNext_eq_moved (t.cursor.rest.length + 1) t
      have hpossible : (t.toNext (t.cursor.rest.length + 1)).possible = t.possible := by
        rw [hmoved, moved]
      have htokens : (t.toNext (t.cursor.rest.length + 1)).tokens = t.tokens := by
        rw [hmoved, moved]
      change (t.framed.toNext (t.framed.cursor.rest.length + 1)).after fuel' = _ ∧ _
      rw [hlength]
      rw [← htokens] at hleads hbound
      rcases hended with ⟨hopen₁, hbreak, hsame⟩ | ⟨hover, e, keyAllowed, hsame, hrest, hline⟩
      · -- The text goes on, so there is a token, and the same one in both texts.
        rw [hsame]
        rw [endsKept] at hkept
        clear hmoved
        generalize t.toNext (t.cursor.rest.length + 1) = t₁ at *
        obtain ⟨t₂, hstale, hrun⟩ := Option.bind_eq_some_iff.1 hrun
        have hcursor := (dropStale_marks hstale).cursor_eq
        have hmarks := (dropStale_marks hstale).trans (closeTo_marks t₂ t₁.cursor.column)
        obtain ⟨x, rest, hrest⟩ := List.exists_cons_of_ne_nil hopen₁.ne_nil
        have hhead : t₁.cursor.head = some x := by simp [head, hrest]
        have hx : isBreakChar x = false := by simpa [atBreak, hhead] using hbreak
        rw [hcursor, hhead] at hrun
        obtain ⟨t₃, htake, hrun⟩ := Option.bind_eq_some_iff.1 hrun
        rw [hstale] at hkept
        dsimp only at hkept
        rw [hcursor, hhead] at hkept
        dsimp only at hkept
        rw [htake] at hkept
        obtain ⟨hnot, hlater⟩ := Bool.or_eq_false_iff.1 hkept
        have hkeys₁ : t₁.KeysUpTo t₁.cursor.line := fun k hk =>
          (hkeys k (hpossible ▸ hk)).trans (hbefore.trans hnext).line_le
        obtain ⟨u, hu, hsteps⟩ := takeToken_framed (by rwa [hmarks.cursor_eq])
          (by rwa [hmarks.cursor_eq]) hx htake fun h => by simp [h.1, h.2] at hnot
        have hkeys₂ := hsteps.keys (by rw [hmarks.cursor_eq]; exact hmarks.keys hkeys₁)
        obtain ⟨hleads', hsize⟩ := hsteps.leads (hmarks.grows.leads hleads) fun hatBound => by
          rw [atBound, hmarks.cursor_eq] at hatBound
          exact (hbound hatBound).trans_le hmarks.grows.size_le
        rw [after, dropStale_framed, hstale, Option.map_some, Option.bind_eq_bind, Option.bind_some,
          cursor_framed, hcursor, hopen₁.head_framed, hhead, column_framed]
        dsimp only
        rw [closeTo_framed, hu]
        exact ih hsteps.frames ⟨_, hsteps.before, hkeys₂⟩ hleads' (fun _ => hsize) hrun hlater
          (Nat.le_of_succ_le_succ hfuel)
      · rw [hsame]
        refine ⟨after_of_over hover.1 (fun k hk => ?_) hrest hline hrun,
          after_startsContent hover.1 hleads hrun⟩
        have hlater := (hbefore.trans hnext).ended.resolve_left hover.not_open
        exact (hkeys k (hpossible ▸ hk)).trans_lt hlater.2
    · -- The text is over already, and at most its last line feed is still to be passed.
      obtain ⟨e, keyAllowed, he, hend, hle⟩ := toNext_of_feed
        (t := { t.framed with cursor := d }) hrest d.rest.length
      rw [toNext_of_ended hover.1] at hrun
      rw [he]
      refine ⟨after_of_over hover.1 (fun k hk => ?_) hend (hline.trans_le hle) hrun,
        after_startsContent hover.1 hleads hrun⟩
      have hlater := hbefore.ended.resolve_left hover.not_open
      exact (hkeys k hk).trans_lt hlater.2

theorem toNext_of_stands (h : t.cursor.head.all stands = true) (hbreak : t.cursor.atBreak = false)
    (fuel : ℕ) : t.toNext fuel = t := by
  cases fuel with
  | zero => rfl
  | succ fuel => rw [toNext_succ, onLine_of_stands h, if_neg (by simp [hbreak])]

/-- After the header line the tokenizer is where it starts in the text itself. -/
theorem run_header (text : List Char) (fuel : ℕ) :
    (start ('-' :: '-' :: '-' :: '\n' :: (text ++ ['\n']))).run (fuel + 2) =
      (start text).framed.run (fuel + 1) := by
  let t₁ : Tokenizer :=
    ⟨⟨'\n' :: (text ++ ['\n']), 3, 0, 3⟩, #[.documentStart], -1, [], false, [none]⟩
  have hmarker : (start ('-' :: '-' :: '-' :: '\n' :: (text ++ ['\n']))).after (fuel + 1) =
      t₁.run (fuel + 1) := by
    simp [after, dropStale, start, head, closeTo, closeBlocks, takeToken, kind?, takeKind,
      atMarker, peek, isGap, isBlankChar, isBreakChar, takeMarker, dropKey, setKey, push, skipMany,
      inFlow, t₁]
  have hfeed : t₁.toNext (t₁.cursor.rest.length + 1) =
      (start text).framed.toNext ((start text).framed.cursor.rest.length + 1) := by
    rw [toNext_succ, onLine_of_stands (by simp [t₁, head, stands, isBlankChar]),
      if_pos (by simp [t₁, atBreak, head, isBreakChar])]
    simp [t₁, skipLine, isBreakChar, start, framed, Cursor.framed, inFlow]
  rw [run_succ, toNext_of_stands (by simp [start, head, stands, isBlankChar])
    (by simp [start, atBreak, head, isBreakChar]), hmarker, run_succ, hfeed, run_succ]

end Tokenizer

/-- The tokens of a text end in a block scalar that keeps the breaks at the end of the text. -/
def endsKept (text : List Char) : Bool := (Tokenizer.start text).endsKept (text.length + 1)

def BeginsContent (text : List Char) : Prop :=
  text.head?.all Tokenizer.stands = true ∧ text.head?.any isBreakChar = false ∧
    (Tokenizer.start text).atBound = false

theorem Token.ofText?_framed {text : List Char} {tokens : List Token}
    (hlast : text.getLast?.any isFinalBreak = true) (hfirst : BeginsContent text)
    (h : Token.ofText? text = some tokens) (hkept : endsKept text = false) :
    Token.ofText? ('-' :: '-' :: '-' :: '\n' :: (text ++ ['\n'])) =
      some (.documentStart :: tokens) ∧ Tokenizer.StartsContent tokens := by
  obtain ⟨hstands, hbreak, hbound⟩ := hfirst
  have hmark : Token.ofText? text =
      if text.all isAllowed then (Tokenizer.start text).run (text.length + 1) else none := by
    rw [Token.ofText?.eq_def]
    cases text with
    | nil => rfl
    | cons x rest =>
      have hx : x.toNat ≠ 0xFEFF := by
        intro hx
        obtain rfl : x = '\ufeff' := by rw [← Char.ofNat_toNat x, hx]
        simp [Tokenizer.stands] at hstands
      dsimp only
      rw [if_neg hx]
  rw [hmark] at h
  split at h
  · next hallowed =>
    have hstart : (Tokenizer.start text).toNext (text.length + 1) = Tokenizer.start text :=
      Tokenizer.toNext_of_stands (t := Tokenizer.start text) hstands hbreak _
    obtain ⟨hrun, hstarts⟩ := Tokenizer.run_framed (t := Tokenizer.start text)
      ⟨_, Cursor.Open.frames hlast, rfl⟩
      ⟨_, .refl hlast, fun k hk => by simp [Tokenizer.start] at hk⟩
      (fun first hf => by simp [Tokenizer.start] at hf)
      (fun hatBound => by
        change ((Tokenizer.start text).toNext (text.length + 1)).atBound = true at hatBound
        rw [hstart, hbound] at hatBound
        cases hatBound) h hkept (Nat.le_add_right _ 4)
    refine ⟨?_, hstarts⟩
    have hallowed' : ('-' :: '-' :: '-' :: '\n' :: (text ++ ['\n'])).all isAllowed = true := by
      simpa [isAllowed] using hallowed
    have hlength : ('-' :: '-' :: '-' :: '\n' :: (text ++ ['\n'])).length + 1 =
        text.length + 4 + 2 := by simp
    have hdash : '-'.toNat ≠ 0xFEFF := by decide
    rw [Token.ofText?, if_neg hdash, if_pos hallowed', hlength, Tokenizer.run_header]
    exact hrun
  · cases h

end LayeredConfig.Yaml
