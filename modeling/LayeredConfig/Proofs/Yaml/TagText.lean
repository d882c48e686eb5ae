import LayeredConfig.Proofs.Yaml.Cursor
import LayeredConfig.Yaml.TagText

namespace LayeredConfig.Yaml

open Cursor

variable {c c' : Cursor}

/-- One place is reached from another on its line, and the text goes on there. -/
structure Cursor.Along (c c' : Cursor) : Prop where
  isOpen : c'.Open
  line_eq : c'.line = c.line

theorem Cursor.Along.before (h : c.Along c') : c.Before c' := ⟨h.line_eq.ge, .inl h.isOpen⟩

theorem Cursor.Along.trans {c'' : Cursor} (h : c.Along c') (h' : c'.Along c'') : c.Along c'' :=
  ⟨h'.isOpen, h'.line_eq.trans h.line_eq⟩

theorem Cursor.Open.alongSkip (h : c.Open) (hx : c.atBreak = false) : c.Along c.skip :=
  ⟨h.skip hx, line_skip⟩

theorem Cursor.Open.alongTakeWhile {p : Char → Bool} (h : c.Open)
    (hp : ∀ x, isBreakChar x = true → p x = false) : c.Along (c.takeWhile p).2 :=
  ⟨h.takeWhile hp, rfl⟩

theorem Cursor.atBreak_of_startsWith {x : Char} (h : c.startsWith x = true)
    (hx : isBreakChar x = false) : c.atBreak = false := by
  have hhead : c.head = some x := by simpa [startsWith] using h
  simp [atBreak, hhead, hx]

theorem isWordChar_of_isBreakChar {x : Char} (h : isBreakChar x = true) :
    isWordChar x = false :=
  (by decide : ∀ x ∈ breakChars, isWordChar x = false) x (mem_breakChars h)

theorem anchorName_framed {name : String} (h : c.Open) (hx : c.atBreak = false)
    (ha : anchorName c = some (name, c')) :
    anchorName c.framed = some (name, c'.framed) ∧ c.Along c' := by
  have halong := (h.alongSkip hx).trans
    ((h.skip hx).alongTakeWhile fun _ => isWordChar_of_isBreakChar)
  simp only [anchorName] at ha ⊢
  rw [h.skip_framed, takeWhile_framed (by decide), isGap_head_framed, any_head_framed (by simp)]
  split at ha
  · cases ha
  · next hends =>
    obtain ⟨rfl, rfl⟩ := Prod.mk.inj (Option.some.inj ha)
    exact ⟨if_neg hends, halong⟩

/-! ### Tags -/

theorem isBreakChar_of_digitValue? {base d : ℕ} {x : Char}
    (h : Decimal.digitValue? base x = some d) : isBreakChar x = false := by
  by_contra hbreak
  have hnone : ∀ x ∈ breakChars, Decimal.digitValue? base x = none := by
    simp [breakChars, Decimal.digitValue?]
  simp [hnone x (mem_breakChars (by simpa using hbreak))] at h

theorem isBreakChar_of_digitsOnto? {base acc n : ℕ} {cs : List Char}
    (h : Decimal.digitsOnto? base acc cs = some n) : ∀ x ∈ cs, isBreakChar x = false := by
  induction cs generalizing acc with
  | nil => simp
  | cons c cs ih =>
    rw [Decimal.digitsOnto?, Option.bind_eq_some_iff] at h
    obtain ⟨d, hd, hrest⟩ := h
    exact List.forall_mem_cons.2 ⟨isBreakChar_of_digitValue? hd, ih hrest⟩

theorem isBreakChar_of_natural? {base n : ℕ} {cs : List Char}
    (h : Decimal.natural? base cs = some n) : ∀ x ∈ cs, isBreakChar x = false := by
  unfold Decimal.natural? at h
  split at h
  · cases h
  · exact isBreakChar_of_digitsOnto? h

theorem isTagChar_of_isBreakChar {verbatim : Bool} {x : Char} (h : isBreakChar x = true) :
    isTagChar verbatim x = false := by
  have hall : ∀ x ∈ breakChars, isTagChar verbatim x = false := by
    cases verbatim <;> simp [breakChars, isTagChar] <;> decide
  exact hall x (mem_breakChars h)

theorem tagBytes_percent (verbatim : Bool) (fuel due : ℕ) (rest : List Char) :
    tagBytes verbatim (fuel + 1) due ('%' :: rest) =
      (tagBytes.codeByte? (rest.take 2)).bind fun byte =>
        (if due = 0 then encodedLength? byte
          else if byte / 64 = 2 then some due else none).bind fun due =>
            (tagBytes verbatim fuel (due - 1) (rest.drop 2)).map fun r =>
              (byte.toUInt8 :: r.1, r.2 + 3) := by
  rw [tagBytes, if_pos rfl]
  refine Option.bind_congr fun byte _ => ?_
  by_cases hdue : due = 0
  · rw [if_pos hdue, if_pos hdue]
    refine Option.bind_congr fun due _ => ?_
    dsimp only
    cases tagBytes verbatim fuel (due - 1) (rest.drop 2) <;> rfl
  · rw [if_neg hdue, if_neg hdue]
    by_cases hbyte : byte / 64 = 2
    · rw [if_pos hbyte, if_pos hbyte]
      dsimp only [Option.bind_eq_bind, Option.bind_some]
      cases tagBytes verbatim fuel (due - 1) (rest.drop 2) <;> rfl
    · rw [if_neg hbyte, if_neg hbyte]
      rfl

theorem tagBytes_char {verbatim : Bool} {fuel due : ℕ} {c : Char} (hc : c ≠ '%')
    (rest : List Char) : tagBytes verbatim (fuel + 1) due (c :: rest) =
      if due ≠ 0 then none
      else if isTagChar verbatim c then (tagBytes verbatim fuel 0 rest).map fun r =>
        ((String.singleton c).toUTF8.toList ++ r.1, r.2 + 1)
      else some ([], 0) := by
  rw [tagBytes, if_neg hc]
  cases tagBytes verbatim fuel 0 rest <;> rfl

/-- The characters of a tag are no breaks, so a line feed behind them changes nothing. -/
theorem tagBytes_framed {verbatim : Bool} {fuel fuel' due n : ℕ} {cs : List Char}
    {bytes : List UInt8} (h : tagBytes verbatim fuel due cs = some (bytes, n))
    (hfuel : fuel < fuel') :
    tagBytes verbatim fuel' due (cs ++ ['\n']) = some (bytes, n) ∧
      ∀ x ∈ cs.take n, isBreakChar x = false := by
  induction fuel generalizing fuel' due cs bytes n with
  | zero => simp [tagBytes] at h
  | succ fuel ih =>
    obtain ⟨fuel', rfl⟩ := Nat.exists_eq_succ_of_ne_zero (Nat.ne_of_gt (Nat.zero_lt_of_lt hfuel))
    cases cs with
    | nil =>
      rw [tagBytes] at h
      split at h
      · next hdue =>
        obtain ⟨rfl, rfl⟩ := Prod.mk.inj (Option.some.inj h)
        simp [tagBytes, hdue, isTagChar_of_isBreakChar (x := '\n') (by decide)]
      · cases h
      · simp
    | cons c rest =>
      have hless := Nat.lt_of_succ_lt_succ hfuel
      by_cases hc : c = '%'
      · subst hc
        rw [tagBytes_percent, Option.bind_eq_some_iff] at h
        obtain ⟨byte, hbyte, h⟩ := h
        obtain ⟨due', hdue, h⟩ := Option.bind_eq_some_iff.1 h
        obtain ⟨⟨more, m⟩, hmore, h⟩ := Option.map_eq_some_iff.1 h
        obtain ⟨rfl, rfl⟩ := Prod.mk.inj h
        obtain ⟨hframed, hnone⟩ := ih hmore hless
        -- Both digits are there, so the line feed is not taken for one.
        have hlength : 2 ≤ rest.length := by
          by_contra hshort
          have hdigits : (rest.take 2).length ≠ 2 := by
            rw [List.length_take]
            omega
          rw [tagBytes.codeByte?, if_neg hdigits] at hbyte
          cases hbyte
        have hdigits : ∀ x ∈ rest.take 2, isBreakChar x = false := by
          rw [tagBytes.codeByte?] at hbyte
          split at hbyte
          · exact isBreakChar_of_natural? hbyte
          · cases hbyte
        refine ⟨?_, ?_⟩
        · rw [List.cons_append, tagBytes_percent, List.take_append_of_le_length hlength,
            List.drop_append_of_le_length hlength, hbyte, Option.bind_some, hdue,
            Option.bind_some, hframed]
          rfl
        · rw [List.take_succ_cons, List.forall_mem_cons]
          refine ⟨by decide, fun x hx => ?_⟩
          rw [Nat.add_comm m 2, List.take_add, List.mem_append] at hx
          exact hx.elim (hdigits x) (hnone x)
      · rw [tagBytes_char hc] at h
        rw [List.cons_append, tagBytes_char hc]
        split at h
        · cases h
        · next hdue =>
          rw [if_neg hdue]
          split at h
          · next htag =>
            obtain ⟨⟨more, m⟩, hmore, h⟩ := Option.map_eq_some_iff.1 h
            obtain ⟨rfl, rfl⟩ := Prod.mk.inj h
            obtain ⟨hframed, hnone⟩ := ih hmore hless
            rw [if_pos htag, hframed]
            refine ⟨rfl, ?_⟩
            rw [List.take_succ_cons, List.forall_mem_cons]
            refine ⟨?_, hnone⟩
            by_contra hbreak
            simp [isTagChar_of_isBreakChar (by simpa using hbreak)] at htag
          · next htag =>
            obtain ⟨rfl, rfl⟩ := Prod.mk.inj (Option.some.inj h)
            rw [if_neg htag]
            exact ⟨rfl, by simp⟩

theorem tagChars_framed {verbatim : Bool} {bytes : List UInt8} (h : c.Open)
    (ht : tagChars verbatim c = some (bytes, c')) :
    tagChars verbatim c.framed = some (bytes, c'.framed) ∧ c.Along c' := by
  obtain ⟨⟨bytes, n⟩, hbytes, heq⟩ := Option.bind_eq_some_iff.1 ht
  obtain ⟨rfl, rfl⟩ := Prod.mk.inj (Option.some.inj heq)
  obtain ⟨hframed, hnone⟩ : tagBytes verbatim (c.framed.rest.length + 1) 0 c.framed.rest =
      some (bytes, n) ∧ ∀ x ∈ c.rest.take n, isBreakChar x = false :=
    tagBytes_framed hbytes (by simp)
  obtain ⟨hlt, hopen⟩ := h.skipMany hnone
  refine ⟨?_, hopen, rfl⟩
  rw [tagChars, hframed, ← skipMany_framed hlt.le]
  rfl

theorem tagHandle_framed {handle : String} (h : c.Open)
    (ht : tagHandle c = some (handle, c')) :
    tagHandle c.framed = some (handle, c'.framed) ∧ c.Along c' := by
  rw [tagHandle] at ht ⊢
  rw [startsWith_framed (by decide), h.skip_framed, takeWhile_framed (by decide)]
  split at ht
  · next hstart =>
    have hskip := h.alongSkip (atBreak_of_startsWith hstart (by decide))
    have hword := hskip.isOpen.alongTakeWhile fun _ => isWordChar_of_isBreakChar
    rw [if_pos hstart]
    dsimp only at ht ⊢
    rw [startsWith_framed (by decide), hword.isOpen.skip_framed]
    split at ht
    · next hend =>
      obtain ⟨rfl, rfl⟩ := Prod.mk.inj (Option.some.inj ht)
      rw [if_pos hend]
      exact ⟨rfl, (hskip.trans hword).trans
        (hword.isOpen.alongSkip (atBreak_of_startsWith hend (by decide)))⟩
    · next hend =>
      obtain ⟨rfl, rfl⟩ := Prod.mk.inj (Option.some.inj ht)
      rw [if_neg hend]
      exact ⟨rfl, hskip.trans hword⟩
  · cases ht

theorem tagBody_framed {tag : TagText} (h : c.Open) (hstart : c.startsWith '!' = true)
    (ht : tagBody c = some (tag, c')) :
    tagBody c.framed = some (tag, c'.framed) ∧ c.Along c' := by
  rw [tagBody] at ht ⊢
  by_cases hverbatim : c.peek 1 = some '<'
  · rw [if_pos hverbatim] at ht
    rw [if_pos ((peek_framed_eq_some_iff (by decide)).2 hverbatim)]
    have hskip := h.alongSkip (atBreak_of_startsWith hstart (by decide))
    have hangle : c.skip.atBreak = false := by
      have hhead : c.skip.head = some '<' := by
        rw [h.skip_eq]
        simpa [head, Cursor.skipMany, List.head?_drop, peek] using hverbatim
      simp [atBreak, hhead, isBreakChar]
    have hinner := hskip.trans (hskip.isOpen.alongSkip hangle)
    obtain ⟨⟨suffix, d⟩, hchars, ht⟩ := Option.bind_eq_some_iff.1 ht
    obtain ⟨hframed, hd⟩ := tagChars_framed hinner.isOpen hchars
    rw [h.skip_framed, hskip.isOpen.skip_framed, hframed]
    dsimp only [Option.bind_eq_bind, Option.bind_some] at ht ⊢
    rw [startsWith_framed (by decide)]
    split at ht
    · cases ht
    · next hends =>
      obtain ⟨rfl, rfl⟩ := Prod.mk.inj (Option.some.inj ht)
      have hclose : d.startsWith '>' = true := by
        simp only [Bool.or_eq_true, not_or, Bool.not_eq_true, Bool.not_eq_false'] at hends
        exact hends.2
      rw [if_neg hends, hd.isOpen.skip_framed]
      exact ⟨rfl, (hinner.trans hd).trans
        (hd.isOpen.alongSkip (atBreak_of_startsWith hclose (by decide)))⟩
  · rw [if_neg hverbatim] at ht
    rw [if_neg (mt (peek_framed_eq_some_iff (by decide)).1 hverbatim)]
    obtain ⟨⟨handle, d⟩, hhandle, ht⟩ := Option.bind_eq_some_iff.1 ht
    obtain ⟨⟨more, e⟩, hmore, ht⟩ := Option.bind_eq_some_iff.1 ht
    obtain ⟨hframed, hd⟩ := tagHandle_framed h hhandle
    obtain ⟨hframed', he⟩ := tagChars_framed hd.isOpen hmore
    rw [hframed]
    dsimp only [Option.bind_eq_bind, Option.bind_some] at ht ⊢
    rw [hframed']
    dsimp only [Option.bind_some]
    split at ht
    · next hnamed =>
      rw [if_pos hnamed]
      split at ht
      · cases ht
      · next hsome =>
        obtain ⟨rfl, rfl⟩ := Prod.mk.inj (Option.some.inj ht)
        rw [if_neg hsome]
        exact ⟨rfl, hd.trans he⟩
    · next hnamed =>
      obtain ⟨rfl, rfl⟩ := Prod.mk.inj (Option.some.inj ht)
      rw [if_neg hnamed]
      exact ⟨rfl, hd.trans he⟩

theorem tagToken_framed {inFlow : Bool} {tag : TagText} (h : c.Open)
    (hstart : c.startsWith '!' = true) (ht : tagToken inFlow c = some (tag, c')) :
    tagToken inFlow c.framed = some (tag, c'.framed) ∧ c.Along c' := by
  obtain ⟨⟨tag, d⟩, hbody, ht⟩ := Option.bind_eq_some_iff.1 ht
  obtain ⟨hframed, hd⟩ := tagBody_framed h hstart hbody
  rw [tagToken, hframed]
  dsimp only [Option.bind_eq_bind, Option.bind_some] at ht ⊢
  rw [isGap_head_framed, startsWith_framed (by decide)]
  split at ht
  · next hends =>
    obtain ⟨rfl, rfl⟩ := Prod.mk.inj (Option.some.inj ht)
    rw [if_pos hends]
    exact ⟨rfl, hd⟩
  · cases ht

/-! ### Directives -/

theorem isDigit_of_isBreakChar {x : Char} (h : isBreakChar x = true) : x.isDigit = false :=
  (by decide : ∀ x ∈ breakChars, x.isDigit = false) x (mem_breakChars h)

theorem versionNumber_framed {n : ℕ} (h : c.Open) (hv : versionNumber c = some (n, c')) :
    versionNumber c.framed = some (n, c'.framed) ∧ c.Along c' := by
  have halong := h.alongTakeWhile fun _ => isDigit_of_isBreakChar
  rw [versionNumber] at hv ⊢
  rw [takeWhile_framed (by decide)]
  dsimp only at hv ⊢
  split at hv
  · cases hv
  · next hlength =>
    obtain ⟨n, hn, heq⟩ := Option.map_eq_some_iff.1 hv
    obtain ⟨rfl, rfl⟩ := Prod.mk.inj heq
    rw [if_neg hlength, hn]
    exact ⟨rfl, halong⟩

theorem directive_framed {token : Token} (h : c.Open) (hx : c.atBreak = false)
    (hd : directive c = some (token, c')) :
    directive c.framed = some (token, c'.framed) ∧ c.Before c' := by
  have hname := (h.alongSkip hx).trans
    ((h.skip hx).alongTakeWhile fun _ => isWordChar_of_isBreakChar)
  have hblank (d : Cursor) (hd : d.Open) : d.Along (d.skipWhile isBlankChar) :=
    hd.alongTakeWhile fun _ => isBlankChar_of_isBreakChar
  have hinner := hname.trans (hblank _ hname.isOpen)
  rw [directive] at hd ⊢
  rw [h.skip_framed, takeWhile_framed (by decide)]
  dsimp only at hd ⊢
  rw [isGap_head_framed, skipWhile_framed (by decide)]
  split at hd
  · cases hd
  next hgap =>
  rw [if_neg hgap]
  split at hd
  · obtain ⟨⟨major, d⟩, hmajor, hd⟩ := Option.bind_eq_some_iff.1 hd
    obtain ⟨hmajor', halong⟩ := versionNumber_framed hinner.isOpen hmajor
    dsimp only at hd
    split at hd
    · cases hd
    next hdot =>
    have hstart : d.startsWith '.' = true := by simpa using hdot
    have hskip := halong.isOpen.alongSkip (atBreak_of_startsWith hstart (by decide))
    obtain ⟨⟨minor, e⟩, hminor, hd⟩ := Option.bind_eq_some_iff.1 hd
    obtain ⟨hminor', halong'⟩ := versionNumber_framed hskip.isOpen hminor
    obtain ⟨e', hend, hd⟩ := Option.bind_eq_some_iff.1 hd
    obtain ⟨rfl, rfl⟩ := Prod.mk.inj (Option.some.inj hd)
    obtain ⟨hend', hbefore⟩ := endLine?_framed halong'.isOpen hend
    refine ⟨?_, ((((hinner.trans halong).trans hskip).trans halong').before).trans hbefore⟩
    simp only [Option.bind_eq_bind, hmajor', Option.bind_some, startsWith_framed (c := d)
      (x := '.') (by decide), if_neg hdot, halong.isOpen.skip_framed, hminor', hend']
    rfl
  · obtain ⟨⟨handle, d⟩, hhandle, hd⟩ := Option.bind_eq_some_iff.1 hd
    obtain ⟨hhandle', halong⟩ := tagHandle_framed hinner.isOpen hhandle
    dsimp only at hd
    split at hd
    · cases hd
    next hnamed =>
    have hskip := hblank d halong.isOpen
    obtain ⟨⟨start, e⟩, hstart, hd⟩ := Option.bind_eq_some_iff.1 hd
    obtain ⟨hstart', halong'⟩ := tagChars_framed hskip.isOpen hstart
    dsimp only at hd
    split at hd
    · cases hd
    next hsome =>
    obtain ⟨e', hend, hd⟩ := Option.bind_eq_some_iff.1 hd
    obtain ⟨rfl, rfl⟩ := Prod.mk.inj (Option.some.inj hd)
    obtain ⟨hend', hbefore⟩ := endLine?_framed halong'.isOpen hend
    refine ⟨?_, ((((hinner.trans halong).trans hskip).trans halong').before).trans hbefore⟩
    simp only [Option.bind_eq_bind, hhandle', Option.bind_some, atBlank_framed, if_neg hnamed,
      skipWhile_framed (c := d) (p := isBlankChar) (by decide), hstart', isGap_head_framed,
      if_neg hsome, hend']
    rfl
  · cases hd

end LayeredConfig.Yaml
