import LayeredConfig.Yaml.Cursor
import Mathlib.Data.List.Basic
import Mathlib.Data.List.TakeWhile

/-!
A text in a frame: a header line of four characters stands in front of it and a line feed behind.
A place in the text and the same place in the framed text look alike, as far as the text goes on.
-/

namespace LayeredConfig.Yaml

/-- A line break that no line feed behind it is taken into. -/
def isFinalBreak (x : Char) : Bool := isBreakChar x && x != '\r'

def breakChars : List Char := ['\n', '\r', '\x85', '\u2028', '\u2029']

theorem mem_breakChars {x : Char} (h : isBreakChar x = true) : x ∈ breakChars := by
  simp only [isBreakChar, Bool.or_eq_true, beq_iff_eq] at h
  rcases h with (((rfl | rfl) | h) | h) | h
  · simp [breakChars]
  · simp [breakChars]
  all_goals
    rw [← Char.ofNat_toNat x, h]
    decide

theorem isBlankChar_of_isBreakChar {x : Char} (h : isBreakChar x = true) :
    isBlankChar x = false :=
  (by decide : ∀ x ∈ breakChars, isBlankChar x = false) x (mem_breakChars h)

namespace Cursor

/-- The text goes on, and ends with a line break. -/
def Open (c : Cursor) : Prop := c.rest.getLast?.any isFinalBreak = true

/-- The text is over, and a line has just begun. -/
def Over (c : Cursor) : Prop := c.rest = [] ∧ c.column = 0

def framed (c : Cursor) : Cursor := ⟨c.rest ++ ['\n'], c.index + 4, c.line + 1, c.column⟩

/-- A place in the framed text is where a place in the text is: the same one as long as the text
goes on, and any later one where the text is over. -/
def Frames (c d : Cursor) : Prop :=
  c.Open ∧ d = c.framed ∨ c.Over ∧ c.line < d.line ∧ (d.rest = [] ∨ d.rest = ['\n'])

/-- One place is reached from another: it is not on an earlier line, and if the text is over there
then it is on a later one. -/
structure Before (c c' : Cursor) : Prop where
  line_le : c.line ≤ c'.line
  ended : c'.Open ∨ c'.Over ∧ c.line < c'.line

variable {c c' c'' : Cursor} {x : Char} {p : Char → Bool}

theorem Open.ne_nil (h : c.Open) : c.rest ≠ [] := by
  intro hnil
  simp [Open, hnil] at h

theorem Over.not_open (h : c.Over) : ¬c.Open := fun hopen => hopen.ne_nil h.1

theorem Open.frames (h : c.Open) : c.Frames c.framed := .inl ⟨h, rfl⟩

theorem frames_framed (h : c.Open ∨ c.Over) : c.Frames c.framed := by
  rcases h with h | h
  · exact .inl ⟨h, rfl⟩
  · exact .inr ⟨h, Nat.lt_succ_self _, .inr (by simp [framed, h.1])⟩

theorem Before.refl (h : c.Open) : c.Before c := ⟨le_rfl, .inl h⟩

theorem Before.trans (h : c.Before c') (h' : c'.Before c'') : c.Before c'' := by
  refine ⟨h.line_le.trans h'.line_le, h'.ended.imp_right fun h'' => ⟨h''.1, ?_⟩⟩
  have := h.line_le
  omega

@[simp] theorem rest_framed : c.framed.rest = c.rest ++ ['\n'] := rfl

@[simp] theorem column_framed : c.framed.column = c.column := rfl

/-! ### Looking ahead -/

theorem Open.head_framed (h : c.Open) : c.framed.head = c.head := by
  obtain ⟨x, rest, hrest⟩ := List.exists_cons_of_ne_nil h.ne_nil
  simp [head, hrest]

theorem any_head_framed (hp : p '\n' = false) : c.framed.head.any p = c.head.any p := by
  cases hrest : c.rest <;> simp [head, hrest, hp]

theorem startsWith_framed (hx : x ≠ '\n') : c.framed.startsWith x = c.startsWith x := by
  cases hrest : c.rest <;> simp [startsWith, head, hrest, hx.symm]

@[simp] theorem atBlank_framed : c.framed.atBlank = c.atBlank :=
  any_head_framed rfl

theorem Open.atBreak_framed (h : c.Open) : c.framed.atBreak = c.atBreak := by
  rw [atBreak, atBreak, h.head_framed]

theorem Open.breakText_framed (h : c.Open) : c.framed.breakText = c.breakText := by
  rw [breakText, breakText, h.head_framed]

/-- Where the text is over a line feed comes; both are gaps. -/
theorem isGap_getElem?_framed (cs : List Char) (i : ℕ) :
    isGap (cs ++ ['\n'])[i]? = isGap cs[i]? := by
  rcases lt_trichotomy i cs.length with h | rfl | h
  · rw [List.getElem?_append_left h]
  · simp [isGap, isBreakChar]
  · rw [List.getElem?_append_right h.le, List.getElem?_eq_none h.le,
      List.getElem?_eq_none (by simp; omega)]

@[simp] theorem isGap_peek_framed (ahead : ℕ) :
    isGap (c.framed.peek ahead) = isGap (c.peek ahead) :=
  isGap_getElem?_framed c.rest ahead

@[simp] theorem isGap_head_framed : isGap c.framed.head = isGap c.head := by
  simpa [peek, head, List.head?_eq_getElem?] using isGap_getElem?_framed c.rest 0

@[simp] theorem isBreakOrEnd_head_framed : isBreakOrEnd c.framed.head = isBreakOrEnd c.head := by
  cases hrest : c.rest <;> simp [head, hrest, isBreakOrEnd, isBreakChar]

theorem peek_framed_eq_some_iff {ahead : ℕ} (hx : x ≠ '\n') :
    c.framed.peek ahead = some x ↔ c.peek ahead = some x := by
  rw [peek, peek, rest_framed]
  rcases lt_trichotomy ahead c.rest.length with h | h | h
  · rw [List.getElem?_append_left h]
  · subst h
    simp [hx.symm]
  · rw [List.getElem?_append_right h.le, List.getElem?_eq_none h.le,
      List.getElem?_eq_none (by simp; omega)]

theorem atMarker_framed (hx : x ≠ '\n') : c.framed.atMarker x = c.atMarker x := by
  have htake : (c.framed.rest.take 3 == [x, x, x]) = (c.rest.take 3 == [x, x, x]) := by
    rw [rest_framed]
    match c.rest with
    | [] | [_] | [_, _] => simp [hx.symm]
    | _ :: _ :: _ :: _ => rfl
  rw [atMarker, atMarker, htake, isGap_peek_framed, column_framed]

@[simp] theorem atDocumentBound_framed : c.framed.atDocumentBound = c.atDocumentBound := by
  rw [atDocumentBound, atMarker_framed (by decide), atMarker_framed (by decide), atDocumentBound]

/-! ### Moving on -/

theorem open_drop {n : ℕ} (h : c.Open) (hn : n < c.rest.length) : (c.skipMany n).Open := by
  rw [Open, skipMany, List.getLast?_drop, if_neg (by omega)]
  exact h

/-- What is no line break is not the end of the text. -/
theorem Open.skipMany {n : ℕ} (h : c.Open) (hn : ∀ x ∈ c.rest.take n, isBreakChar x = false) :
    n < c.rest.length ∧ (c.skipMany n).Open := by
  have hlt : n < c.rest.length := by
    by_contra hle
    rw [List.take_of_length_le (not_lt.1 hle)] at hn
    cases hlast : c.rest.getLast? with
    | none => simp [Open, hlast] at h
    | some x =>
      have hbreak := hn x (List.mem_of_getLast? hlast)
      simp [Open, hlast, isFinalBreak, hbreak] at h
  exact ⟨hlt, open_drop h hlt⟩

@[simp] theorem skipMany_zero : c.skipMany 0 = c := by
  simp only [Cursor.skipMany, List.drop_zero, Nat.zero_min, Nat.add_zero]

theorem skipMany_framed {n : ℕ} (h : n ≤ c.rest.length) :
    c.framed.skipMany n = (c.skipMany n).framed := by
  simp [Cursor.skipMany, framed, List.drop_append_of_le_length h]
  omega

theorem Before.skipMany {n : ℕ} (h : c.Open) (hn : n < c.rest.length) :
    c.Before (c.skipMany n) :=
  ⟨le_rfl, .inl (open_drop h hn)⟩

theorem Open.skip_eq (h : c.Open) : c.skip = c.skipMany 1 := by
  obtain ⟨x, rest, hrest⟩ := List.exists_cons_of_ne_nil h.ne_nil
  simp [Cursor.skip, Cursor.skipMany, hrest]

theorem Open.skip_framed (h : c.Open) : c.framed.skip = c.skip.framed := by
  obtain ⟨x, rest, hrest⟩ := List.exists_cons_of_ne_nil h.ne_nil
  simp only [Cursor.skip, framed, hrest, List.cons_append]

theorem Open.skip (h : c.Open) (hx : c.atBreak = false) : c.skip.Open := by
  rw [h.skip_eq]
  refine (h.skipMany ?_).2
  obtain ⟨x, rest, hrest⟩ := List.exists_cons_of_ne_nil h.ne_nil
  simpa [atBreak, head, hrest] using hx

theorem takeWhile_append_singleton {p : Char → Bool} (hx : p x = false) (cs : List Char) :
    (cs ++ [x]).takeWhile p = cs.takeWhile p := by
  induction cs with
  | nil => simp [hx]
  | cons c cs ih => simp only [List.cons_append, List.takeWhile_cons, ih]

theorem takeWhile_framed (hp : p '\n' = false) :
    c.framed.takeWhile p = ((c.takeWhile p).1, (c.takeWhile p).2.framed) := by
  have htaken : c.framed.rest.takeWhile p = c.rest.takeWhile p := takeWhile_append_singleton hp _
  rw [takeWhile, takeWhile, htaken, skipMany_framed (List.takeWhile_prefix p).length_le]

/-- A property that breaks do not have holds nowhere at the end of the text. -/
theorem Open.takeWhile (h : c.Open) (hp : ∀ x, isBreakChar x = true → p x = false) :
    (c.takeWhile p).2.Open := by
  refine (h.skipMany fun x hx => ?_).2
  rw [← List.prefix_iff_eq_take.1 (List.takeWhile_prefix p)] at hx
  by_contra hbreak
  simpa [hp x (by simpa using hbreak)] using List.mem_takeWhile_imp hx

theorem skipWhile_framed (hp : p '\n' = false) :
    c.framed.skipWhile p = (c.skipWhile p).framed := by
  rw [skipWhile, takeWhile_framed hp, skipWhile]

theorem Open.skipWhile (h : c.Open) (hp : ∀ x, isBreakChar x = true → p x = false) :
    (c.skipWhile p).Open :=
  h.takeWhile hp

theorem skipComment_framed : c.framed.skipComment = c.skipComment.framed := by
  rw [skipComment, startsWith_framed (by decide), skipWhile_framed (by decide), skipComment]
  split <;> rfl

theorem Open.skipComment (h : c.Open) : c.skipComment.Open := by
  rw [Cursor.skipComment]
  split
  · exact h.skipWhile fun x hx => by simp [hx]
  · exact h

@[simp] theorem line_skipWhile : (c.skipWhile p).line = c.line := rfl

@[simp] theorem line_skipComment : c.skipComment.line = c.line := by
  rw [skipComment]
  split <;> rfl

@[simp] theorem line_skip : c.skip.line = c.line := by
  rw [Cursor.skip]
  split <;> rfl

theorem length_skip : c.skip.rest.length ≤ c.rest.length := by
  rw [Cursor.skip]
  split
  · exact le_rfl
  · next hrest => simp [hrest]

theorem length_skipWhile : (c.skipWhile p).rest.length ≤ c.rest.length := by
  simp [Cursor.skipWhile, Cursor.takeWhile, Cursor.skipMany]

theorem length_skipComment : c.skipComment.rest.length ≤ c.rest.length := by
  rw [Cursor.skipComment]
  split
  · exact length_skipWhile
  · exact le_rfl

/-! ### The next line -/

theorem skipLine_of_cons {rest : List Char} (hrest : c.rest = x :: rest)
    (hpair : ¬(x = '\r' ∧ rest.head? = some '\n')) : c.skipLine =
      if isBreakChar x then ⟨rest, c.index + 1, c.line + 1, 0⟩ else c := by
  rw [skipLine, hrest]
  split
  · next heq =>
    obtain ⟨rfl, rfl⟩ := List.cons.inj heq
    exact absurd ⟨rfl, rfl⟩ hpair
  · next heq =>
    obtain ⟨rfl, rfl⟩ := List.cons.inj heq
    rfl
  · next heq => cases heq

theorem skipLine_of_pair {rest : List Char} (hrest : c.rest = '\r' :: '\n' :: rest) :
    c.skipLine = ⟨rest, c.index + 2, c.line + 1, 0⟩ := by
  rw [skipLine, hrest]
  rfl

/-- Either a carriage return and a line feed come next, or a single character. -/
theorem Open.rest_cases (h : c.Open) : (∃ rest, c.rest = '\r' :: '\n' :: rest) ∨
    ∃ x rest, c.rest = x :: rest ∧ ¬(x = '\r' ∧ rest.head? = some '\n') ∧
      (rest = [] → isFinalBreak x = true) := by
  obtain ⟨x, rest, hrest⟩ := List.exists_cons_of_ne_nil h.ne_nil
  by_cases hpair : x = '\r' ∧ rest.head? = some '\n'
  · obtain ⟨rfl, hhead⟩ := hpair
    obtain ⟨rest, rfl⟩ := List.head?_eq_some_iff.1 hhead
    exact .inl ⟨rest, hrest⟩
  · refine .inr ⟨x, rest, hrest, hpair, ?_⟩
    rintro rfl
    simpa [Open, hrest] using h

theorem Open.skipLine_framed (h : c.Open) : c.framed.skipLine = c.skipLine.framed := by
  rcases h.rest_cases with ⟨rest, hrest⟩ | ⟨x, rest, hrest, hpair, hlast⟩
  · have hframed : c.framed.rest = '\r' :: '\n' :: (rest ++ ['\n']) := by simp [hrest]
    rw [skipLine_of_pair hrest, skipLine_of_pair hframed]
    rfl
  · have hframed : c.framed.rest = x :: (rest ++ ['\n']) := by simp [hrest]
    have hpair' : ¬(x = '\r' ∧ (rest ++ ['\n']).head? = some '\n') := by
      cases rest with
      | nil =>
        have hfinal := hlast rfl
        rintro ⟨rfl, -⟩
        simp [isFinalBreak] at hfinal
      | cons y rest => exact hpair
    rw [skipLine_of_cons hrest hpair, skipLine_of_cons hframed hpair']
    split <;> rfl

/-- After a line break the text goes on, or it is over. -/
theorem Open.skipLine (h : c.Open) (hbreak : c.atBreak = true) :
    c.skipLine.line = c.line + 1 ∧ (c.skipLine.Open ∨ c.skipLine.Over) := by
  have hover (d : Cursor) (hd : d.column = 0) (hlast : d.rest ≠ [] → d.Open) :
      d.Open ∨ d.Over := by
    by_cases hnil : d.rest = []
    · exact .inr ⟨hnil, hd⟩
    · exact .inl (hlast hnil)
  have hopen (rest : List Char) (front : List Char) (hrest : c.rest = front ++ rest)
      (hne : rest ≠ []) : rest.getLast?.any isFinalBreak = true := by
    have hlast := h
    rw [Open, hrest, List.getLast?_append, List.getLast?_eq_getLast_of_ne_nil hne,
      Option.some_or] at hlast
    rwa [List.getLast?_eq_getLast_of_ne_nil hne]
  rcases h.rest_cases with ⟨rest, hrest⟩ | ⟨x, rest, hrest, hpair, -⟩
  · rw [skipLine_of_pair hrest]
    exact ⟨rfl, hover _ rfl (hopen rest ['\r', '\n'] hrest)⟩
  · have hx : isBreakChar x = true := by simpa [atBreak, head, hrest] using hbreak
    rw [skipLine_of_cons hrest hpair, if_pos hx]
    exact ⟨rfl, hover _ rfl (hopen rest [x] hrest)⟩

/-- Where no break comes next, there is no line break to pass. -/
theorem Open.skipLine_eq (h : c.Open) (hbreak : c.atBreak = false) : c.skipLine = c := by
  rcases h.rest_cases with ⟨rest, hrest⟩ | ⟨x, rest, hrest, hpair, -⟩
  · simp [atBreak, head, hrest, isBreakChar] at hbreak
  · have hx : isBreakChar x = false := by simpa [atBreak, head, hrest] using hbreak
    rw [skipLine_of_cons hrest hpair, if_neg (by simp [hx])]

theorem length_skipLine (hbreak : c.atBreak = true) : c.skipLine.rest.length < c.rest.length := by
  rw [atBreak, head] at hbreak
  rw [Cursor.skipLine]
  split
  · next hrest =>
    rw [hrest, List.length_cons, List.length_cons]
    exact Nat.lt_add_of_pos_right Nat.two_pos
  · next x rest hrest =>
    rw [if_pos (by simpa [hrest] using hbreak), hrest]
    exact Nat.lt_succ_self _
  · next hrest => simp [hrest] at hbreak

theorem Before.skipLine (h : c.Open) : c.Before c.skipLine := by
  cases hbreak : c.atBreak with
  | true =>
    obtain ⟨hline, hended⟩ := h.skipLine hbreak
    exact ⟨by omega, hended.imp_right fun hover => ⟨hover, by omega⟩⟩
  | false =>
    rw [h.skipLine_eq hbreak]
    exact .refl h

theorem endLine?_framed (h : c.Open) (hend : c.endLine? = some c') :
    c.framed.endLine? = some c'.framed ∧ c.Before c' := by
  have hopen := (h.skipWhile fun _ => isBlankChar_of_isBreakChar).skipComment
  rw [endLine?] at hend ⊢
  rw [skipWhile_framed (by decide), skipComment_framed, isBreakOrEnd_head_framed,
    hopen.skipLine_framed]
  split at hend
  · next hbreak =>
    obtain rfl := Option.some.inj hend
    exact ⟨if_pos hbreak, Before.trans ⟨by simp, .inl hopen⟩ (.skipLine hopen)⟩
  · cases hend

end Cursor

end LayeredConfig.Yaml
