import LayeredConfig.Proofs.Yaml.Reader
import LayeredConfig.Proofs.Decimal.Digits
import LayeredConfig.Yaml.Writer

namespace LayeredConfig

/-! ### Numbers -/

theorem not_mem_toString_nat (n : ℕ) : '\r' ∉ (toString n).toList := by
  rw [Nat.toString_eq_ofList_toDigits, String.toList_ofList]
  intro h
  obtain ⟨d, hd, heq⟩ := Decimal.digitChar_of_mem_toDigits (by decide) h
  have hdigits : ∀ d < 10, '\r' ≠ Nat.digitChar d := by decide
  exact hdigits d hd heq

theorem not_mem_toString_int (i : ℤ) : '\r' ∉ (toString i).toList := by
  cases i with
  | ofNat n => exact not_mem_toString_nat n
  | negSucc n =>
    have htext : toString (Int.negSucc n) = "-" ++ toString (n + 1) := rfl
    simpa [htext] using not_mem_toString_nat (n + 1)

theorem Decimal.FloatLayout.not_mem_render (layout : FloatLayout) (x : Digits) :
    '\r' ∉ (layout.render x).toList := by
  have hdigits := not_mem_toString_nat x.digits
  rw [render]
  dsimp only
  generalize toString x.digits = text at *
  split
  · simp [hdigits]
  split
  · have htake (n : ℕ) : '\r' ∉ text.toList.take n := fun h => hdigits (List.mem_of_mem_take h)
    have hdrop (n : ℕ) : '\r' ∉ text.toList.drop n := fun h => hdigits (List.mem_of_mem_drop h)
    simp only [String.toList_append, String.toList_ofList, List.mem_append, not_or]
    exact ⟨⟨htake _, by decide⟩, hdrop _⟩
  split
  · simp [hdigits]
  · simp only [String.toList_append, List.mem_append, not_or]
    refine ⟨⟨?_, by decide⟩, not_mem_toString_int _⟩
    split <;> simp_all

theorem Number.not_mem_text (n : Number) : '\r' ∉ n.text.toList := by
  cases n with
  | integer i => exact not_mem_toString_int i
  | float x =>
    have hrender := Decimal.FloatLayout.not_mem_render .standard
    rw [text, Decimal.Binary64.text.eq_def]
    dsimp only
    split
    · decide
    · split <;> decide
    · split <;> simp [hrender]
    · split <;> simp [hrender]

namespace Yaml

/-! ### The end -/

def EndsFinally (cs : List Char) : Prop := cs.getLast?.any isFinalBreak = true

variable {cs ds : List Char}

theorem EndsFinally.append (h : EndsFinally ds) : EndsFinally (cs ++ ds) := by
  cases hlast : ds.getLast? with
  | none => simp [EndsFinally, hlast] at h
  | some x =>
    rw [EndsFinally, List.getLast?_append, hlast, Option.some_or, ← hlast]
    exact h

theorem EndsFinally.of_append (h : EndsFinally cs) (hds : ds = [] ∨ EndsFinally ds) :
    EndsFinally (cs ++ ds) := by
  rcases hds with rfl | hds
  · rwa [List.append_nil]
  · exact hds.append

theorem endsFinally_lineBreak (h : cs.getLast? ≠ some '\r') : EndsFinally (lineBreak cs) := by
  rw [lineBreak, endsLine]
  split
  · next hbreak =>
    cases hlast : cs.getLast? with
    | none => simp [hlast] at hbreak
    | some x =>
      rw [hlast, Option.any_some] at hbreak
      have hx : x ≠ '\r' := fun hx => h (by rw [hlast, hx])
      simpa [EndsFinally, hlast, isFinalBreak, hbreak] using hx
  · exact EndsFinally.append rfl

theorem getLast?_append_ne {x : Char} (hcs : x ∉ cs) (hds : ds.getLast? ≠ some x) :
    (cs ++ ds).getLast? ≠ some x := by
  rw [List.getLast?_append]
  cases hlast : ds.getLast? with
  | none =>
    rw [Option.none_or]
    exact fun h => hcs (List.mem_of_getLast? h)
  | some y =>
    rw [Option.some_or, ← hlast]
    exact hds

theorem endsFinally_scalar (place : Place) (h : cs.getLast? ≠ some '\r') :
    EndsFinally (lineBreak (place.gap ++ cs)) := by
  refine endsFinally_lineBreak (getLast?_append_ne ?_ h)
  cases place <;> simp [Place.gap]

/-- A text without escapes holds no carriage return. -/
theorem getLast?_ne_of_needsEscapes (h : needsEscapes cs = false) :
    cs.getLast? ≠ some '\r' := by
  intro hlast
  have hany : cs.any (!isPrintable ·) = false := by
    rw [needsEscapes, Bool.or_eq_false_iff] at h
    exact h.1
  have hprintable := List.any_eq_false.1 hany '\r' (List.mem_of_getLast? hlast)
  exact absurd hprintable (by decide)

theorem getLast?_literalFrom (indent : ℕ) (broken : Bool) (cs : List Char) :
    (literalFrom indent broken cs).getLast? = cs.getLast? := by
  induction cs generalizing broken with
  | nil => cases broken <;> rfl
  | cons c cs ih =>
    rw [literalFrom]
    split
    · rw [List.getLast?_cons, ih, ← List.getLast?_cons]
    · rw [List.getLast?_append, List.getLast?_cons, ih, Option.some_or, ← List.getLast?_cons]

theorem getLast?_stringChars (indent : ℕ) (s : String) :
    (stringChars indent false s).getLast? ≠ some '\r' := by
  have hquoted (cs : List Char) (quote : Char) (hquote : quote ≠ '\r') :
      (cs ++ [quote]).getLast? ≠ some '\r' := by simpa using hquote
  rw [stringChars]
  split
  · split
    · next hblock =>
      simp only [allowsBlock, Bool.and_eq_true, Bool.not_eq_true', Bool.or_eq_false_iff] at hblock
      obtain ⟨⟨⟨hne, hescapes⟩, -⟩, -⟩ := hblock
      have hlast := getLast?_ne_of_needsEscapes hescapes
      rw [← getLast?_literalFrom indent true] at hlast
      rw [List.getLast?_append, List.getLast?_cons, Option.some_or]
      cases hlines : (literalFrom indent true s.toList).getLast? with
      | none => simp
      | some x => simpa [hlines] using hlast
    · exact hquoted _ _ (by decide)
  · split
    · exact hquoted _ _ (by decide)
    · split
      · next hplain =>
        refine getLast?_ne_of_needsEscapes ?_
        simp only [allowsPlain, Bool.and_eq_true, Bool.not_eq_true', Bool.or_eq_false_iff] at hplain
        exact hplain.1.1.2
      · split
        · exact hquoted _ _ (by decide)
        · exact hquoted _ _ (by decide)

mutual

theorem endsFinally_writeNode (column : ℕ) (place : Place) (d : Document) :
    EndsFinally (writeNode column place d) := by
  match d with
  | .null =>
    rw [writeNode]
    exact endsFinally_scalar place (by decide)
  | .bool b =>
    rw [writeNode]
    exact endsFinally_scalar place (by cases b <;> decide)
  | .number n =>
    rw [writeNode]
    exact endsFinally_scalar place fun h => n.not_mem_text (List.mem_of_getLast? h)
  | .string s =>
    rw [writeNode]
    exact endsFinally_scalar place (getLast?_stringChars _ s)
  | .sequence [] =>
    rw [writeNode]
    exact endsFinally_scalar place (by decide)
  | .sequence (d :: ds) =>
    rw [writeNode]
    refine EndsFinally.of_append ?_ (endsFinally_writeItems _ ds)
    rw [List.append_cons]
    exact (endsFinally_writeNode _ .item d).append
  | .mapping [] =>
    rw [writeNode]
    exact endsFinally_scalar place (by decide)
  | .mapping ((k, v) :: rest) =>
    rw [writeNode]
    exact EndsFinally.of_append (endsFinally_writeNode _ .value v).append
      (endsFinally_writeEntries _ rest)
  | .tagged tag content =>
    rw [writeNode]
    exact (endsFinally_writeNode column .value content).append

theorem endsFinally_writeItems (column : ℕ) (ds : List Document) :
    writeItems column ds = [] ∨ EndsFinally (writeItems column ds) := by
  match ds with
  | [] => exact .inl (by rw [writeItems])
  | d :: ds =>
    right
    rw [writeItems]
    refine EndsFinally.of_append ?_ (endsFinally_writeItems _ ds)
    rw [List.append_cons]
    exact (endsFinally_writeNode _ .item d).append

theorem endsFinally_writeEntries (column : ℕ) (entries : List (Document × Document)) :
    writeEntries column entries = [] ∨ EndsFinally (writeEntries column entries) := by
  match entries with
  | [] => exact .inl (by rw [writeEntries])
  | (k, v) :: rest =>
    right
    rw [writeEntries]
    exact EndsFinally.of_append (endsFinally_writeNode _ .value v).append
      (endsFinally_writeEntries _ rest)

end

/-! ### The beginning -/

theorem beginsContent_cons {x : Char} {rest : List Char} (hstands : Tokenizer.stands x = true)
    (hbreak : isBreakChar x = false) (hpercent : x ≠ '%')
    (hmarker : ∀ y ∈ ['-', '.'], (x :: rest).take 3 ≠ [y, y, y]) : BeginsContent (x :: rest) := by
  refine ⟨by simpa using hstands, by simpa using hbreak, ?_⟩
  have hnot (y : Char) (hy : y ∈ ['-', '.']) :
      (Tokenizer.start (x :: rest)).cursor.atMarker y = false := by
    have hne := hmarker y hy
    simp only [Cursor.atMarker, Tokenizer.start]
    rw [beq_eq_false_iff_ne.2 hne]
    rfl
  rw [Tokenizer.atBound, Cursor.atDocumentBound, hnot '-' (by simp), hnot '.' (by simp)]
  simpa [Tokenizer.start, Cursor.startsWith, Cursor.head] using hpercent

/-- A quote or a bracket begins content, whatever comes next. -/
theorem beginsContent_of_opening {x : Char} (hx : x ∈ ['\x22', '\x27', '?', '\x7b'])
    (rest : List Char) : BeginsContent (x :: rest) := by
  have hall : ∀ x ∈ ['\x22', '\x27', '?', '\x7b'], Tokenizer.stands x = true ∧
      isBreakChar x = false ∧ x ≠ '%' ∧ x ∉ ['-', '.'] := by decide
  obtain ⟨hstands, hbreak, hpercent, hnot⟩ := hall x hx
  refine beginsContent_cons hstands hbreak hpercent fun y hy htake => hnot ?_
  rw [List.take_succ_cons] at htake
  rwa [(List.cons.inj htake).1]

theorem beginsContent_plain {s : String} (hplain : allowsPlain s.toList = true)
    (hquotes : needsQuotes s = false) (rest : List Char) :
    BeginsContent (s.toList ++ ':' :: rest) := by
  simp only [allowsPlain, Bool.not_eq_true', Bool.or_eq_false_iff] at hplain
  obtain ⟨⟨⟨hindicator, hspacing⟩, hescapes⟩, hbreaks⟩ := hplain
  cases hcs : s.toList with
  | nil =>
    obtain rfl : s = "" := by rwa [String.toList_eq_nil_iff] at hcs
    exact absurd hquotes (by decide)
  | cons x tail =>
    rw [hcs] at hindicator hspacing hescapes hbreaks
    simp only [hasIndicator, Bool.or_eq_false_iff] at hindicator
    obtain ⟨⟨⟨⟨hdashes, hdots⟩, ⟨hsigns, -⟩, -⟩, -⟩, -⟩ := hindicator
    have hprintable : isPrintable x = true := by
      simp only [needsEscapes, Bool.or_eq_false_iff] at hescapes
      simpa using List.any_eq_false.1 hescapes.1 x (by simp)
    have hbreak : isBreakChar x = false := by
      simpa using List.any_eq_false.1 hbreaks x (by simp)
    have hspace : x ≠ ' ' := by
      rintro rfl
      simp [hasOuterSpacing, isSpaceChar] at hspacing
    have hpercent : x ≠ '%' := by
      rintro rfl
      simp at hsigns
    have hstands : Tokenizer.stands x = true := by
      have hhash : x ≠ '#' := by
        rintro rfl
        simp at hsigns
      have hmark : x ≠ '\ufeff' := by
        rintro rfl
        exact absurd hprintable (by decide)
      have htab : x ≠ '\t' := by
        rintro rfl
        exact absurd hprintable (by decide)
      simp [Tokenizer.stands, isBlankChar, hspace, htab, hhash, hmark]
    refine beginsContent_cons hstands hbreak hpercent fun y hy htake => ?_
    have hy' : y ≠ ':' := by
      rintro rfl
      simp at hy
    -- A shorter text is followed by the colon, which is in no marker.
    have hlong : (x :: tail).take 3 = [y, y, y] := by
      rcases tail with _ | ⟨x₁, _ | ⟨x₂, tail⟩⟩
      · obtain ⟨-, hcolon, -⟩ : x = y ∧ ':' = y ∧ _ := by simpa using htake
        exact absurd hcolon.symm hy'
      · obtain ⟨-, -, hcolon⟩ : x = y ∧ x₁ = y ∧ ':' = y := by simpa using htake
        exact absurd hcolon.symm hy'
      · exact htake
    rcases List.mem_pair.1 hy with rfl | rfl
    · simp [hlong] at hdashes
    · simp [hlong] at hdots

theorem beginsContent_stringChars (indent : ℕ) (s : String) (rest : List Char) :
    BeginsContent (stringChars indent true s ++ ':' :: rest) := by
  rw [stringChars]
  split
  · rw [Bool.not_true, Bool.and_false, if_neg (by decide)]
    exact beginsContent_of_opening (by simp) _
  split
  · exact beginsContent_of_opening (by simp) _
  split
  · next hplain =>
    simp only [Bool.and_eq_true, Bool.not_eq_true'] at hplain
    exact beginsContent_plain hplain.1 hplain.2 rest
  split
  · exact beginsContent_of_opening (by simp) _
  · exact beginsContent_of_opening (by simp) _

/-- A mapping whose keys are strings is written as content from its first character on. -/
theorem beginsContent_write {entries : List (Document × Document)}
    (hkeys : ∀ e ∈ entries, ∃ s, e.1 = .string s) :
    BeginsContent (writeNode 0 .root (.mapping entries)) := by
  cases entries with
  | nil =>
    have hbraces : writeNode 0 .root (.mapping []) = '\x7b' :: ['\x7d', '\n'] := by
      rw [writeNode]
      decide
    rw [hbraces]
    exact beginsContent_of_opening (by simp) _
  | cons e entries =>
    obtain ⟨k, v⟩ := e
    obtain ⟨s, rfl⟩ : ∃ s, k = .string s := hkeys (k, v) (by simp)
    rw [writeNode, writeKey, Place.before, List.nil_append, List.append_assoc]
    split
    · rw [List.append_assoc, List.cons_append]
      exact beginsContent_stringChars _ s _
    · exact beginsContent_of_opening (by simp) _

/-- The text of a mapping with strings for keys is read in a frame as it is by itself, unless it
ends in a block scalar that keeps its breaks. -/
theorem read?_framed_write {entries : List (Document × Document)} {document : Document}
    (hkeys : ∀ e ∈ entries, ∃ s, e.1 = .string s)
    (hkept : endsKept (write (.mapping entries)).toList = false)
    (h : read? (write (.mapping entries)) = some document) :
    read? ("---\n" ++ write (.mapping entries) ++ "\n") = some document := by
  refine read?_framed ?_ ?_ hkept h
  · rw [write, String.toList_ofList]
    exact endsFinally_writeNode 0 .root _
  · rw [write, String.toList_ofList]
    exact beginsContent_write hkeys

end Yaml

end LayeredConfig
