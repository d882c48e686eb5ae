import LayeredConfig.Proofs.Schema.Location
import LayeredConfig.Proofs.Text.Split

namespace LayeredConfig.Schema

open Text

/-! ### Parts -/

/-- Each piece is blank, or it is the next one of the parts with blanks around it. -/
inductive Padded : List String → List String → Prop
  | nil : Padded [] []
  | blank {piece : String} {pieces parts : List String} (hpiece : AllBlank piece)
      (h : Padded pieces parts) : Padded (piece :: pieces) parts
  | part {before part after : String} {pieces parts : List String} (hbefore : AllBlank before)
      (hafter : AllBlank after) (h : Padded pieces parts) :
      Padded ((before ++ part ++ after) :: pieces) (part :: parts)

/-- The parts of a text: between its commas stand blanks and trimmed texts with blanks around
them. -/
def HasParts (s : String) (parts : List String) : Prop :=
  (∃ pieces, s = ",".intercalate pieces ∧ (∀ piece ∈ pieces, ',' ∉ piece.toList) ∧
    Padded pieces parts) ∧
  ∀ part ∈ parts, IsTrimmed part ∧ part ≠ ""

variable {item : Shape} {start v : Value} {decode : Decoder} {vs : List Value}
  {s part path : String} {pieces parts : List String} {index : ℕ} {e : DecodeError}

def textsOf (pieces : List String) : List String :=
  (pieces.map trim).filter fun part => !part.isEmpty

theorem padded_textsOf (pieces : List String) : Padded pieces (textsOf pieces) := by
  induction pieces with
  | nil => exact .nil
  | cons piece pieces ih =>
    by_cases hempty : trim piece = ""
    · have htexts : textsOf (piece :: pieces) = textsOf pieces := by simp [textsOf, hempty]
      rw [htexts]
      exact .blank (trim_eq_empty_iff.1 hempty) ih
    · have htexts : textsOf (piece :: pieces) = trim piece :: textsOf pieces := by
        simp [textsOf, hempty]
      obtain ⟨before, after, hbefore, hafter, hpiece⟩ := exists_blanks_around piece
      have hpadded : Padded ((before ++ trim piece ++ after) :: pieces)
          (trim piece :: textsOf pieces) := .part hbefore hafter ih
      rwa [← hpiece, ← htexts] at hpadded

theorem Padded.textsOf_eq (h : Padded pieces parts)
    (hparts : ∀ part ∈ parts, IsTrimmed part ∧ part ≠ "") : textsOf pieces = parts := by
  induction h with
  | nil => rfl
  | blank hpiece _ ih =>
    rw [← ih hparts]
    simp [textsOf, trim_eq_empty_iff.2 hpiece]
  | @part before part after pieces parts hbefore hafter _ ih =>
    obtain ⟨⟨htrimmed, hne⟩, hrest⟩ := List.forall_mem_cons.1 hparts
    have hrow : textsOf pieces = parts := ih hrest
    have htrim := trim_between hbefore hafter htrimmed hne
    rw [← hrow]
    simp [textsOf, htrim, hne]

theorem commaParts_intercalate (hpieces : ∀ piece ∈ pieces, ',' ∉ piece.toList) :
    commaParts (",".intercalate pieces) = textsOf pieces := by
  cases pieces with
  | nil => rfl
  | cons piece pieces =>
    have hsplit : splitAt ',' (",".intercalate (piece :: pieces)) = piece :: pieces :=
      splitAt_intercalate hpieces (by simp)
    rw [commaParts, hsplit]
    rfl

/-- Every text has parts, and no others. -/
theorem hasParts_iff : HasParts s parts ↔ commaParts s = parts := by
  constructor
  · rintro ⟨⟨pieces, rfl, hpieces, hpadded⟩, hparts⟩
    rw [commaParts_intercalate hpieces, hpadded.textsOf_eq hparts]
  · rintro rfl
    obtain ⟨hs, -, hpieces⟩ := splitAt_eq_iff.1 (Eq.refl (splitAt ',' s))
    refine ⟨⟨splitAt ',' s, hs, hpieces, padded_textsOf _⟩, fun part hpart => ?_⟩
    obtain ⟨hmem, hne⟩ := List.mem_filter.1 hpart
    obtain ⟨piece, -, rfl⟩ := List.mem_map.1 hmem
    exact ⟨isTrimmed_trim piece, by simpa using hne⟩

theorem Padded.comma_not_mem (h : Padded pieces parts)
    (hparts : ∀ part ∈ parts, ',' ∉ part.toList) : ∀ piece ∈ pieces, ',' ∉ piece.toList := by
  induction h with
  | nil => simp
  | blank hpiece _ ih => exact List.forall_mem_cons.2 ⟨hpiece.not_mem rfl, ih hparts⟩
  | part hbefore hafter _ ih =>
    obtain ⟨hpart, hrest⟩ := List.forall_mem_cons.1 hparts
    refine List.forall_mem_cons.2 ⟨?_, ih hrest⟩
    simp [hbefore.not_mem (c := ',') rfl, hpart, hafter.not_mem (c := ',') rfl]

/-! ### Decoding -/

/-- The elements are what the parts make of start values, each at its own position. -/
theorem decodeParts_eq_ok_iff : decodeParts start decode path index parts = .ok vs ↔
    List.Forall₂ (fun e u => decode start (.string e.1) (joinPath path (toString e.2)) = .done u)
      (parts.zipIdx index) vs := by
  induction parts generalizing index vs with
  | nil =>
    cases vs <;> simp [decodeParts]
  | cons part parts ih =>
    rw [decodeParts_cons_eq_ok_iff, List.zipIdx_cons]
    constructor
    · rintro ⟨u, us, hu, hus, rfl⟩
      exact .cons hu (ih.1 hus)
    · intro h
      cases h with
      | cons hu hus => exact ⟨_, _, hu, ih.2 hus, rfl⟩

def Shape.decodePart (item : Shape) (path : String) (i : ℕ) (part : String) : Decoded Value :=
  item.decode item.start (.string part) (joinPath path (toString i))

def Shape.DecodesPart (item : Shape) (part : String) : Prop :=
  ∃ location u, item.decode item.start (.string part) location = .done u

theorem Shape.DecodesPart.exists_decodePart (h : item.DecodesPart part) (path : String) (i : ℕ) :
    ∃ u, item.decodePart path i part = .done u := by
  obtain ⟨location, u, hu⟩ := h
  exact ⟨u, item.ignoresPath.1 _ _ location _ u hu⟩

theorem decodeParts_eq_ok_iff_getElem? :
    decodeParts item.start item.decode path 0 parts = .ok vs ↔ vs.length = parts.length ∧
      ∀ i part u, parts[i]? = some part → vs[i]? = some u →
        item.decodePart path i part = .done u := by
  rw [decodeParts_eq_ok_iff, List.forall₂_iff_get]
  simp only [List.length_zipIdx, List.get_eq_getElem, List.getElem_zipIdx, Nat.zero_add]
  constructor
  · rintro ⟨hlength, h⟩
    refine ⟨hlength.symm, fun i part u hpart hu => ?_⟩
    obtain ⟨hi, rfl⟩ := List.getElem?_eq_some_iff.1 hpart
    obtain ⟨hj, rfl⟩ := List.getElem?_eq_some_iff.1 hu
    exact h i hi hj
  · rintro ⟨hlength, h⟩
    exact ⟨hlength.symm, fun i hi hj =>
      h i _ _ (List.getElem?_eq_getElem hi) (List.getElem?_eq_getElem hj)⟩

theorem exists_decodeParts_iff (path : String) (index : ℕ) :
    (∃ vs, decodeParts item.start item.decode path index parts = .ok vs) ↔
      ∀ part ∈ parts, item.DecodesPart part := by
  induction parts generalizing index with
  | nil => simp [decodeParts]
  | cons part parts ih =>
    rw [List.forall_mem_cons, ← ih (index + 1)]
    constructor
    · rintro ⟨vs, hvs⟩
      obtain ⟨u, us, hu, hus, -⟩ := decodeParts_cons_eq_ok_iff.1 hvs
      exact ⟨⟨_, u, hu⟩, us, hus⟩
    · rintro ⟨hpart, us, hus⟩
      obtain ⟨u, hu⟩ := hpart.exists_decodePart path index
      exact ⟨u :: us, decodeParts_cons_eq_ok_iff.2 ⟨u, us, hu, hus, rfl⟩⟩

/-- What the parts give does not depend on where they stand. -/
theorem decodeParts_of_forall₂ (h : List.Forall₂ (fun part u => ∃ location,
      item.decode item.start (.string part) location = .done u) parts vs) (path : String)
    (index : ℕ) : decodeParts item.start item.decode path index parts = .ok vs := by
  induction h generalizing index with
  | nil => rfl
  | cons hu _ ih =>
    obtain ⟨location, hu⟩ := hu
    exact decodeParts_cons_eq_ok_iff.2
      ⟨_, _, item.ignoresPath.1 _ _ location _ _ hu, ih (index + 1), rfl⟩

theorem Shape.decode_string_eq_done_iff {w : Value} :
    (Shape.sequence item).decode v (.string s) path = .done w ↔
      ∃ vs, w = .items vs ∧ decodeParts item.start item.decode path 0 (commaParts s) = .ok vs := by
  rw [decode, decodeSequence]
  cases decodeParts item.start item.decode path 0 (commaParts s) <;> simp [eq_comm]

theorem Shape.decode_string_eq_failed_iff {w : Value} :
    (Shape.sequence item).decode v (.string s) path = .failed w e ↔
      w = v ∧ ((Shape.sequence item).decode v (.string s) path).error = some e := by
  rw [decode, decodeSequence]
  cases decodeParts item.start item.decode path 0 (commaParts s) <;>
    simp [eq_comm, Outcome.eq_failed_iff, and_comm]

/-- A string replaces the elements of a sequence by what its parts make of start values, each at its
position among the parts, or fails as the first part does that cannot be decoded and changes
nothing. So texts that are joined with commas, with blanks around them and blank pieces between
them, are decoded one by one. -/
theorem Shape.decode_comma_string (item : Shape) (v : Value) (path : String) :
    (∀ s, ∃! parts, HasParts s parts) ∧
    (∀ s parts, HasParts s parts →
      let left := (Shape.sequence item).decode v (.string s) path
      (left.error = none ↔ ∀ part ∈ parts, item.DecodesPart part) ∧
      (∀ w, left = .done w ↔ ∃ vs, w = .items vs ∧ vs.length = parts.length ∧
        ∀ i part u, parts[i]? = some part → vs[i]? = some u →
          item.decodePart path i part = .done u) ∧
      ∀ w e, left = .failed w e ↔ w = v ∧ ∃ before part after, parts = before ++ part :: after ∧
        (∀ other ∈ before, item.DecodesPart other) ∧
        (item.decodePart path before.length part).error = some e) ∧
    ∀ pieces parts vs, Padded pieces parts →
      (∀ part ∈ parts, IsTrimmed part ∧ part ≠ "" ∧ ',' ∉ part.toList) →
      List.Forall₂ (fun part u => ∃ location,
        item.decode item.start (.string part) location = .done u) parts vs →
      (Shape.sequence item).decode v (.string (",".intercalate pieces)) path =
        .done (.items vs) := by
  refine ⟨fun s => ⟨commaParts s, hasParts_iff.2 rfl, fun parts h => (hasParts_iff.1 h).symm⟩,
    ?_, ?_⟩
  · intro s parts hparts left
    obtain rfl := hasParts_iff.1 hparts
    refine ⟨?_, fun w => ?_, fun w e => ?_⟩
    · rw [← exists_decodeParts_iff path 0]
      constructor
      · intro hnone
        obtain ⟨vs, -, hvs⟩ := decode_string_eq_done_iff.1 (Outcome.eq_done_iff.2 ⟨hnone, rfl⟩)
        exact ⟨vs, hvs⟩
      · rintro ⟨vs, hvs⟩
        exact (Outcome.eq_done_iff.1 (decode_string_eq_done_iff.2 ⟨vs, rfl, hvs⟩)).1
    · simp only [← decodeParts_eq_ok_iff_getElem?]
      exact decode_string_eq_done_iff
    · rw [decode_string_eq_failed_iff, error_decode_parts_iff]
      simp only [← exists_decodeParts_iff path 0]
      constructor
      · rintro ⟨hw, before, part, after, us, hsplit, hus, hpart⟩
        exact ⟨hw, before, part, after, hsplit, ⟨us, hus⟩, hpart⟩
      · rintro ⟨hw, before, part, after, hsplit, ⟨us, hus⟩, hpart⟩
        exact ⟨hw, before, part, after, us, hsplit, hus, hpart⟩
  · intro pieces parts vs hpadded hparts hvs
    have hpieces := hpadded.comma_not_mem fun part hpart => (hparts part hpart).2.2
    have hjoined : HasParts (",".intercalate pieces) parts :=
      ⟨⟨pieces, rfl, hpieces, hpadded⟩,
        fun part hpart => ⟨(hparts part hpart).1, (hparts part hpart).2.1⟩⟩
    refine decode_string_eq_done_iff.2 ⟨vs, rfl, ?_⟩
    rw [hasParts_iff.1 hjoined]
    exact decodeParts_of_forall₂ hvs path 0

/-- Elements are sequences themselves here. A blank piece does not count for the position of the
part that fails, and the old element stays. -/
theorem Shape.decode_comma_string_grid :
    let byte : Shape := .leaf (.integer .u8)
    let row (i : Int) : Value := .items [.scalar (.integer i)]
    let v : Value := .items [row 5]
    Padded [" 1\t", "", "2 "] ["1", "2"] ∧
      (Shape.sequence (.sequence byte)).decode v (.string " 1\t,,2 ") "grid" =
        .done (.items [row 1, row 2]) ∧
      HasParts "1, ,x" ["1", "x"] ∧
      (Shape.sequence (.sequence byte)).decode v (.string "1, ,x") "grid" =
        .failed v (.coercion "grid.1.0" (.notInteger (.string "x"))) := by
  intro byte row v
  have hpadded : Padded [" 1\t", "", "2 "] ["1", "2"] :=
    @Padded.part " " "1" "\t" _ _ (by decide) (by decide) <| .blank (by decide) <|
      @Padded.part "" "2" " " _ _ (by decide) (by decide) .nil
  have hone : HasParts "1, ,x" ["1", "x"] := hasParts_iff.2 (by decide)
  have hjoin : " 1\t,,2 " = ",".intercalate [" 1\t", "", "2 "] := by decide
  obtain ⟨-, hstring, hjoined⟩ := Shape.decode_comma_string (.sequence byte) v "grid"
  refine ⟨hpadded, ?_, hone, ?_⟩
  · rw [hjoin]
    refine hjoined _ ["1", "2"] [row 1, row 2] hpadded (by decide) ?_
    exact .cons ⟨"", by rfl⟩ (.cons ⟨"", by rfl⟩ .nil)
  · have herror := ((hstring "1, ,x" ["1", "x"] hone).2.2 v
      (.coercion "grid.1.0" (.notInteger (.string "x")))).2
    refine herror ⟨rfl, ["1"], "x", [], rfl, ?_, by rfl⟩
    rw [List.forall_mem_singleton]
    exact ⟨"", row 1, by rfl⟩

end LayeredConfig.Schema
