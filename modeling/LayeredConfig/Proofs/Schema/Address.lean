import LayeredConfig.Proofs.Schema.Leaf
import LayeredConfig.Proofs.Schema.SinglePaths
import LayeredConfig.Proofs.Schema.Write
import LayeredConfig.Proofs.Text.Split

namespace LayeredConfig.Schema

open Text

/-! ### Segments in any ASCII case -/

theorem isCounting_toString (i : ℕ) : ∀ c ∈ (toString i).toList, IsCounting c := by
  rw [Nat.toString_eq_ofList_toDigits, String.toList_ofList]
  exact isCounting_of_unsigned? (Decimal.unsigned?_toDigits i)

theorem asciiLower_normalizeKey {name : String} (hname : IsAscii name) :
    asciiLower (normalizeKey name) = normalizeKey name := by
  refine asciiLower_eq_self fun c hc => ?_
  have hlower := (final_of_mem_normalizeKey hc).1
  rw [lowerChar_ascii (isAscii_normalizeKey hname c hc)] at hlower
  exact (List.cons.inj hlower).1

/-- A key in another ASCII case has the same form. -/
theorem normalizeKey_of_asciiLower {s name : String} (hname : IsAscii name)
    (h : asciiLower s = normalizeKey name) : normalizeKey s = normalizeKey name := by
  have hmem (c : Char) (hc : c ∈ s.toList) : c.toLower ∈ (normalizeKey name).toList := by
    rw [← h, toList_asciiLower]
    exact List.mem_map_of_mem hc
  have hkept : s.toList.filter (fun c => c ≠ '-' ∧ c ≠ '_') = s.toList := by
    rw [List.filter_eq_self]
    intro c hc
    obtain ⟨-, hfinal⟩ := final_of_mem_normalizeKey (hmem c hc)
    simp only [decide_eq_true_eq]
    refine ⟨?_, ?_⟩
    · rintro rfl
      exact hfinal.1 rfl
    · rintro rfl
      exact hfinal.2 rfl
  have hlower (c : Char) (hc : c ∈ s.toList) : lowerChar c = [c.toLower] := by
    by_cases hlow : c.toNat < 0x80
    · exact lowerChar_ascii hlow
    · have hsmall := isAscii_normalizeKey hname _ (hmem c hc)
      rw [toLower_of_not_ascii hlow] at hsmall
      exact absurd hsmall hlow
  apply String.toList_injective
  rw [← h, toList_normalizeKey, hkept, toList_asciiLower]
  calc s.toList.flatMap lowerChar
      = s.toList.flatMap fun c => [c.toLower] := List.flatMap_congr fun c hc => hlower c hc
    _ = s.toList.map Char.toLower := List.map_eq_flatMap.symm

/-- A segment in any ASCII case names the first field with its key. -/
theorem Fields.select?_of_asciiLower {fields : Fields} {f : Field} {s : String} {i : ℕ}
    (hascii : IsAscii f.name) (hf : fields.flatten[i]? = some f)
    (hfirst : ∀ g ∈ fields.flatten.take i, g.key ≠ f.key) (hs : asciiLower s = f.key) :
    fields.select? s = some i := by
  have hkey : normalizeKey s = f.key := normalizeKey_of_asciiLower hascii hs
  exact select?_eq_some_iff.2 ⟨f, ⟨hf, hfirst⟩, hkey.symm⟩

/-- The decimal text of an index has one case. -/
theorem index?_of_asciiLower {s : String} {i : ℕ} (hi : i < 2 ^ 64)
    (hs : asciiLower s = toString i) : index? s = some i := by
  rw [eq_of_asciiLower_counting hs (isCounting_toString i), index?_eq_some_iff ""]
  exact sequenceIndex_toString hi ""

section Elements

variable {start u w : Value} {vs : List Value} {i j : ℕ}

theorem getElem?_putElement_self : (putElement start vs i w)[i]? = some w := by
  have hlt : i < (putElement start vs i w).length := by
    rw [length_putElement]
    omega
  rw [List.getElem?_eq_getElem hlt]
  exact congrArg some (List.getElem_set_self _)

theorem getElem?_putElement_of_ne (h : i ≠ j) (hu : vs[j]? = some u) :
    (putElement start vs i w)[j]? = some u := by
  obtain ⟨hlt, -⟩ := List.getElem?_eq_some_iff.1 hu
  rw [putElement, List.getElem?_set_ne h, List.getElem?_append_left hlt, hu]

end Elements

/-! ### Addresses -/

/-- A turn on the way to a part of a value. Fields are counted in flattened order. -/
inductive Turn where
  | field (i : ℕ)
  | element (i : ℕ)
  /-- To the content of an option. -/
  | content
  deriving DecidableEq

namespace Value

def part? : Value → Turn → Option Value
  | record vs, .field i => vs[i]?
  | items vs, .element i => vs[i]?
  | set v, .content => some v
  | _, _ => none

def at? (v : Value) : List Turn → Option Value
  | [] => some v
  | turn :: turns => (v.part? turn).bind fun u => u.at? turns

end Value

/-- Turns lead along a type to a leaf, and segments stand for them: the key of a field, unless an
earlier field has it, and the decimal text of an index. -/
inductive Shape.Address (kind : Leaf) : Shape → List Turn → List String → Prop
  | here : Shape.Address kind (.leaf kind) [] []
  | field {fields : Fields} {f : Field} {i : ℕ} {turns : List Turn} {segments : List String}
      (hf : fields.flatten[i]? = some f) (hfirst : ∀ g ∈ fields.flatten.take i, g.key ≠ f.key)
      (h : Shape.Address kind f.shape turns segments) :
      Shape.Address kind (.record fields) (.field i :: turns) (f.key :: segments)
  | element {item : Shape} {i : ℕ} {turns : List Turn} {segments : List String}
      (hi : i + 1 < 2 ^ 64) (h : Shape.Address kind item turns segments) :
      Shape.Address kind (.sequence item) (.element i :: turns) (toString i :: segments)
  | content {item : Shape} {turns : List Turn} {segments : List String}
      (h : Shape.Address kind item turns segments) :
      Shape.Address kind (.option item) (.content :: turns) segments

namespace Shape

/-- No turn goes further beyond the end of its sequence than a sequence may grow. Where nothing is
set yet it is the sequence of a start value. -/
def InReach : Shape → List Turn → Value → Prop
  | .record fields, .field i :: turns, v =>
    ∀ f u, fields.flatten[i]? = some f → v.fields[i]? = some u → f.shape.InReach turns u
  | .sequence item, .element i :: turns, v =>
    i - v.elements.length ≤ maxGrowth ∧ item.InReach turns (v.elements.getD i item.start)
  | .option item, .content :: turns, v => item.InReach turns (v.contentOr item.start)
  | _, _, _ => True

/-- The value with another part at the end of some turns. Sequences are extended with start values
as far as they have to, and unset options are set from start values. -/
def put (new : Value) : Shape → List Turn → Value → Value
  | _, [], _ => new
  | .record fields, .field i :: turns, v =>
    match fields.flatten[i]?, v.fields[i]? with
    | some f, some u => .record (v.fields.set i (f.shape.put new turns u))
    | _, _ => v
  | .sequence item, .element i :: turns, v =>
    .items (putElement item.start v.elements i
      (item.put new turns (v.elements.getD i item.start)))
  | .option item, .content :: turns, v => .set (item.put new turns (v.contentOr item.start))
  | _, _, v => v

def Named (shape : Shape) : Prop :=
  ∀ fields, (Shape.record fields).Within shape → ∀ f ∈ fields.flatten, f.key ≠ ""

variable {kind : Leaf} {shape item : Shape} {fields : Fields} {turns other : List Turn}
  {segments ss : List String} {v w new : Value} {content path : String} {i : ℕ}

/-- The segments of an address can be joined into the name of a variable. -/
theorem Address.forall_segments (h : shape.Address kind turns segments)
    (hascii : shape.AsciiNames) (hnamed : shape.Named) :
    ∀ s ∈ segments, '_' ∉ s.toList ∧ s ≠ "" ∧ asciiLower s = s := by
  induction h with
  | here => simp
  | @field fields f i turns segments hf hfirst h ih =>
    have hmem := List.mem_of_getElem? hf
    rw [List.forall_mem_cons]
    refine ⟨⟨?_, hnamed fields .refl f hmem, ?_⟩, ?_⟩
    · exact fun hjoiner => (final_of_mem_normalizeKey hjoiner).2.2 rfl
    · exact asciiLower_normalizeKey (hascii fields .refl f hmem)
    · exact ih (fun inner hinner => hascii inner (.record hmem hinner))
        fun inner hinner => hnamed inner (.record hmem hinner)
  | @element item i turns segments hi h ih =>
    have hcounting := isCounting_toString i
    rw [List.forall_mem_cons]
    refine ⟨⟨?_, ?_, ?_⟩, ?_⟩
    · exact fun hjoiner => absurd (hcounting '_' hjoiner) (by decide)
    · rw [Nat.toString_eq_ofList_toDigits]
      exact fun hempty => Nat.toDigits_ne_nil (String.ofList_eq_empty_iff.1 hempty)
    · exact asciiLower_eq_self fun c hc => toLower_of_isCounting (.inl (hcounting c hc))
    · exact ih (fun fields hfields => hascii fields (.sequence hfields))
        fun fields hfields => hnamed fields (.sequence hfields)
  | content h ih =>
    exact ih (fun fields hfields => hascii fields (.option hfields))
      fun fields hfields => hnamed fields (.option hfields)

/-! ### Values on the way -/

section

variable {ok : Leaf → Scalar → Prop}

theorem HoldsWith.field {f : Field} (hv : (Shape.record fields).HoldsWith ok v)
    (hf : fields.flatten[i]? = some f) : ∃ u, v.fields[i]? = some u ∧ f.shape.HoldsWith ok u := by
  cases hv with
  | @record _ vs h =>
    obtain ⟨hlt, rfl⟩ := List.getElem?_eq_some_iff.1 hf
    have hlt' : i < vs.length := h.length_eq ▸ hlt
    exact ⟨vs[i], List.getElem?_eq_getElem hlt', h.get hlt hlt'⟩

theorem HoldsWith.element (hv : (Shape.sequence item).HoldsWith ok v)
    (hstart : item.HoldsWith ok item.start) (i : ℕ) :
    item.HoldsWith ok (v.elements.getD i item.start) := by
  cases hv with
  | @items _ vs hlength h =>
    by_cases hi : i < vs.length
    · rw [Value.elements_items, List.getD_eq_getElem _ _ hi]
      exact h _ (List.getElem_mem hi)
    · rw [Value.elements_items, List.getD_eq_default _ _ (Nat.not_lt.1 hi)]
      exact hstart

theorem HoldsWith.contentOr (hv : (Shape.option item).HoldsWith ok v)
    (hstart : item.HoldsWith ok item.start) : item.HoldsWith ok (v.contentOr item.start) := by
  cases hv with
  | unset => exact hstart
  | set h => exact h

end

/-! ### Decoding -/

theorem isNull_nested (ss : List String) (content : String) :
    (Document.nested ss (.string content)).isNull = false := by
  cases ss <;> rfl

theorem decode_selected_iff {f : Field} {key : String} {d : Document} {u : Value}
    (hselect : fields.select? key = some i) (hf : fields.flatten[i]? = some f)
    (hu : v.fields[i]? = some u) :
    (Shape.record fields).decode v (.mapping [(.string key, d)]) path = .done w ↔
      ∃ u', f.shape.decode u d (joinPath path key) = .done u' ∧
        .record (v.fields.set i u') = w := by
  rw [decode_record_key_iff]
  constructor
  · rintro ⟨i', f', u₁, u₂, hi', hf', hu', hdecode, rfl⟩
    obtain rfl := Option.some.inj (hselect.symm.trans hi')
    obtain rfl := Option.some.inj (hf.symm.trans hf')
    obtain rfl := Option.some.inj (hu.symm.trans hu')
    exact ⟨u₂, hdecode, rfl⟩
  · rintro ⟨u', hdecode, rfl⟩
    exact ⟨i, f, u, u', hselect, hf, hu, hdecode, rfl⟩

theorem decode_indexed_iff {key : String} {d : Document} (hindex : index? key = some i)
    (hi : i + 1 < 2 ^ 64) (hgrowth : i - v.elements.length ≤ maxGrowth) :
    (Shape.sequence item).decode v (.mapping [(.string key, d)]) path = .done w ↔
      ∃ u, item.decode (v.elements.getD i item.start) d (joinPath path key) = .done u ∧
        .items (putElement item.start v.elements i u) = w := by
  rw [decode_sequence_key_iff]
  constructor
  · rintro ⟨i', u, hi', -, hdecode, rfl⟩
    obtain rfl := Option.some.inj (hindex.symm.trans hi')
    exact ⟨u, hdecode, rfl⟩
  · rintro ⟨u, hdecode, rfl⟩
    exact ⟨i, u, hindex, .inr ⟨hgrowth, hi⟩, hdecode, rfl⟩

/-- Segments in any ASCII case lead to the leaf, and only what it reads is put there. -/
theorem Address.decode_eq_done_iff (h : shape.Address kind turns segments)
    (hascii : shape.AsciiNames) (hstarts : shape.StartsWith Leaf.Holds) (hv : shape.Holds v)
    (hreach : shape.InReach turns v) (hss : ss.map asciiLower = segments) :
    shape.decode v (.nested (ss.map lowercase) (.string content)) path = .done w ↔
      ∃ c, kind.read (.string content) = .ok c ∧ shape.put (.scalar c) turns v = w := by
  induction h generalizing v w ss path with
  | here =>
    obtain rfl : ss = [] := List.map_eq_nil_iff.1 hss
    have hkeeps : kind.keeps (.string content) = false := by cases kind <;> rfl
    rw [decode, List.map_nil, Document.nested, decodeLeaf, hkeeps, if_neg Bool.false_ne_true]
    cases kind.read (.string content) <;> simp [put]
  | @field fields f i turns segments hf hfirst h ih =>
    obtain ⟨s, ss, rfl, hs, rfl⟩ := List.map_eq_cons_iff.1 hss
    have hmem := List.mem_of_getElem? hf
    obtain ⟨u, hu, hholds⟩ := hv.field hf
    have hselect : fields.select? (lowercase s) = some i := by
      rw [Fields.select?_lowercase (hascii fields .refl)]
      exact Fields.select?_of_asciiLower (hascii fields .refl f hmem) hf hfirst hs
    have hpart := fun path u' => @ih ss u u' path
      (fun inner hinner => hascii inner (.record hmem hinner))
      (hstarts.of_record hmem) hholds (hreach f u hf hu) rfl
    refine (decode_selected_iff hselect hf hu).trans ?_
    simp only [hpart, exists_exists_and_eq_and, put, hf, hu]
  | @element item i turns segments hi h ih =>
    obtain ⟨s, ss, rfl, hs, rfl⟩ := List.map_eq_cons_iff.1 hss
    have hstarts' := hstarts.of_sequence
    have hindex : index? (lowercase s) = some i := by
      rw [index?_lowercase]
      exact index?_of_asciiLower (by omega) hs
    have hpart := fun path u => @ih ss (v.elements.getD i item.start) u path
      (fun fields hf => hascii fields (.sequence hf)) hstarts'
      (hv.element (hstarts'.start_holds Leaf.invariant_holds) i) hreach.2 rfl
    refine (decode_indexed_iff hindex hi hreach.1).trans ?_
    simp only [hpart, exists_exists_and_eq_and, put]
  | @content item turns segments h ih =>
    have hstarts' := hstarts.of_option
    have hpart := fun path u => @ih ss (v.contentOr item.start) u path
      (fun fields hf => hascii fields (.option hf)) hstarts'
      (hv.contentOr (hstarts'.start_holds Leaf.invariant_holds)) hreach hss
    rw [decode_option_eq_done_iff (isNull_nested _ content)]
    simp only [eq_comm (a := w), hpart, exists_exists_and_eq_and, put]

/-! ### The parts of the value -/

theorem put_field {f : Field} {u : Value} (hf : fields.flatten[i]? = some f)
    (hu : v.fields[i]? = some u) : (Shape.record fields).put new (.field i :: turns) v =
      .record (v.fields.set i (f.shape.put new turns u)) := by
  simp only [put, hf, hu]

/-- Behind the first turn the new part is put into what was there, and nothing else changes. -/
theorem Address.put_cons {turn : Turn} (h : shape.Address kind (turn :: turns) segments)
    (hstarts : shape.StartsWith Leaf.Holds) (hv : shape.Holds v) (new : Value) :
    ∃ (inner : Shape) (rest : List String) (u : Value), inner.Address kind turns rest ∧
      inner.StartsWith Leaf.Holds ∧ inner.Holds u ∧ (∀ u' ∈ v.part? turn, u' = u) ∧
      (shape.put new (turn :: turns) v).part? turn = some (inner.put new turns u) ∧
      ∀ other, other ≠ turn → ∀ u' ∈ v.part? other,
        (shape.put new (turn :: turns) v).part? other = some u' := by
  cases h with
  | @field fields f i _ rest hf hfirst h =>
    have hmem := List.mem_of_getElem? hf
    obtain ⟨u, hu, hholds⟩ := hv.field hf
    obtain ⟨hlt, -⟩ := List.getElem?_eq_some_iff.1 hu
    refine ⟨f.shape, rest, u, h, hstarts.of_record hmem, hholds, ?_, ?_, ?_⟩
    · cases hv with
      | record hvalues => exact fun u' hu' => Option.some.inj (hu'.symm.trans hu)
    · rw [put_field hf hu]
      exact List.getElem?_set_self hlt
    · intro other hother u' hu'
      rw [put_field hf hu]
      cases hv with
      | record hvalues =>
        cases other with
        | field j =>
          have hij : i ≠ j := fun hij => hother (hij ▸ rfl)
          exact (List.getElem?_set_ne hij).trans hu'
        | element j => cases hu'
        | content => cases hu'
  | @element item i _ rest hi h =>
    have hstarts' := hstarts.of_sequence
    refine ⟨item, rest, _, h, hstarts',
      hv.element (hstarts'.start_holds Leaf.invariant_holds) i, ?_, getElem?_putElement_self, ?_⟩
    · intro u' hu'
      cases hv with
      | @items _ vs hlength hvalues =>
        have hget : vs[i]? = some u' := hu'
        rw [Value.elements_items, List.getD_eq_getElem?_getD, hget, Option.getD_some]
    · intro other hother u' hu'
      cases hv with
      | items hlength hvalues =>
        cases other with
        | element j =>
          have hij : i ≠ j := fun hij => hother (hij ▸ rfl)
          exact getElem?_putElement_of_ne hij hu'
        | field j => cases hu'
        | content => cases hu'
  | @content item _ _ h =>
    have hstarts' := hstarts.of_option
    refine ⟨item, segments, _, h, hstarts',
      hv.contentOr (hstarts'.start_holds Leaf.invariant_holds), ?_, rfl, ?_⟩
    · intro u' hu'
      cases hv with
      | unset => cases hu'
      | set hcontent => exact (Option.some.inj hu').symm
    · intro other hother u' hu'
      cases other with
      | content => exact absurd rfl hother
      | field j => cases hv <;> cases hu'
      | element j => cases hv <;> cases hu'

/-- The part is there. -/
theorem Address.at?_put (h : shape.Address kind turns segments)
    (hstarts : shape.StartsWith Leaf.Holds) (hv : shape.Holds v) :
    (shape.put new turns v).at? turns = some new := by
  induction turns generalizing shape segments v with
  | nil =>
    rw [put]
    rfl
  | cons turn turns ih =>
    obtain ⟨inner, rest, u, hinner, hstarts', hu, -, hput, -⟩ := h.put_cons hstarts hv new
    rw [Value.at?, hput]
    exact ih hinner hstarts' hu

/-- What stands apart from the part stays. -/
theorem Address.at?_put_of_apart (h : shape.Address kind turns segments)
    (hstarts : shape.StartsWith Leaf.Holds) (hv : shape.Holds v)
    (hbelow : ¬turns <+: other) (habove : ¬other <+: turns) {u : Value}
    (hu : v.at? other = some u) : (shape.put new turns v).at? other = some u := by
  induction turns generalizing shape segments v other with
  | nil => exact absurd List.nil_prefix hbelow
  | cons turn turns ih =>
    cases other with
    | nil => exact absurd List.nil_prefix habove
    | cons first other =>
      obtain ⟨inner, rest, u₀, hinner, hstarts', hu₀, hold, hput, hother⟩ :=
        h.put_cons hstarts hv new
      obtain ⟨part, hpart, hrest⟩ := Option.bind_eq_some_iff.1 hu
      rw [Value.at?]
      by_cases hsame : first = turn
      · subst hsame
        obtain rfl := hold part hpart
        rw [List.cons_prefix_cons] at hbelow habove
        rw [hput]
        exact ih hinner hstarts' hu₀ (by simpa using hbelow) (by simpa using habove) hrest
      · rw [hother first hsame part hpart]
        exact hrest

end Shape

end LayeredConfig.Schema
