import LayeredConfig.Proofs.Decimal.Numeral
import LayeredConfig.Proofs.Schema.Key
import LayeredConfig.Proofs.Schema.Typing

namespace LayeredConfig.Schema

def Fields.select? (fields : Fields) (segment : String) : Option ℕ :=
  fields.flatten.findIdx? fun f => f.key = normalizeKey segment

/-- A field of a record, counted in flattened order, that no field before it shares its name
with. -/
structure Fields.IsFirst (fields : Fields) (i : ℕ) (f : Field) : Prop where
  getElem?_eq : fields.flatten[i]? = some f
  first : ∀ g ∈ fields.flatten.take i, g.key ≠ f.key

theorem Fields.select?_eq_some_iff {fields : Fields} {segment : String} {i : ℕ} :
    fields.select? segment = some i ↔ ∃ f, fields.IsFirst i f ∧ f.key = normalizeKey segment := by
  rw [select?, List.findIdx?_eq_some_iff_getElem]
  constructor
  · rintro ⟨hlt, hkey, hfirst⟩
    have hname : fields.flatten[i].key = normalizeKey segment := by simpa using hkey
    refine ⟨_, ⟨List.getElem?_eq_getElem hlt, fun g hg => ?_⟩, hname⟩
    obtain ⟨k, hk, rfl⟩ := List.mem_take_iff_getElem.1 hg
    rw [hname]
    simpa using hfirst k (by omega)
  · rintro ⟨f, ⟨hf, hfirst⟩, hname⟩
    obtain ⟨hlt, rfl⟩ := List.getElem?_eq_some_iff.1 hf
    refine ⟨hlt, by simpa using hname, fun k hk => ?_⟩
    have hmem : fields.flatten[k] ∈ fields.flatten.take i :=
      List.mem_take_iff_getElem.2 ⟨k, by omega, rfl⟩
    simpa [hname] using hfirst _ hmem

def index? (segment : String) : Option ℕ := (sequenceIndex segment "").toOption

/-- Two rows of segments lead to two fields of one record or to two elements of one sequence. -/
inductive Shape.PartWays : Shape → List String → List String → Prop
  | fields {fields : Fields} {s t : String} {ss ts : List String} {i j : ℕ}
      (hs : fields.select? s = some i) (ht : fields.select? t = some j) (hne : i ≠ j) :
      Shape.PartWays (.record fields) (s :: ss) (t :: ts)
  | field {fields : Fields} {f : Field} {s t : String} {ss ts : List String} {i : ℕ}
      (hs : fields.select? s = some i) (ht : fields.select? t = some i)
      (hf : fields.flatten[i]? = some f) (h : Shape.PartWays f.shape ss ts) :
      Shape.PartWays (.record fields) (s :: ss) (t :: ts)
  | elements {item : Shape} {s t : String} {ss ts : List String} {i j : ℕ}
      (hs : index? s = some i) (ht : index? t = some j) (hne : i ≠ j) :
      Shape.PartWays (.sequence item) (s :: ss) (t :: ts)
  | element {item : Shape} {s t : String} {ss ts : List String} {i : ℕ}
      (hs : index? s = some i) (ht : index? t = some i) (h : Shape.PartWays item ss ts) :
      Shape.PartWays (.sequence item) (s :: ss) (t :: ts)
  | option {item : Shape} {ss ts : List String} (h : Shape.PartWays item ss ts) :
      Shape.PartWays (.option item) ss ts

theorem Shape.PartWays.symm {shape : Shape} {ss ts : List String} (h : shape.PartWays ss ts) :
    shape.PartWays ts ss := by
  induction h with
  | fields hs ht hne => exact .fields ht hs hne.symm
  | field hs ht hf _ ih => exact .field ht hs hf ih
  | elements hs ht hne => exact .elements ht hs hne.symm
  | element hs ht _ ih => exact .element ht hs ih
  | option _ ih => exact .option ih

theorem Shape.PartWays.left_ne_nil {shape : Shape} {ss ts : List String}
    (h : shape.PartWays ss ts) : ss ≠ [] := by
  induction h with
  | option _ ih => exact ih
  | _ => simp

/-- An index is among the segments, read along a type. -/
inductive Shape.ReadsIndex (index : ℕ) : Shape → List String → Prop
  | here {item : Shape} {s : String} {ss : List String} (h : index? s = some index) :
      Shape.ReadsIndex index (.sequence item) (s :: ss)
  | element {item : Shape} {s : String} {ss : List String} {i : ℕ} (hs : index? s = some i)
      (h : Shape.ReadsIndex index item ss) : Shape.ReadsIndex index (.sequence item) (s :: ss)
  | field {fields : Fields} {f : Field} {s : String} {ss : List String} {i : ℕ}
      (hs : fields.select? s = some i) (hf : fields.flatten[i]? = some f)
      (h : Shape.ReadsIndex index f.shape ss) : Shape.ReadsIndex index (.record fields) (s :: ss)
  | option {item : Shape} {ss : List String} (h : Shape.ReadsIndex index item ss) :
      Shape.ReadsIndex index (.option item) ss

theorem Shape.ReadsIndex.exists_mem {index : ℕ} {shape : Shape} {ss : List String}
    (h : shape.ReadsIndex index ss) : ∃ s ∈ ss, index? s = some index := by
  induction h with
  | here hs => exact ⟨_, by simp, hs⟩
  | element _ _ ih =>
    obtain ⟨s, hs, hindex⟩ := ih
    exact ⟨s, by simp [hs], hindex⟩
  | field _ _ _ ih =>
    obtain ⟨s, hs, hindex⟩ := ih
    exact ⟨s, by simp [hs], hindex⟩
  | option _ ih => exact ih

def Shape.AsciiNames (shape : Shape) : Prop :=
  ∀ fields, (Shape.record fields).Within shape → ∀ f ∈ fields.flatten, Text.IsAscii f.name

/-! ### Segments in lower case -/

open Text

theorem isCounting_of_unsigned? {n : ℕ} {cs : List Char}
    (h : Decimal.unsigned? 10 cs = some n) : ∀ c ∈ cs, IsCounting c := by
  obtain ⟨ds, hds, hcs⟩ := Decimal.unsigned?_eq_some_iff.1 h
  have hdigits : ∀ c ∈ ds, IsCounting c := by
    intro c hc
    exact .inr (.inl (Decimal.isDigit_iff.1 (hds.2.1 c hc)))
  rcases hcs with rfl | rfl
  · exact hdigits
  · exact List.forall_mem_cons.2 ⟨.inr (.inr rfl), hdigits⟩

theorem index?_eq_some_iff {segment : String} {i : ℕ} (path : String) :
    index? segment = some i ↔ sequenceIndex segment path = .ok i := by
  rw [sequenceIndex_eq_ok_iff, ← @sequenceIndex_eq_ok_iff segment "", index?]
  cases sequenceIndex segment "" <;> simp [Except.toOption]

theorem isCounting_of_index? {segment : String} {i : ℕ} (h : index? segment = some i) :
    ∀ c ∈ segment.toList, IsCounting c := by
  have hindex := sequenceIndex_eq_ok_iff.1 ((index?_eq_some_iff "").1 h)
  intro c hc
  rcases isBlank_or_mem_trimChars hc with hblank | hmem
  · exact .inl hblank
  · exact isCounting_of_unsigned? hindex.1 c hmem

/-- The text of an index is its own lower case, and no other text becomes it. -/
theorem index?_lowercase (segment : String) : index? (lowercase segment) = index? segment := by
  have hsame (h : (∀ c ∈ segment.toList, IsCounting c) ∨
      ∀ c ∈ (lowercase segment).toList, IsCounting c) : lowercase segment = segment := by
    rw [lowercase, String.toList_ofList] at h
    rw [lowercase, lowerAfter_counting h, String.ofList_toList]
  refine Option.ext fun i => ⟨fun h => ?_, fun h => ?_⟩
  · rwa [hsame (.inr (isCounting_of_index? h))] at h
  · rwa [hsame (.inl (isCounting_of_index? h))]

theorem findIdx?_congr {α : Type} {p q : α → Bool} {xs : List α} (h : ∀ x ∈ xs, p x = q x) :
    xs.findIdx? p = xs.findIdx? q := by
  induction xs with
  | nil => rfl
  | cons x xs ih =>
    rw [List.findIdx?_cons, List.findIdx?_cons, h x (by simp), ih fun y hy => h y (by simp [hy])]

theorem Fields.select?_lowercase {fields : Fields} (hascii : ∀ f ∈ fields.flatten, IsAscii f.name)
    (segment : String) : fields.select? (lowercase segment) = fields.select? segment := by
  rw [select?, select?]
  refine findIdx?_congr fun f hf => ?_
  have hkey : IsAscii f.key := isAscii_normalizeKey (hascii f hf)
  rw [decide_eq_decide, eq_comm, normalizeKey_lowercase_eq_iff hkey, eq_comm]

/-! ### Fields by their places -/

namespace Fields

variable {fields : Fields} {vs : List Value} {segment : String}

theorem exists_of_select? {i : ℕ} (h : fields.select? segment = some i) :
    ∃ f, fields.flatten[i]? = some f := by
  obtain ⟨hlt, -, -⟩ := List.findIdx?_eq_some_iff_getElem.1 h
  exact ⟨_, List.getElem?_eq_getElem hlt⟩

theorem Found.select?_eq (r : fields.Found vs (normalizeKey segment)) :
    fields.select? segment = some r.valuesBefore.length := by
  have hbefore : r.before.findIdx? (fun f => f.key = normalizeKey segment) = none := by
    rw [List.findIdx?_eq_none_iff]
    exact fun f hf => by simpa using r.first f hf
  rw [select?, r.flatten_eq, List.findIdx?_append, hbefore, r.length_eq]
  simp [List.findIdx?_cons, r.key_eq]

theorem Found.getElem?_flatten {name : String} (r : fields.Found vs name) :
    fields.flatten[r.valuesBefore.length]? = some r.field := by
  rw [r.flatten_eq, r.length_eq]
  simp

theorem Found.getElem?_values {name : String} (r : fields.Found vs name) :
    vs[r.valuesBefore.length]? = some r.value := by
  have h := congrArg (fun us => us[r.valuesBefore.length]?) r.values_eq
  simpa using h

theorem Found.put_eq_set {name : String} (r : fields.Found vs name) (w : Value) :
    r.put w = vs.set r.valuesBefore.length w := by
  have h := congrArg (fun us => us.set r.valuesBefore.length w) r.values_eq
  simpa [put] using h.symm

theorem exists_found_of_select? {i : ℕ} {f : Field} {v : Value}
    (hs : fields.select? segment = some i) (hf : fields.flatten[i]? = some f)
    (hv : vs[i]? = some v) : ∃ r : fields.Found vs (normalizeKey segment),
      r.field = f ∧ r.value = v ∧ r.valuesBefore.length = i := by
  obtain ⟨hlt, hkey, hfirst⟩ := List.findIdx?_eq_some_iff_getElem.1 hs
  obtain ⟨hlt', rfl⟩ := List.getElem?_eq_some_iff.1 hf
  obtain ⟨hlen, rfl⟩ := List.getElem?_eq_some_iff.1 hv
  have hflatten : fields.flatten =
      fields.flatten.take i ++ fields.flatten[i] :: fields.flatten.drop (i + 1) := by
    rw [← List.drop_eq_getElem_cons, List.take_append_drop]
  have hvalues : vs = vs.take i ++ vs[i] :: vs.drop (i + 1) := by
    rw [← List.drop_eq_getElem_cons, List.take_append_drop]
  have hbefore : ∀ g ∈ fields.flatten.take i, g.key ≠ normalizeKey segment := by
    intro g hg
    obtain ⟨j, hj, rfl⟩ := List.mem_take_iff_getElem.1 hg
    simpa using hfirst j (by omega)
  exact ⟨⟨_, _, _, _, _, _, hflatten, hvalues, by simp; omega, by simpa using hkey, hbefore⟩,
    rfl, rfl, by simp; omega⟩

end Fields

end LayeredConfig.Schema
