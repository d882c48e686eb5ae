import LayeredConfig.Proofs.Schema.Address
import LayeredConfig.Proofs.Schema.Entry

namespace LayeredConfig

namespace Schema

inductive Shape.Accepts : Shape → Document → Prop
  | null {shape : Shape} : Accepts shape .null
  | read {kind : Leaf} {d : Document} {s : Scalar} (h : kind.read d = .ok s) :
      Accepts (.leaf kind) d
  | kept {kind : Leaf} {d : Document} (h : kind.keeps d = true) : Accepts (.leaf kind) d
  | unset {item : Shape} {d : Document} (h : d.isNull = true) : Accepts (.option item) d
  | content {item : Shape} {d : Document} (h : Accepts item d) : Accepts (.option item) d
  | record {fields : Fields} {entries : List (Document × Document)}
      (hkeys : ∀ e ∈ entries, (fields.place? e.1).isSome)
      (h : ∀ e ∈ entries, ∀ i f, fields.place? e.1 = some i → fields.flatten[i]? = some f →
        Accepts f.shape e.2) :
      Accepts (.record fields) (.mapping entries)
  | items {item : Shape} {ds : List Document} (h : ∀ d ∈ ds, Accepts item d) :
      Accepts (.sequence item) (.sequence ds)
  | parts {item : Shape} {s : String} (h : ∀ part ∈ commaParts s, Accepts item (.string part)) :
      Accepts (.sequence item) (.string s)
  | indexed {item : Shape} {entries : List (Document × Document)}
      (hkeys : ∀ e ∈ entries, (elementIndex? e.1).isSome) (h : ∀ e ∈ entries, Accepts item e.2) :
      Accepts (.sequence item) (.mapping entries)
  | lone {item : Shape} {d : Document} (hd : d.standsAlone = true) (h : Accepts item d) :
      Accepts (.sequence item) d

variable {shape item : Shape} {fields : Fields} {start v v' w : Value} {decode : Decoder}
  {d : Document} {path : String} {e : DecodeError}

/-! ### What is decoded is accepted -/

theorem exists_of_decodeParts_ok {index : ℕ} {parts : List String} {vs : List Value}
    (h : decodeParts start decode path index parts = .ok vs) :
    ∀ part ∈ parts, ∃ q u, decode start (.string part) q = .done u := by
  induction parts generalizing index vs with
  | nil => simp
  | cons part parts ih =>
    obtain ⟨u, us, hu, hrest, rfl⟩ := decodeParts_cons_eq_ok_iff.1 h
    exact List.forall_mem_cons.2 ⟨⟨_, u, hu⟩, ih hrest⟩

theorem Leaf.accepts_iff_read {kind : Leaf} : (Shape.leaf kind).Accepts d ↔
    kind.keeps d = true ∨ ∃ s, kind.read d = .ok s := by
  constructor
  · intro h
    cases h with
    | null => exact .inl (by cases kind <;> rfl)
    | read h => exact .inr ⟨_, h⟩
    | kept h => exact .inl h
  · rintro (h | ⟨s, h⟩)
    · exact .kept h
    · exact .read h

theorem Leaf.error_decode_eq_none_iff {kind : Leaf} :
    (decodeLeaf kind v d path).error = none ↔ (Shape.leaf kind).Accepts d := by
  rw [Leaf.accepts_iff_read, decodeLeaf]
  by_cases hkeeps : kind.keeps d = true
  · simp [hkeeps]
  · cases kind.read d <;> simp [hkeeps]

/-- What can be decoded onto some value is accepted. -/
theorem Shape.accepts_of_decode (h : shape.decode v d path = .done v') : shape.Accepts d := by
  induction shape using Shape.induction generalizing v v' d path with
  | leaf kind => exact Leaf.error_decode_eq_none_iff.1 (Outcome.eq_done_iff.1 h).1
  | option item ih =>
    by_cases hnull : d.isNull = true
    · exact .unset hnull
    · obtain ⟨u, hu, -⟩ := (decode_option_eq_done_iff (by simpa using hnull)).1 h
      exact .content (ih hu)
  | sequence item ih =>
    cases d with
    | null => exact .null
    | sequence ds =>
      rw [decode, decodeSequence_sequence, Outcome.map_eq_done_iff] at h
      obtain ⟨ws, hws, -⟩ := h
      refine .items fun d hd => ?_
      obtain ⟨i, hi⟩ := List.mem_iff_getElem?.1 hd
      obtain ⟨us, us', hstep⟩ :=
        Outcome.exists_of_each_eq_done hws (d, i) (List.mk_mem_zipIdx_iff_getElem?.2 hi)
      obtain ⟨-, u, hu, -⟩ := decodeElement_eq_done_iff_put.1 hstep
      exact ih hu
    | mapping entries =>
      rw [decode, decodeSequence_mapping, Outcome.map_eq_done_iff] at h
      obtain ⟨ws, hws, -⟩ := h
      have hsteps : ∀ e ∈ entries, (elementIndex? e.1).isSome ∧ item.Accepts e.2 := by
        intro e he
        obtain ⟨us, us', hstep⟩ := Outcome.exists_of_each_eq_done hws e he
        obtain ⟨i, hi, helement⟩ := indexStep_eq_done_iff_index?.1 hstep
        obtain ⟨-, u, hu, -⟩ := decodeElement_eq_done_iff_put.1 helement
        rw [hi]
        exact ⟨rfl, ih hu⟩
      exact .indexed (fun e he => (hsteps e he).1) fun e he => (hsteps e he).2
    | string s =>
      rw [decode, decodeSequence] at h
      cases hparts : decodeParts item.start item.decode path 0 (commaParts s) with
      | error e => simp [hparts] at h
      | ok vs =>
        refine .parts fun part hpart => ?_
        obtain ⟨q, u, hu⟩ := exists_of_decodeParts_ok hparts part hpart
        exact ih hu
    | _ =>
      rw [decode, decodeSequence_of_standsAlone rfl, loneElement_eq_done_iff] at h
      obtain ⟨u, hu, -⟩ := h
      exact .lone rfl (ih hu)
  | record fields ih =>
    cases d with
    | null => exact .null
    | mapping entries =>
      rw [decode, decodeRecord_mapping, Outcome.map_eq_done_iff] at h
      obtain ⟨ws, hws, -⟩ := h
      have hsteps : ∀ e ∈ entries, ∃ i f, fields.place? e.1 = some i ∧
          fields.flatten[i]? = some f ∧ f.shape.Accepts e.2 := by
        intro e he
        obtain ⟨us, us', hstep⟩ := Outcome.exists_of_each_eq_done hws e he
        obtain ⟨i, f, u, u', hi, hf, -, hu', -⟩ := recordStep_eq_done_iff_set.1 hstep
        exact ⟨i, f, hi, hf, ih f (List.mem_of_getElem? hf) hu'⟩
      refine .record (fun e he => ?_) fun e he i f hi hf => ?_
      · obtain ⟨i, -, hi, -⟩ := hsteps e he
        rw [hi]
        rfl
      · obtain ⟨j, g, hj, hg, haccepts⟩ := hsteps e he
        obtain rfl := Option.some.inj (hi.symm.trans hj)
        obtain rfl := Option.some.inj (hf.symm.trans hg)
        exact haccepts
    | _ => exact absurd h Outcome.failed_ne_done

/-! ### Rows of values -/

def Fields.Hold (fields : Fields) : List Value → Prop :=
  List.Forall₂ (fun f v => f.shape.Holds v) fields.flatten

theorem Fields.hold_of_record (hv : (Shape.record fields).Holds v) : fields.Hold v.fields := by
  cases hv with
  | record h => exact h

theorem allWithin64_of_sequence (hv : (Shape.sequence item).Holds v) :
    AllWithin64 item.Holds v.elements := by
  cases hv with
  | items hlength h => exact ⟨hlength, h⟩

theorem Fields.Hold.exists_value {vs : List Value} {i : ℕ} {f : Field} (hvs : fields.Hold vs)
    (hf : fields.flatten[i]? = some f) : ∃ u, vs[i]? = some u ∧ f.shape.Holds u :=
  Shape.HoldsWith.field (v := .record vs) (.record hvs) hf

theorem Fields.Hold.recordStep (hstarts : (Shape.record fields).StartsWith Leaf.Holds)
    {vs : List Value} (hvs : fields.Hold vs) {e : Document × Document} (hmem : e.2.InMemory)
    (path : String) : fields.Hold (recordStep fields.decoders path vs e).value := by
  rcases recordStep_cases fields path vs e with ⟨error, h⟩ | ⟨key, -, r, h⟩
  · rw [h]
    exact hvs
  · obtain ⟨hvalue, hput⟩ := r.forall₂_put hvs
    rw [h]
    exact hput _ ((Shape.decode_holds Leaf.invariant_holds (hstarts.of_record r.field_mem)).1 _ _ _
      (.inl hmem) hvalue)

theorem Shape.decode_keeps_holds (hstarts : shape.StartsWith Leaf.Holds) :
    shape.decode.Keeps shape.Holds :=
  fun v d path hmem => (Shape.decode_holds Leaf.invariant_holds hstarts).1 v d path (.inl hmem)

theorem AllWithin64.element (hstarts : item.StartsWith Leaf.Holds) {vs : List Value}
    (hvs : AllWithin64 item.Holds vs) (i : ℕ) : item.Holds (vs.getD i item.start) :=
  Shape.HoldsWith.element (v := .items vs) (.items hvs.1 hvs.2)
    (hstarts.start_holds Leaf.invariant_holds) i

theorem AllWithin64.decodeElement (hstarts : item.StartsWith Leaf.Holds) {vs : List Value}
    (hvs : AllWithin64 item.Holds vs) (i : ℕ) (hmem : d.InMemory) (path : String) :
    AllWithin64 item.Holds (decodeElement item.start item.decode vs i d path).value :=
  decodeElement_keeps (Shape.decode_keeps_holds hstarts)
    (hstarts.start_holds Leaf.invariant_holds) hvs i hmem path

theorem AllWithin64.indexStep (hstarts : item.StartsWith Leaf.Holds) {vs : List Value}
    (hvs : AllWithin64 item.Holds vs) {e : Document × Document} (hmem : e.2.InMemory)
    (path : String) :
    AllWithin64 item.Holds (indexStep item.start item.decode path vs e).value := by
  rcases indexStep_cases item.start item.decode path vs e with ⟨error, h⟩ | ⟨key, i, -, -, h⟩
  · rw [h]
    exact hvs
  · rw [h]
    exact hvs.decodeElement hstarts i hmem _

/-! ### What is accepted is decoded, but for large indexes -/

theorem reachable_of_le {count i : ℕ} (h : i ≤ maxGrowth) : Reachable count i := by
  have hgrowth : maxGrowth = 1024 := rfl
  unfold Reachable
  omega

/-- After the items of a sequence there are elements at their positions. -/
theorem length_le_of_each_itemStep {ds : List Document} {n : ℕ} {vs ws : List Value}
    (h : Outcome.each (itemStep start decode path) vs (ds.zipIdx n) = .done ws)
    (hn : n ≤ vs.length) : n + ds.length ≤ ws.length := by
  induction ds generalizing n vs with
  | nil =>
    obtain rfl : vs = ws := Outcome.done_inj.1 h
    simpa using hn
  | cons d ds ih =>
    obtain ⟨us, hfirst, hrest⟩ := Outcome.each_cons_eq_done_iff.1 h
    obtain ⟨-, w, -, rfl⟩ := decodeElement_eq_done_iff_put.1 hfirst
    have hlength : n + 1 + ds.length ≤ ws.length := ih hrest (by simp)
    rw [List.length_cons]
    omega

/-- What is not null fails on an option as it does on its content, or on what a new one starts
with. -/
theorem error_decode_option (hnull : d.isNull = false) (v : Value) (path : String) :
    ((Shape.option item).decode v d path).error =
      (item.decode (v.contentOr item.start) d path).error := by
  cases hbuild : item.build d path with
  | ok u =>
    have hu : (item.decode item.start d path).error = none := by
      rw [(Shape.build_eq_ok_iff hnull).1 hbuild, Outcome.error_done]
    cases v <;> simp [Shape.decode, decodeOption, Value.contentOr, hnull, hbuild, hu]
  | error e =>
    have he : (item.decode item.start d path).error = some e := by
      rw [Shape.build_eq hnull, Outcome.toExcept_eq_error_iff] at hbuild
      rw [hbuild, Outcome.error_failed]
    cases v <;> simp [Shape.decode, decodeOption, Value.contentOr, hnull, hbuild, he]

/-- The error says that an index is too large to grow to, and the document has such an index. -/
def Shape.IndexTooLarge (shape : Shape) (d : Document) (e : DecodeError) : Prop :=
  (∃ q, e = .coercion q .indexOutOfRange) ∧ ¬shape.IndexesWithin maxGrowth d

theorem Shape.IndexTooLarge.of_leadsTo {t : Shape} {x : Document}
    (h : t.IndexTooLarge x e) (hleads : Shape.LeadsTo t x shape d) : shape.IndexTooLarge d e :=
  ⟨h.1, fun hwithin => h.2 (hleads.indexesWithin hwithin)⟩

/-- Decoding what the type accepts onto one of its values can only fail at an index that is too
large to grow to. -/
def Shape.FailsOnlyFar (shape : Shape) : Prop :=
  ∀ ⦃v v' d path e⦄, shape.Accepts d → shape.Holds v → d.InMemory →
    shape.decode v d path = .failed v' e → shape.IndexTooLarge d e

theorem Shape.failsOnlyFar_option (hstarts : item.StartsWith Leaf.Holds)
    (ih : item.FailsOnlyFar) : (Shape.option item).FailsOnlyFar := by
  intro v v' d path e haccepts hv hmem h
  have herror := (Outcome.eq_failed_iff.1 h).1
  by_cases hnull : d.isNull = true
  · simp [Shape.decode, decodeOption, hnull] at herror
  · have hitem : item.Accepts d := by
      cases haccepts with
      | null => exact absurd rfl hnull
      | unset hd => exact absurd hd hnull
      | content hd => exact hd
    rw [error_decode_option (by simpa using hnull)] at herror
    have hcontent := hv.contentOr (hstarts.start_holds Leaf.invariant_holds)
    exact (ih hitem hcontent hmem (Outcome.eq_failed_of_error herror)).of_leadsTo (.content .here)

/-- An element fails because the item does, or because it is out of reach. -/
theorem Shape.FailsOnlyFar.decodeElement (ih : item.FailsOnlyFar)
    (hstarts : item.StartsWith Leaf.Holds) (haccepts : item.Accepts d) {vs ws : List Value}
    (hvs : AllWithin64 item.Holds vs) (hmem : d.InMemory) {i : ℕ}
    (h : decodeElement item.start item.decode vs i d path = .failed ws e) :
    item.IndexTooLarge d e ∨ ¬Reachable vs.length i ∧ e = .coercion path .indexOutOfRange := by
  by_cases hreach : Reachable vs.length i
  · rw [decodeElement_of_reachable hreach, Outcome.map_eq_failed_iff] at h
    obtain ⟨w, hw, -⟩ := h
    exact .inl (ih haccepts (hvs.element hstarts i) hmem hw)
  · rw [decodeElement_of_not_reachable hreach, Outcome.failed_inj] at h
    exact .inr ⟨hreach, h.2.symm⟩

theorem Shape.failsOnlyFar_sequence (hstarts : item.StartsWith Leaf.Holds)
    (ih : item.FailsOnlyFar) : (Shape.sequence item).FailsOnlyFar := by
  intro v v' d path e haccepts hv hmem h
  have hstart : item.Holds item.start := hstarts.start_holds Leaf.invariant_holds
  have hvs := allWithin64_of_sequence hv
  have herror := (Outcome.eq_failed_iff.1 h).1
  cases haccepts with
  | null => exact absurd h.symm Outcome.failed_ne_done
  | @items _ ds hds =>
    cases hmem with
    | sequence hlength hmems =>
      obtain ⟨before, d, after, ws, rfl, hbefore, hd⟩ := Shape.error_decode_items_iff.1 herror
      have hws : AllWithin64 item.Holds ws := by
        refine Outcome.of_each_eq_done hvs (fun us e he hus => ?_) hbefore
        exact hus.decodeElement hstarts e.2 (hmems e.1 (by simp [List.fst_mem_of_mem_zipIdx he])) _
      -- The items before this one have left elements up to its position.
      have hreach : Reachable ws.length before.length := by
        have hcount := length_le_of_each_itemStep hbefore (Nat.zero_le _)
        simp only [List.length_append, List.length_cons] at hlength
        exact .inr ⟨by omega, by omega⟩
      rcases ih.decodeElement hstarts (hds d (by simp)) hws (hmems d (by simp))
        (Outcome.eq_failed_of_error hd) with hfar | ⟨hnot, -⟩
      · exact hfar.of_leadsTo (.item (by simp) .here)
      · exact absurd hreach hnot
  | @indexed _ entries hkeys hitems =>
    cases hmem with
    | mapping hmems =>
      obtain ⟨before, entry, after, ws, rfl, hbefore, hentry⟩ :=
        Shape.error_decode_indexed_iff.1 herror
      have hmember : entry ∈ before ++ entry :: after := by simp
      obtain ⟨i, hi⟩ := Option.isSome_iff_exists.1 (hkeys entry hmember)
      have hws : AllWithin64 item.Holds ws :=
        Outcome.of_each_eq_done hvs
          (fun us e he hus => hus.indexStep hstarts (hmems e (by simp [he])) path) hbefore
      rw [indexStep_of_index? hi] at hentry
      rcases ih.decodeElement hstarts (hitems entry hmember) hws (hmems entry hmember)
        (Outcome.eq_failed_of_error hentry) with hfar | ⟨hnot, rfl⟩
      · exact hfar.of_leadsTo (.indexed hmember hi .here)
      · exact ⟨⟨_, rfl⟩, fun hwithin =>
          hnot (reachable_of_le (hwithin item _ .here entry hmember i hi))⟩
  | @parts _ s hparts =>
    cases hmem with
    | string hlength =>
      obtain ⟨before, part, after, us, hsplit, -, hfails⟩ := Shape.error_decode_parts_iff.1 herror
      have hpart : part ∈ commaParts s := by simp [hsplit]
      have hshort : part.length < 2 ^ 63 := (length_le_of_mem_commaParts hpart).trans_lt hlength
      have hu := Outcome.eq_failed_of_error hfails
      exact (ih (hparts part hpart) hstart (.string hshort) hu).of_leadsTo (.part hpart .here)
  | lone hd hitem =>
    rw [Shape.decode, decodeSequence_of_standsAlone hd, error_loneElement] at herror
    exact (ih hitem hstart hmem (Outcome.eq_failed_of_error herror)).of_leadsTo (.lone hd .here)

theorem Shape.failsOnlyFar_record (hstarts : (Shape.record fields).StartsWith Leaf.Holds)
    (ih : ∀ f ∈ fields.flatten, f.shape.FailsOnlyFar) : (Shape.record fields).FailsOnlyFar := by
  intro v v' d path e haccepts hv hmem h
  cases haccepts with
  | null => exact absurd h.symm Outcome.failed_ne_done
  | @record _ entries hkeys hitems =>
    cases hmem with
    | mapping hmems =>
      obtain ⟨before, entry, after, ws, rfl, hbefore, hentry⟩ :=
        Shape.error_decode_record_iff.1 (Outcome.eq_failed_iff.1 h).1
      have hmember : entry ∈ before ++ entry :: after := by simp
      obtain ⟨i, hi⟩ := Option.isSome_iff_exists.1 (hkeys entry hmember)
      obtain ⟨f, hf⟩ := Fields.exists_of_place? hi
      have hws : fields.Hold ws :=
        Outcome.of_each_eq_done (Fields.hold_of_record hv)
          (fun us e he hus => hus.recordStep hstarts (hmems e (by simp [he])) path) hbefore
      obtain ⟨u, hu, hholds⟩ := hws.exists_value hf
      rw [recordStep_of_place? hi hf hu, Outcome.error_map] at hentry
      exact (ih f (List.mem_of_getElem? hf) (hitems entry hmember i f hi hf) hholds
        (hmems entry hmember) (Outcome.eq_failed_of_error hentry)).of_leadsTo
          (.field hmember hi hf .here)

theorem Shape.failsOnlyFar (hstarts : shape.StartsWith Leaf.Holds) : shape.FailsOnlyFar := by
  induction shape using Shape.induction with
  | leaf kind =>
    intro v v' d path e haccepts _ _ h
    have hnone : (decodeLeaf kind v d path).error = none :=
      Leaf.error_decode_eq_none_iff.2 haccepts
    cases hnone.symm.trans (Outcome.eq_failed_iff.1 h).1
  | option item ih => exact Shape.failsOnlyFar_option hstarts.of_option (ih hstarts.of_option)
  | sequence item ih =>
    exact Shape.failsOnlyFar_sequence hstarts.of_sequence (ih hstarts.of_sequence)
  | record fields ih =>
    exact Shape.failsOnlyFar_record hstarts fun f hf => ih f hf (hstarts.of_record hf)

/-! ### Failing alike -/

def Shape.FailsAlike (shape : Shape) : Prop :=
  ∀ ⦃v w d path⦄, shape.Holds v → shape.Holds w → d.InMemory → shape.IndexesWithin maxGrowth d →
    (shape.decode v d path).error = (shape.decode w d path).error

theorem Shape.failsAlike_leaf (kind : Leaf) : (Shape.leaf kind).FailsAlike := by
  intro v w d path _ _ _ _
  rw [Shape.decode, decodeLeaf, decodeLeaf]
  split
  · rfl
  · split <;> rfl

theorem Shape.failsAlike_option (hstarts : item.StartsWith Leaf.Holds) (ih : item.FailsAlike) :
    (Shape.option item).FailsAlike := by
  intro v w d path hv hw hmem hwithin
  have hstart := hstarts.start_holds Leaf.invariant_holds
  by_cases hnull : d.isNull = true
  · simp [Shape.decode, decodeOption, hnull]
  · have hnull' : d.isNull = false := by simpa using hnull
    rw [error_decode_option hnull', error_decode_option hnull']
    exact ih (hv.contentOr hstart) (hw.contentOr hstart) hmem
      (Shape.LeadsTo.indexesWithin (.content .here) hwithin)

theorem Shape.FailsAlike.decodeElement (ih : item.FailsAlike) (hstarts : item.StartsWith Leaf.Holds)
    {vs ws : List Value} (hvs : AllWithin64 item.Holds vs) (hws : AllWithin64 item.Holds ws)
    (hmem : d.InMemory) (hwithin : item.IndexesWithin maxGrowth d) {i : ℕ}
    (hvreach : Reachable vs.length i) (hwreach : Reachable ws.length i) :
    (decodeElement item.start item.decode vs i d path).error =
      (decodeElement item.start item.decode ws i d path).error := by
  rw [decodeElement_of_reachable hvreach, decodeElement_of_reachable hwreach, Outcome.error_map,
    Outcome.error_map]
  exact ih (hvs.element hstarts i) (hws.element hstarts i) hmem hwithin

theorem Shape.FailsAlike.each_itemStep (ih : item.FailsAlike) (hstarts : item.StartsWith Leaf.Holds)
    {ds : List Document} {vs ws : List Value} (hvs : AllWithin64 item.Holds vs)
    (hws : AllWithin64 item.Holds ws) (hlength : ds.length < 2 ^ 63)
    (hds : ∀ d ∈ ds, d.InMemory ∧ item.IndexesWithin maxGrowth d) :
    (Outcome.each (itemStep item.start item.decode path) vs ds.zipIdx).error =
      (Outcome.each (itemStep item.start item.decode path) ws ds.zipIdx).error := by
  -- What is left of the items begins where both sequences already reach to.
  refine Outcome.error_each_eq (I := fun rest us us' => AllWithin64 item.Holds us ∧
    AllWithin64 item.Holds us' ∧ ∃ n tail, rest = tail.zipIdx n ∧ n ≤ us.length ∧ n ≤ us'.length ∧
      n + tail.length < 2 ^ 63 ∧ ∀ d ∈ tail, d.InMemory ∧ item.IndexesWithin maxGrowth d)
    ⟨hvs, hws, 0, ds, rfl, Nat.zero_le _, Nat.zero_le _, by omega, hds⟩ ?_
  rintro e rest us us' ⟨hus, hus', n, tail, hrow, hn, hn', hbound, htail⟩
  obtain ⟨d, tail, rfl, rfl, rfl⟩ := List.zipIdx_eq_cons_iff.1 hrow.symm
  obtain ⟨⟨hmem, hwithin⟩, hrest⟩ := List.forall_mem_cons.1 htail
  rw [List.length_cons] at hbound
  have hreach {count : ℕ} (h : n ≤ count) : Reachable count n := .inr ⟨by omega, by omega⟩
  refine ⟨ih.decodeElement hstarts hus hus' hmem hwithin (hreach hn) (hreach hn'),
    hus.decodeElement hstarts n hmem _, hus'.decodeElement hstarts n hmem _, n + 1, tail, rfl,
    ?_, ?_, by omega, hrest⟩
  · rw [itemStep, length_decodeElement (hreach hn)]
    exact le_max_right _ _
  · rw [itemStep, length_decodeElement (hreach hn')]
    exact le_max_right _ _

theorem Shape.failsAlike_sequence (hstarts : item.StartsWith Leaf.Holds) (ih : item.FailsAlike) :
    (Shape.sequence item).FailsAlike := by
  intro v w d path hv hw hmem hwithin
  have hvs := allWithin64_of_sequence hv
  have hws := allWithin64_of_sequence hw
  cases d with
  | null => rfl
  | sequence ds =>
    cases hmem with
    | sequence hlength hmems =>
      rw [Shape.decode, decodeSequence_sequence, decodeSequence_sequence, Outcome.error_map,
        Outcome.error_map]
      exact ih.each_itemStep hstarts hvs hws hlength fun d hd =>
        ⟨hmems d hd, Shape.LeadsTo.indexesWithin (.item hd .here) hwithin⟩
  | mapping entries =>
    cases hmem with
    | mapping hmems =>
      rw [Shape.decode, decodeSequence_mapping, decodeSequence_mapping, Outcome.error_map,
        Outcome.error_map]
      refine Outcome.error_each_eq (I := fun rest us us' => AllWithin64 item.Holds us ∧
        AllWithin64 item.Holds us' ∧ ∀ e ∈ rest, e ∈ entries) ⟨hvs, hws, fun _ he => he⟩ ?_
      rintro e rest us us' ⟨hus, hus', hentries⟩
      obtain ⟨he, hrest⟩ := List.forall_mem_cons.1 hentries
      refine ⟨?_, hus.indexStep hstarts (hmems e he) path, hus'.indexStep hstarts (hmems e he) path,
        hrest⟩
      cases hi : elementIndex? e.1 with
      | none =>
        obtain ⟨error, hfails⟩ := indexStep_of_no_index hi item.start item.decode path
        rw [hfails, hfails, Outcome.error_failed, Outcome.error_failed]
      | some i =>
        have hle : i ≤ maxGrowth := hwithin item entries .here e he i hi
        rw [indexStep_of_index? hi, indexStep_of_index? hi]
        exact ih.decodeElement hstarts hus hus' (hmems e he)
          (Shape.LeadsTo.indexesWithin (.indexed he hi .here) hwithin) (reachable_of_le hle)
          (reachable_of_le hle)
  | string s =>
    dsimp only [Shape.decode, decodeSequence]
    split <;> rfl
  | _ =>
    rw [Shape.decode, decodeSequence_of_standsAlone rfl, decodeSequence_of_standsAlone rfl,
      loneElement, loneElement]
    split <;> rfl

theorem Shape.failsAlike_record (hstarts : (Shape.record fields).StartsWith Leaf.Holds)
    (ih : ∀ f ∈ fields.flatten, f.shape.FailsAlike) : (Shape.record fields).FailsAlike := by
  intro v w d path hv hw hmem hwithin
  cases d with
  | mapping entries =>
    cases hmem with
    | mapping hmems =>
      rw [Shape.decode, decodeRecord_mapping, decodeRecord_mapping, Outcome.error_map,
        Outcome.error_map]
      refine Outcome.error_each_eq (I := fun rest us us' => fields.Hold us ∧ fields.Hold us' ∧
        ∀ e ∈ rest, e ∈ entries)
        ⟨Fields.hold_of_record hv, Fields.hold_of_record hw, fun _ he => he⟩ ?_
      rintro e rest us us' ⟨hus, hus', hentries⟩
      obtain ⟨he, hrest⟩ := List.forall_mem_cons.1 hentries
      refine ⟨?_, hus.recordStep hstarts (hmems e he) path,
        hus'.recordStep hstarts (hmems e he) path, hrest⟩
      cases hi : fields.place? e.1 with
      | none =>
        obtain ⟨error, hfails⟩ := recordStep_of_no_place hi path
        rw [hfails, hfails, Outcome.error_failed, Outcome.error_failed]
      | some i =>
        obtain ⟨f, hf⟩ := Fields.exists_of_place? hi
        obtain ⟨u, hu, hholds⟩ := hus.exists_value hf
        obtain ⟨u', hu', hholds'⟩ := hus'.exists_value hf
        rw [recordStep_of_place? hi hf hu, recordStep_of_place? hi hf hu', Outcome.error_map,
          Outcome.error_map]
        exact ih f (List.mem_of_getElem? hf) hholds hholds' (hmems e he)
          (Shape.LeadsTo.indexesWithin (.field he hi hf .here) hwithin)
  | _ => rfl

theorem Shape.failsAlike (hstarts : shape.StartsWith Leaf.Holds) : shape.FailsAlike := by
  induction shape using Shape.induction with
  | leaf kind => exact Shape.failsAlike_leaf kind
  | option item ih => exact Shape.failsAlike_option hstarts.of_option (ih hstarts.of_option)
  | sequence item ih =>
    exact Shape.failsAlike_sequence hstarts.of_sequence (ih hstarts.of_sequence)
  | record fields ih =>
    exact Shape.failsAlike_record hstarts fun f hf => ih f hf (hstarts.of_record hf)

theorem Shape.exists_done_iff_accepts (hstarts : shape.StartsWith Leaf.Holds) (hv : shape.Holds v)
    (hmem : d.InMemory) (hwithin : shape.IndexesWithin maxGrowth d) (path : String) :
    (∃ v', shape.decode v d path = .done v') ↔ shape.Accepts d := by
  refine ⟨fun ⟨v', h⟩ => accepts_of_decode h, fun haccepts => ?_⟩
  cases herror : (shape.decode v d path).error with
  | none => exact ⟨_, Outcome.eq_done_iff.2 ⟨herror, rfl⟩⟩
  | some e =>
    have hfar := Shape.failsOnlyFar hstarts haccepts hv hmem (Outcome.eq_failed_of_error herror)
    exact absurd hwithin hfar.2

/-- Decoding succeeds for the accepted documents, and else it fails alike onto every value. Building
agrees where the document is not null. -/
theorem Shape.decode_accepts (hstarts : shape.StartsWith Leaf.Holds) (hv : shape.Holds v)
    (hw : shape.Holds w) (hmem : d.InMemory) (hwithin : shape.IndexesWithin maxGrowth d)
    (path : String) :
    ((∃ v', shape.decode v d path = .done v') ↔ shape.Accepts d) ∧
      (shape.decode v d path).error = (shape.decode w d path).error ∧
      (d.isNull = false → ∀ e, shape.build d path = .error e ↔
        (shape.decode v d path).error = some e) := by
  have hstart : shape.Holds shape.start := hstarts.start_holds Leaf.invariant_holds
  refine ⟨Shape.exists_done_iff_accepts hstarts hv hmem hwithin path,
    Shape.failsAlike hstarts hv hw hmem hwithin, fun hnull e => ?_⟩
  rw [Shape.failsAlike hstarts hv hstart hmem hwithin, Shape.build_eq hnull,
    Outcome.toExcept_eq_error_iff, Outcome.eq_failed_iff]
  simp

/-- A document that is refused alike onto no element and onto a content that is set. -/
theorem Shape.decode_accepts_modules :
    let module : Shape := .record (.plain "name" (.leaf .string) (.scalar (.text "main")) <|
      .plain "gauge" (.option (.leaf (.integer .u8))) .unset .nil)
    let shape : Shape := .sequence module
    let w : Value := .items [.record [.scalar (.text "first"), .unset],
      .record [.scalar (.text "second"), .set (.scalar (.integer 2))]]
    let d : Document := .mapping [
      (.string " 01", .mapping [(.string "Gauge", .number (.integer 300))])]
    let e : DecodeError := .coercion " 01.Gauge" (.outOfRange 300 .u8)
    shape.StartsWith Leaf.Holds ∧ shape.Holds w ∧ d.InMemory ∧
      shape.IndexesWithin maxGrowth d ∧ ¬shape.Accepts d ∧
      (shape.decode shape.start d "").error = some e ∧ (shape.decode w d "").error = some e ∧
      shape.build d "" = .error e := by
  intro module shape w d e
  have hstarts : shape.StartsWith Leaf.Holds := by
    intro fields h
    obtain rfl : fields = .plain "name" (.leaf .string) (.scalar (.text "main"))
        (.plain "gauge" (.option (.leaf (.integer .u8))) .unset .nil) := by
      simpa [shape, module, Fields.flatten] using h
    simp only [Fields.flatten, List.forall_mem_cons]
    exact ⟨.scalar trivial, .unset, by simp⟩
  have hw : shape.Holds w := by
    refine .items (by decide) ?_
    simp only [List.forall_mem_cons]
    refine ⟨.record (.cons (.scalar trivial) (.cons .unset .nil)), ?_, by simp⟩
    have hgauge : IntegerKind.Holds .u8 2 := by decide
    exact .record (.cons (.scalar trivial) (.cons (.set (.scalar hgauge)) .nil))
  have hmem : d.InMemory := by
    refine .mapping ?_
    rw [List.forall_mem_singleton]
    refine .mapping ?_
    rw [List.forall_mem_singleton]
    exact .number
  have hwithin : shape.IndexesWithin maxGrowth d := by
    intro item entries hleads
    change Shape.LeadsTo _ _ (.sequence module) (.mapping _) at hleads
    cases hleads with
    | here => decide
    | indexed he hi h => exact absurd h.within (by simp [module, Fields.flatten])
    | lone hd h => cases hd
  have hstart : (shape.decode shape.start d "").error = some e := by rfl
  have hall := Shape.decode_accepts hstarts (hstarts.start_holds Leaf.invariant_holds) hw hmem
    hwithin ""
  refine ⟨hstarts, hw, hmem, hwithin, fun haccepts => ?_, hstart, hall.2.1 ▸ hstart,
    (hall.2.2 rfl e).2 hstart⟩
  obtain ⟨v', hv'⟩ := hall.1.2 haccepts
  rw [hv'] at hstart
  cases hstart

end Schema

end LayeredConfig
