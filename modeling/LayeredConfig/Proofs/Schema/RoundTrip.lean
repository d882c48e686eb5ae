import LayeredConfig.Environment.Override
import LayeredConfig.Proofs.Document.Mapping
import LayeredConfig.Proofs.Schema.Key
import LayeredConfig.Proofs.Schema.Leaf

namespace LayeredConfig

namespace Schema

/-! ### The sizes of sequences -/

/-- Every sequence of the second value has at least the elements of the first one's. -/
inductive Value.NoLonger : Value → Value → Prop
  | scalar {s t : Scalar} : NoLonger (.scalar s) (.scalar t)
  | toUnset {w : Value} : NoLonger w .unset
  | ofUnset {v : Value} : NoLonger .unset v
  | set {w v : Value} (h : NoLonger w v) : NoLonger (.set w) (.set v)
  | items {ws vs : List Value} (hlength : ws.length ≤ vs.length)
      (h : ∀ i (hw : i < ws.length) (hv : i < vs.length), NoLonger ws[i] vs[i]) :
      NoLonger (.items ws) (.items vs)
  | record {ws vs : List Value}
      (h : ∀ i (hw : i < ws.length) (hv : i < vs.length), NoLonger ws[i] vs[i]) :
      NoLonger (.record ws) (.record vs)

inductive Value.Unfilled : Value → Prop
  | scalar {s : Scalar} : Unfilled (.scalar s)
  | unset : Unfilled .unset
  | set {v : Value} (h : Unfilled v) : Unfilled (.set v)
  | items : Unfilled (.items [])
  | record {vs : List Value} (h : ∀ v ∈ vs, Unfilled v) : Unfilled (.record vs)

/-- What the values of a type need to read back: keys that stay distinct, no option of an option,
and starts of the fields' types without elements. -/
structure Shape.Reversible (shape : Shape) : Prop where
  distinct : ∀ fields, (Shape.record fields).Within shape → (fields.flatten.map Field.key).Nodup
  flat : ∀ item, ¬(Shape.option (.option item)).Within shape
  starts : shape.StartsWith Leaf.Holds
  unfilled : ∀ fields, (Shape.record fields).Within shape → ∀ f ∈ fields.flatten, f.start.Unfilled

namespace Shape.Reversible

variable {shape item : Shape} {fields : Fields}

theorem ofWithin (h : shape.Reversible) (hitem : ∀ t, Within t item → Within t shape) :
    item.Reversible :=
  ⟨fun fields hf => h.distinct fields (hitem _ hf), fun t ht => h.flat t (hitem _ ht),
    fun fields hf => h.starts fields (hitem _ hf), fun fields hf => h.unfilled fields (hitem _ hf)⟩

theorem start_unfilled (h : shape.Reversible) : shape.start.Unfilled := by
  cases shape with
  | leaf kind => exact .scalar
  | option item => exact .unset
  | sequence item => exact .items
  | record fields =>
    refine .record ?_
    intro v hv
    obtain ⟨f, hf, rfl⟩ := List.mem_map.1 hv
    exact h.unfilled fields .refl f hf

end Shape.Reversible

variable {ok ok' : Leaf → Scalar → Prop}

/-- A value without elements is no longer than any other one of its type. -/
theorem Value.Unfilled.noLonger {shape : Shape} {w v : Value} (h : w.Unfilled)
    (hw : shape.HoldsWith ok w) (hv : shape.HoldsWith ok' v) : w.NoLonger v := by
  induction shape using Shape.induction generalizing w v with
  | leaf kind =>
    cases hw
    cases hv
    exact .scalar
  | option item ih =>
    cases hv with
    | unset => exact .toUnset
    | set hv =>
      cases hw with
      | unset => exact .ofUnset
      | set hw =>
        cases h with
        | set h => exact .set (ih h hw hv)
  | sequence item ih =>
    cases hw with
    | items _ hw =>
      cases hv with
      | @items _ vs _ hv =>
        cases h with
        | items =>
          have hlength : ([] : List Value).length ≤ vs.length := Nat.zero_le _
          exact .items hlength fun i hi => absurd hi (Nat.not_lt_zero i)
  | record fields ih =>
    cases hw with
    | record hw =>
      cases hv with
      | record hv =>
        cases h with
        | record h =>
          refine .record fun i hi hj => ?_
          have hlt : i < fields.flatten.length := by
            rw [hw.length_eq]
            exact hi
          exact ih _ (List.getElem_mem hlt) (h _ (List.getElem_mem hi)) (hw.get hlt hi)
            (hv.get hlt hj)

/-! ### What is written -/

def Field.entry (f : Field) (v : Value) : Document × Document :=
  (.string f.key, f.shape.encode v)

theorem encodeEntries_fields (fs : List Field) (vs : List Value) :
    encodeEntries (fs.map fun f => (f.key, f.shape.encode)) vs =
      List.zipWith Field.entry fs vs := by
  induction fs generalizing vs with
  | nil => cases vs <;> rfl
  | cons f fs ih =>
    cases vs with
    | nil => rfl
    | cons v vs => simp [encodeEntries, Field.entry, ih]

theorem encode_record {fields : Fields} (hdistinct : (fields.flatten.map Field.key).Nodup)
    {vs : List Value} (hlength : fields.flatten.length = vs.length) :
    (Shape.record fields).encode (.record vs) =
      .mapping (List.zipWith Field.entry fields.flatten vs) := by
  have hkeys : (List.zipWith Field.entry fields.flatten vs).map Prod.fst =
      fields.flatten.map fun f => .string f.key := by
    apply List.ext_getElem
    · simp [hlength]
    · intro i hi hj
      simp [Field.entry]
  have hpair : (List.zipWith Field.entry fields.flatten vs).Pairwise
      fun a b => a.1.same b.1 = false := by
    have h : ((List.zipWith Field.entry fields.flatten vs).map Prod.fst).Pairwise
        fun a b => a.same b = false := by
      rw [hkeys, List.pairwise_map]
      exact (List.pairwise_map.1 hdistinct).imp fun hne => by simpa [Document.same] using hne
    exact List.pairwise_map.1 h
  rw [Shape.encode, Fields.encoders_eq, Value.fields, encodeEntries_fields,
    Document.ofEntries_distinct hpair]

theorem isNull_encode {shape : Shape} {v : Value} (hv : shape.HoldsWith ok v)
    (hshape : ∀ item, shape ≠ .option item) : (shape.encode v).isNull = false := by
  cases hv with
  | @scalar kind s => exact s.isNull_encode
  | unset => exact absurd rfl (hshape _)
  | set => exact absurd rfl (hshape _)
  | items => rfl
  | record => rfl

/-! ### Reading it back -/

/-- An element is written over, or added where the sequence ends. -/
theorem itemStep_kept {start : Value} {decode : Decoder} (path : String) {us ws : List Value}
    {w v : Value} {d : Document}
    (h : decode w d (joinPath path (toString us.length)) = .done v) :
    itemStep start decode path (us ++ w :: ws) (d, us.length) = .done (us ++ v :: ws) := by
  have hlt : us.length < (us ++ w :: ws).length := by simp
  have hget : (us ++ w :: ws).getD us.length start = w := by simp
  rw [itemStep, decodeElement_of_grow? (grow?_of_lt hlt), hget, h]
  simp

theorem itemStep_new {start : Value} {decode : Decoder} (path : String) {us : List Value}
    {v : Value} {d : Document} (hbound : us.length + 1 < 2 ^ 64)
    (h : decode start d (joinPath path (toString us.length)) = .done v) :
    itemStep start decode path us (d, us.length) = .done (us ++ [v]) := by
  have hgrow : grow? start us us.length = some (us ++ [start]) := by
    rw [grow?_eq_some_iff]
    have hone : us.length + 1 - us.length = 1 := by omega
    exact ⟨.inr ⟨by simp, hbound⟩, by simp [hone]⟩
  have hget : (us ++ [start]).getD us.length start = start := by simp
  rw [itemStep, decodeElement_of_grow? hgrow, hget, h]
  simp

/-- Written elements are read onto those that are there, and then behind them. -/
theorem each_itemStep_encode {start : Value} {decode : Decoder} {encode : Value → Document}
    (path : String) {us ws vs : List Value} (hlength : ws.length ≤ vs.length)
    (hbound : us.length + vs.length < 2 ^ 64)
    (hkept : ∀ i (hw : i < ws.length) (hv : i < vs.length) path,
      decode ws[i] (encode vs[i]) path = .done vs[i])
    (hnew : ∀ v ∈ vs, ∀ path, decode start (encode v) path = .done v) :
    Outcome.each (itemStep start decode path) (us ++ ws) ((vs.map encode).zipIdx us.length) =
      .done (us ++ vs) := by
  induction vs generalizing us ws with
  | nil =>
    have hws : ws = [] := by simpa using hlength
    simp [hws]
  | cons v vs ih =>
    rw [List.map_cons, List.zipIdx_cons, Outcome.each_cons_eq_done_iff]
    rw [List.length_cons] at hbound
    have hbound' : (us ++ [v]).length + vs.length < 2 ^ 64 := by
      simp only [List.length_append, List.length_cons, List.length_nil]
      omega
    have hnew' : ∀ u ∈ vs, ∀ path, decode start (encode u) path = .done u := fun u hu =>
      hnew u (by simp [hu])
    cases ws with
    | nil =>
      have hstep : itemStep start decode path us (encode v, us.length) = .done (us ++ [v]) :=
        itemStep_new path (by omega) (hnew v (by simp) _)
      have hrest : Outcome.each (itemStep start decode path) (us ++ [v] ++ [])
          ((vs.map encode).zipIdx (us ++ [v]).length) = .done (us ++ [v] ++ vs) :=
        ih (Nat.zero_le _) hbound' (fun i hi => absurd hi (Nat.not_lt_zero i)) hnew'
      exact ⟨us ++ [v], by simpa using hstep, by simpa using hrest⟩
    | cons w ws =>
      have hfirst : decode w (encode v) (joinPath path (toString us.length)) = .done v :=
        hkept 0 (by simp) (by simp) _
      have hrest : Outcome.each (itemStep start decode path) (us ++ [v] ++ ws)
          ((vs.map encode).zipIdx (us ++ [v]).length) = .done (us ++ [v] ++ vs) :=
        ih (by simpa using hlength) hbound'
          (fun i hw hv => hkept (i + 1) (by simpa using hw) (by simpa using hv)) hnew'
      exact ⟨us ++ v :: ws, itemStep_kept path hfirst, by simpa using hrest⟩

/-- Written fields are read onto those that are there. -/
theorem each_recordStep_encode {fields : Fields}
    (hdistinct : (fields.flatten.map Field.key).Nodup) (path : String) {before rest : List Field}
    (hflatten : fields.flatten = before ++ rest) {us ws vs : List Value}
    (hus : us.length = before.length) (hws : rest.length = ws.length)
    (hvs : rest.length = vs.length)
    (hdecode : ∀ i (hf : i < rest.length) (hw : i < ws.length) (hv : i < vs.length) path,
      rest[i].shape.decode ws[i] (rest[i].shape.encode vs[i]) path = .done vs[i]) :
    Outcome.each (recordStep fields.decoders path) (us ++ ws) (List.zipWith Field.entry rest vs) =
      .done (us ++ vs) := by
  induction rest generalizing before us ws vs with
  | nil =>
    obtain rfl := List.length_eq_zero_iff.1 hws.symm
    obtain rfl := List.length_eq_zero_iff.1 hvs.symm
    rfl
  | cons f rest ih =>
    obtain ⟨w, ws, rfl⟩ := List.exists_cons_of_length_eq_add_one hws.symm
    obtain ⟨v, vs, rfl⟩ := List.exists_cons_of_length_eq_add_one hvs.symm
    have hkey : normalizeKey f.key = f.key := normalizeKey_normalizeKey f.name
    have hfirst : ∀ g ∈ before, g.key ≠ f.key := by
      rw [hflatten, List.map_append, List.nodup_append] at hdistinct
      exact fun g hg => hdistinct.2.2 _ (List.mem_map_of_mem hg) _ (by simp)
    -- The first field with the key is the one that was written.
    let found : fields.Found (us ++ w :: ws) (normalizeKey f.key) :=
      ⟨before, f, rest, us, w, ws, hflatten, rfl, hus, hkey.symm, by rwa [hkey]⟩
    have hfield : f.shape.decode w (f.shape.encode v) (joinPath path f.key) = .done v :=
      hdecode 0 (by simp) (by simp) (by simp) _
    have hstep : recordStep fields.decoders path (us ++ w :: ws) (f.entry v) =
        .done (us ++ v :: ws) := by
      rw [recordStep_eq_done_iff]
      exact ⟨f.key, rfl, found, v, hfield, rfl⟩
    have hflatten' : fields.flatten = (before ++ [f]) ++ rest := by simpa using hflatten
    have hrest : Outcome.each (recordStep fields.decoders path) (us ++ [v] ++ ws)
        (List.zipWith Field.entry rest vs) = .done (us ++ [v] ++ vs) :=
      ih hflatten' (by simpa using hus) (by simpa using hws) (by simpa using hvs)
        fun i hf hw hv =>
          hdecode (i + 1) (by simpa using hf) (by simpa using hw) (by simpa using hv)
    rw [List.zipWith_cons_cons, Outcome.each_cons_eq_done_iff]
    exact ⟨us ++ v :: ws, hstep, by simpa using hrest⟩

/-! ### Round trips -/

def Shape.GivesBack (shape : Shape) (v : Value) : Prop :=
  (∀ w path, shape.Holds w → w.NoLonger v → shape.decode w (shape.encode v) path = .done v) ∧
    ∀ path, shape.build (shape.encode v) path = .ok v

theorem seeded_eq_ok {start v : Value} {decode : Decoder} {d : Document} {path : String}
    (h : decode start d path = .done v) : seeded start decode d path = .ok v := by
  rw [seeded, h, Outcome.toExcept_done]

/-- Whatever was there before, a leaf holds what is read of what was written. -/
theorem decodeLeaf_encode {kind : Leaf} {s t : Scalar} (h : kind.read s.encode = .ok t) (w : Value)
    (path : String) : decodeLeaf kind w s.encode path = .done (.scalar t) := by
  simp [decodeLeaf, kind.keeps_encode s, h]

theorem Leaf.givesBack {kind : Leaf} {s : Scalar} (h : kind.HoldsTextual s) :
    (Shape.leaf kind).GivesBack (.scalar s) := by
  have hdecode := decodeLeaf_encode (Leaf.read_encode h)
  refine ⟨fun w path _ _ => hdecode w path, fun path => ?_⟩
  show buildLeaf kind s.encode path = .ok (.scalar s)
  unfold buildLeaf
  split
  · rw [Leaf.read_encode h]
  · exact seeded_eq_ok (hdecode _ path)

/-- A type that is built from its start gives back what it gives back when it is decoded. -/
theorem Shape.Reversible.givesBack_of_seeded {shape : Shape} (hshape : shape.Reversible)
    (hbuild : shape.build = seeded shape.start shape.decode) {v : Value}
    (hv : shape.HoldsWith ok v) (hdecode : ∀ w path, shape.Holds w → w.NoLonger v →
      shape.decode w (shape.encode v) path = .done v) : shape.GivesBack v := by
  have hstart : shape.Holds shape.start := hshape.starts.start_holds Leaf.invariant_holds
  refine ⟨hdecode, fun path => ?_⟩
  rw [hbuild]
  exact seeded_eq_ok (hdecode _ path hstart (hshape.start_unfilled.noLonger hstart hv))

theorem Shape.GivesBack.set {item : Shape} {v : Value} (h : item.GivesBack v)
    (hnull : (item.encode v).isNull = false) : (Shape.option item).GivesBack (.set v) := by
  obtain ⟨hdecode, hbuild⟩ := h
  refine ⟨fun w path hw hle => ?_, fun path => ?_⟩
  · show decodeOption item.decode item.build w (item.encode v) path = _
    cases hw with
    | unset => simp [decodeOption, hnull, hbuild path]
    | @set _ old hold =>
      cases hle with
      | set hle => simp [decodeOption, hnull, hdecode old path hold hle]
  · show buildOption item.build (item.encode v) path = _
    simp [buildOption, hnull, hbuild path, Except.map]

theorem Shape.Reversible.givesBack_items {item : Shape}
    (hshape : (Shape.sequence item).Reversible) {vs : List Value}
    (hvs : (Shape.sequence item).HoldsWith ok (.items vs)) (h : ∀ v ∈ vs, item.GivesBack v) :
    (Shape.sequence item).GivesBack (.items vs) := by
  have hitem : item.Reversible := hshape.ofWithin fun t h => .sequence h
  refine hshape.givesBack_of_seeded (Shape.build_sequence item) hvs ?_
  intro w path hw hle
  cases hvs with
  | items hlength hvs =>
    cases hw with
    | @items _ ws _ hws =>
      cases hle with
      | items hle hpairs =>
        have hstart : item.HoldsWith Leaf.Holds item.start :=
          hitem.starts.start_holds Leaf.invariant_holds
        have hkept : ∀ i (hw : i < ws.length) (hv : i < vs.length) path,
            item.decode ws[i] (item.encode vs[i]) path = .done vs[i] := fun i hw hv path =>
          (h _ (List.getElem_mem hv)).1 _ path (hws _ (List.getElem_mem hw)) (hpairs i hw hv)
        -- Elements behind the old ones are decoded onto a start, which has no elements.
        have hnew : ∀ v ∈ vs, ∀ path, item.decode item.start (item.encode v) path = .done v :=
          fun v hv path => (h v hv).1 _ path hstart
            (hitem.start_unfilled.noLonger hstart (hvs v hv))
        have hrow : Outcome.each (itemStep item.start item.decode path) ([] ++ ws)
            ((vs.map item.encode).zipIdx ([] : List Value).length) = .done ([] ++ vs) :=
          each_itemStep_encode path hle (by simpa using hlength) hkept hnew
        show decodeSequence item.start item.decode (.items ws)
          (.sequence (vs.map item.encode)) path = _
        rw [decodeSequence_sequence, Outcome.map_eq_done_iff]
        exact ⟨vs, hrow, rfl⟩

theorem Shape.Reversible.givesBack_record {fields : Fields}
    (hshape : (Shape.record fields).Reversible) {vs : List Value}
    (hvs : (Shape.record fields).HoldsWith ok (.record vs))
    (h : List.Forall₂ (fun f v => f.shape.GivesBack v) fields.flatten vs) :
    (Shape.record fields).GivesBack (.record vs) := by
  refine hshape.givesBack_of_seeded (Shape.build_record fields) hvs ?_
  intro w path hw hle
  have hdistinct := hshape.distinct fields .refl
  cases hw with
  | @record _ ws hws =>
    cases hle with
    | record hpairs =>
      have hdecode : ∀ i (hf : i < fields.flatten.length) (hw : i < ws.length)
          (hv : i < vs.length) path, fields.flatten[i].shape.decode ws[i]
            (fields.flatten[i].shape.encode vs[i]) path = .done vs[i] :=
        fun i hf hw hv path => (h.get hf hv).1 _ path (hws.get hf hw) (hpairs i hw hv)
      have hrow : Outcome.each (recordStep fields.decoders path) ([] ++ ws)
          (List.zipWith Field.entry fields.flatten vs) = .done ([] ++ vs) :=
        each_recordStep_encode hdistinct path (List.nil_append _).symm rfl hws.length_eq
          h.length_eq hdecode
      rw [encode_record hdistinct h.length_eq, Shape.decode, decodeRecord_mapping,
        Outcome.map_eq_done_iff]
      exact ⟨vs, hrow, rfl⟩

/-- Decoding undoes encoding. -/
theorem Shape.Reversible.givesBack {shape : Shape} (hshape : shape.Reversible) {v : Value}
    (hv : shape.HoldsWith Leaf.HoldsTextual v) : shape.GivesBack v := by
  induction shape using Shape.induction generalizing v with
  | leaf kind =>
    cases hv with
    | scalar h => exact Leaf.givesBack h
  | option item ih =>
    have hitem : item.Reversible := hshape.ofWithin fun t h => .option h
    cases hv with
    | unset => exact ⟨fun w path _ _ => rfl, fun path => rfl⟩
    | set hcontent =>
      refine (ih hitem hcontent).set (isNull_encode hcontent ?_)
      rintro inner rfl
      exact hshape.flat inner .refl
  | sequence item ih =>
    have hitem : item.Reversible := hshape.ofWithin fun t h => .sequence h
    cases hv with
    | items hlength hvs =>
      exact hshape.givesBack_items (.items hlength hvs) fun v hv => ih hitem (hvs v hv)
  | record fields ih =>
    have hfield : ∀ f ∈ fields.flatten, f.shape.Reversible := fun f hf =>
      hshape.ofWithin fun t h => .record hf h
    cases hv with
    | record hvs =>
      refine hshape.givesBack_record (.record hvs) (List.forall₂_iff_get.2 ⟨hvs.length_eq, ?_⟩)
      exact fun i hf hv => ih _ (List.getElem_mem hf) (hfield _ (List.getElem_mem hf))
        (hvs.get hf hv)

end Schema

open Schema

/-! ### Resolved values -/

inductive Edit where
  | decode (d : Document) (path : String)
  | override (scope : Scope) (vs : List Variable)

namespace Edit

/-- The configuration that an edit leaves, whether or not it fails. -/
def apply (shape : Shape) (v : Value) : Edit → Value
  | decode d path => (shape.decode v d path).value
  | override scope vs => (Override.applyAll shape v (Override.ofVariables scope vs)).value

/-- The document and the variables are ones that a program can hold. -/
def InMemory : Edit → Prop
  | decode d _ => d.InMemory
  | override _ vs => ∀ v ∈ vs, v.content.length < 2 ^ 63

end Edit

theorem Document.InMemory.nested {d : Document} (h : d.InMemory) (keys : List String) :
    (Document.nested keys d).InMemory := by
  induction keys with
  | nil => exact h
  | cons key keys ih => exact .mapping (by simpa using ih)

theorem Override.inMemory_of_mem {scope : Scope} {vs : List Variable} {o : Override}
    (hvs : ∀ v ∈ vs, v.content.length < 2 ^ 63) (ho : o ∈ ofVariables scope vs) :
    o.document.InMemory := by
  obtain ⟨v, hv, hvariable⟩ := List.mem_filterMap.1 ho
  obtain ⟨segments, -, rfl⟩ := Option.map_eq_some_iff.1 hvariable
  exact Document.InMemory.nested (.string (hvs v hv)) _

/-- Edits leave a value of the type, whose leaves have what starts have and reading gives. -/
theorem Edit.foldl_holds {ok : Leaf → Scalar → Prop} (hok : Leaf.Invariant ok) {shape : Shape}
    (hs : shape.StartsWith ok) {v : Value} (hv : shape.HoldsWith ok v) {edits : List Edit}
    (hedits : ∀ e ∈ edits, e.InMemory) : shape.HoldsWith ok (edits.foldl (apply shape) v) := by
  have hdecode := (Shape.decode_holds hok hs).1
  induction edits generalizing v with
  | nil => exact hv
  | cons e edits ih =>
    have he : e.InMemory := hedits e (by simp)
    refine ih ?_ fun e he => hedits e (by simp [he])
    cases e with
    | decode d path => exact hdecode v d path (.inl he) hv
    | override scope vs =>
      refine Outcome.each_keeps hv ?_
      intro v o ho hv
      exact hdecode v o.document "" (.inl (Override.inMemory_of_mem he ho)) hv

/-- What edits make of a start whose leaves say everything is given back onto the start. -/
theorem Schema.Shape.Reversible.givesBack_edits {shape : Shape} (hshape : shape.Reversible)
    (hs : shape.StartsWith Leaf.HoldsTextual) {start : Value}
    (hstart : shape.HoldsWith Leaf.HoldsTextual start) {edits : List Edit}
    (hedits : ∀ e ∈ edits, e.InMemory) :
    let v := edits.foldl (Edit.apply shape) start
    shape.HoldsWith Leaf.HoldsTextual v ∧
      (start.Unfilled → ∀ path, shape.decode start (shape.encode v) path = .done v) := by
  intro v
  have hreached : shape.HoldsWith Leaf.HoldsTextual v :=
    Edit.foldl_holds Leaf.invariant_holdsTextual hs hstart hedits
  refine ⟨hreached, fun hunfilled path => ?_⟩
  have hholds : shape.Holds start := hstart.imp fun _ _ h => h.1
  exact (hshape.givesBack hreached).1 start path hholds (hunfilled.noLonger hholds hreached)

/-- Only a value whose leaves say everything is built from its own document. -/
theorem Schema.Shape.holdsTextual_of_build_encode {shape : Shape}
    (hs : shape.StartsWith Leaf.HoldsTextual) {v : Value} {path : String}
    (hmem : (shape.encode v).InMemory) (h : shape.build (shape.encode v) path = .ok v) :
    shape.HoldsWith Leaf.HoldsTextual v :=
  (Shape.decode_holds Leaf.invariant_holdsTextual hs).2 _ path v (.inl hmem) h

/-- Decoding undoes encoding, onto every value that is nowhere longer, if the written leaves say
everything. The leaves of what is resolved from such a start do; so a configuration that was
resolved from a start without elements is given back by its document. -/
theorem Schema.Shape.Reversible.decode_encode {shape : Shape} (hshape : shape.Reversible) :
    (∀ v, shape.HoldsWith Leaf.HoldsTextual v →
      (∀ w path, shape.Holds w → w.NoLonger v →
        shape.decode w (shape.encode v) path = .done v) ∧
      ∀ path, shape.build (shape.encode v) path = .ok v) ∧
    (shape.StartsWith Leaf.HoldsTextual →
      ∀ start, shape.HoldsWith Leaf.HoldsTextual start →
      ∀ edits : List Edit, (∀ e ∈ edits, e.InMemory) →
        shape.HoldsWith Leaf.HoldsTextual (edits.foldl (Edit.apply shape) start) ∧
        (start.Unfilled → ∀ path,
          shape.decode start (shape.encode (edits.foldl (Edit.apply shape) start)) path =
            .done (edits.foldl (Edit.apply shape) start))) := by
  refine ⟨fun v hv => hshape.givesBack hv, ?_⟩
  intro hs start hstart edits hedits
  exact hshape.givesBack_edits hs hstart hedits

/-- A value is given back onto a shorter one, and a start after an override and a failed
document. -/
theorem decode_encode_modules :
    let inner : Fields := .plain "Module-Name" (.leaf .string) (.scalar (.text "main")) <|
      .plain "paths" (.sequence (.leaf .path)) (.items []) .nil
    let outer : Fields := .inline "common"
      (.plain "interval" (.option (.leaf .duration)) .unset .nil) <|
      .plain "modules" (.sequence (.record inner)) (.items []) .nil
    let shape : Shape := .record outer
    let edits : List Edit := [
      .override ⟨"STRATUM", "serve"⟩ [⟨"STRATUM_SERVE_MODULES_1_PATHS", " /a ,/b"⟩],
      .decode (.mapping [(.string "Interval", .string "1h"), (.string "other", .null)]) ""]
    let v : Value := .record [.set (.scalar (.duration ⟨3600000000000, by decide⟩)),
      .items [.record [.scalar (.text "x"),
        .items [.scalar (.path "/a".toUTF8), .scalar (.path "/b".toUTF8)]]]]
    let w : Value := .record [.unset, .items [.record [.scalar (.text "y"),
      .items [.scalar (.path " /c".toUTF8)]]]]
    shape.Reversible ∧ shape.decode w (shape.encode v) "" = .done v ∧
      shape.decode shape.start (shape.encode (edits.foldl (Edit.apply shape) shape.start)) "" =
        .done (edits.foldl (Edit.apply shape) shape.start) := by
  intro inner outer shape edits v w
  have hwithin : ∀ fields, (Shape.record fields).Within shape →
      fields = outer ∨ fields = inner := by
    intro fields h
    simpa [shape, outer, inner, Fields.flatten] using h
  have hnone (item : Shape) : (Shape.sequence item).HoldsWith Leaf.HoldsTextual (.items []) :=
    .items (by decide) (by simp)
  have hstarts : shape.StartsWith Leaf.HoldsTextual := by
    intro fields h
    rcases hwithin fields h with rfl | rfl
    · simpa [outer, Fields.flatten, hnone] using .unset
    · simpa [inner, Fields.flatten, hnone] using .scalar ⟨trivial, trivial⟩
  have hshape : shape.Reversible := by
    refine ⟨?_, by simp [shape, outer, inner, Fields.flatten], ?_, ?_⟩
    · intro fields h
      rcases hwithin fields h with rfl | rfl <;> decide +kernel
    · exact fun fields h f hf => (hstarts fields h f hf).imp fun _ _ h => h.1
    · intro fields h
      rcases hwithin fields h with rfl | rfl
      · simpa [outer, Fields.flatten, Value.Unfilled.items] using .unset
      · simpa [inner, Fields.flatten, Value.Unfilled.items] using .scalar
  have hv : shape.HoldsWith Leaf.HoldsTextual v := by
    have hpath (s : String) (h : Text.IsTrimmed s) :
        (Shape.leaf .path).HoldsWith Leaf.HoldsTextual (.scalar (.path s.toUTF8)) :=
      .scalar ⟨trivial, s, h, rfl⟩
    refine .record (.cons (.set (.scalar ⟨trivial, trivial⟩)) (.cons (.items (by decide) ?_) .nil))
    rw [List.forall_mem_singleton]
    refine .record (.cons (.scalar ⟨trivial, trivial⟩) (.cons (.items (by decide) ?_) .nil))
    rw [List.forall_mem_cons, List.forall_mem_singleton]
    exact ⟨hpath "/a" (by decide), hpath "/b" (by decide)⟩
  have hw : shape.Holds w := by
    refine .record (.cons .unset (.cons (.items (by decide) ?_) .nil))
    rw [List.forall_mem_singleton]
    refine .record (.cons (.scalar trivial) (.cons (.items (by decide) ?_) .nil))
    rw [List.forall_mem_singleton]
    exact .scalar trivial
  have hmodules : Value.NoLonger
      (.record [.scalar (.text "y"), .items [.scalar (.path " /c".toUTF8)]])
      (.record [.scalar (.text "x"),
        .items [.scalar (.path "/a".toUTF8), .scalar (.path "/b".toUTF8)]]) := by
    refine .record ?_
    rintro (_ | _ | i) hi hj
    · exact .scalar
    · refine .items (by decide) ?_
      rintro (_ | i) hi hj
      · exact .scalar
      · exact absurd hi (by simp)
    · exact absurd hi (by simp)
  have hle : w.NoLonger v := by
    refine .record ?_
    rintro (_ | _ | i) hi hj
    · exact .ofUnset
    · refine .items le_rfl ?_
      rintro (_ | i) hi hj
      · exact hmodules
      · exact absurd hi (by simp)
    · exact absurd hi (by simp)
  have hedits : ∀ e ∈ edits, e.InMemory := by
    simp only [edits, List.forall_mem_cons]
    refine ⟨?_, .mapping ?_, by simp⟩
    · simp [Edit.InMemory]
      decide
    · simp only [List.forall_mem_cons]
      exact ⟨.string (by decide), .null, by simp⟩
  exact ⟨hshape, (hshape.decode_encode.1 v hv).1 w "" hw hle,
    (hshape.decode_encode.2 hstarts shape.start (hstarts.start_holds Leaf.invariant_holdsTextual)
      edits hedits).2 hshape.start_unfilled ""⟩

theorem Schema.Shape.reversible_leaf (kind : Leaf) : (Shape.leaf kind).Reversible := by
  constructor <;> simp [Shape.StartsWith]

/-- Flow information is lost, and so are the bytes of a path that are no text. -/
theorem decode_encode_lossy :
    let address (flow : UInt32) : Value :=
      .scalar (.socketAddress (.v6 ⟨#v[0, 0, 0, 0, 0, 0, 0, 1]⟩ flow 0 80))
    let path (bytes : ByteArray) : Value := .scalar (.path bytes)
    ((Shape.leaf .socketAddress).Reversible ∧ (Shape.leaf .socketAddress).Holds (address 5) ∧
      (Shape.leaf .socketAddress).decode (address 0)
        ((Shape.leaf .socketAddress).encode (address 5)) "" = .done (address 0) ∧
      address 0 ≠ address 5) ∧
    (Shape.leaf .path).Reversible ∧ (Shape.leaf .path).Holds (path ⟨#[0xFF]⟩) ∧
      Text.IsTrimmed (Text.decodeLossy ⟨#[0xFF]⟩) ∧
      (Shape.leaf .path).decode (path .empty) ((Shape.leaf .path).encode (path ⟨#[0xFF]⟩)) "" =
        .done (path "\ufffd".toUTF8) ∧
      path "\ufffd".toUTF8 ≠ path ⟨#[0xFF]⟩ := by
  intro address path
  have hlossy : Text.decodeLossy ⟨#[0xFF]⟩ = "\ufffd" := by
    rw [Text.decodeLossy, Text.toList_bytes]
    decide
  have hne {s t : Scalar} (h : s ≠ t) : Value.scalar s ≠ .scalar t := fun heq =>
    h (Value.scalar.inj heq)
  refine ⟨⟨Shape.reversible_leaf _, .scalar trivial, ?_, hne (by decide)⟩,
    Shape.reversible_leaf _, .scalar trivial, ?_, ?_, hne (by decide)⟩
  · exact decodeLeaf_encode (Leaf.read_encode_socketAddress _) _ _
  · rw [hlossy]
    decide
  · have hread := Leaf.read_encode_path ⟨#[0xFF]⟩
    rw [hlossy] at hread
    exact decodeLeaf_encode hread _ _

end LayeredConfig
