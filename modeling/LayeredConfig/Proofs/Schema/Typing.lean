import LayeredConfig.Proofs.Schema.Step
import LayeredConfig.Proofs.Text.Blank
import Mathlib.Data.List.Forall2
import Mathlib.Data.List.GetD

namespace LayeredConfig

/-- No text and no sequence among the values of a document has 2^63 characters or items. -/
inductive Document.InMemory : Document → Prop
  | null : InMemory .null
  | bool {b : Bool} : InMemory (.bool b)
  | number {n : Number} : InMemory (.number n)
  | string {s : String} (hlength : s.length < 2 ^ 63) : InMemory (.string s)
  | sequence {ds : List Document} (hlength : ds.length < 2 ^ 63) (h : ∀ d ∈ ds, InMemory d) :
      InMemory (.sequence ds)
  | mapping {entries : List (Document × Document)} (h : ∀ e ∈ entries, InMemory e.2) :
      InMemory (.mapping entries)
  | tagged {tag : String} {content : Document} (h : InMemory content) :
      InMemory (.tagged tag content)

namespace Schema

/-! ### Types -/

/-- What holds of every leaf and is handed on by options, sequences and records holds of every
type. A record hands it on from its flattened fields. -/
@[elab_as_elim]
theorem Shape.induction {P : Shape → Prop} (leaf : ∀ kind, P (.leaf kind))
    (option : ∀ item, P item → P (.option item))
    (sequence : ∀ item, P item → P (.sequence item))
    (record : ∀ fields : Fields, (∀ f ∈ fields.flatten, P f.shape) → P (.record fields))
    (shape : Shape) : P shape := by
  -- Inline fields are flattened into the list of their parent, so fields are asked for that list.
  refine @Shape.rec P (fun fields => ∀ f ∈ fields.flatten, P f.shape) leaf option sequence record
    ?_ ?_ ?_ shape
  · intro f hf
    simp [Fields.flatten] at hf
  · intro name shape start rest hshape hrest f hf
    rcases List.mem_cons.1 hf with rfl | hf
    · exact hshape
    · exact hrest f hf
  · intro name inner rest hinner hrest f hf
    rcases List.mem_append.1 hf with hf | hf
    · exact hinner f hf
    · exact hrest f hf

inductive Shape.Within (t : Shape) : Shape → Prop
  | refl : Within t t
  | option {item : Shape} (h : Within t item) : Within t (.option item)
  | sequence {item : Shape} (h : Within t item) : Within t (.sequence item)
  | record {fields : Fields} {f : Field} (hf : f ∈ fields.flatten) (h : Within t f.shape) :
      Within t (.record fields)

namespace Shape

variable {t item : Shape} {fields : Fields}

@[simp] theorem within_leaf_iff {kind : Leaf} : t.Within (.leaf kind) ↔ t = .leaf kind :=
  ⟨fun h => by cases h; rfl, fun h => h ▸ .refl⟩

@[simp] theorem within_option_iff :
    t.Within (.option item) ↔ t = .option item ∨ t.Within item := by
  constructor
  · intro h
    cases h with
    | refl => exact .inl rfl
    | option h => exact .inr h
  · rintro (rfl | h)
    · exact .refl
    · exact .option h

@[simp] theorem within_sequence_iff :
    t.Within (.sequence item) ↔ t = .sequence item ∨ t.Within item := by
  constructor
  · intro h
    cases h with
    | refl => exact .inl rfl
    | sequence h => exact .inr h
  · rintro (rfl | h)
    · exact .refl
    · exact .sequence h

@[simp] theorem within_record_iff :
    t.Within (.record fields) ↔ t = .record fields ∨ ∃ f ∈ fields.flatten, t.Within f.shape := by
  constructor
  · intro h
    cases h with
    | refl => exact .inl rfl
    | record hf h => exact .inr ⟨_, hf, h⟩
  · rintro (rfl | ⟨f, hf, h⟩)
    · exact .refl
    · exact .record hf h

end Shape

/-! ### Values -/

def Leaf.Holds : Leaf → Scalar → Prop
  | string, .text _ => True
  | bool, .flag _ => True
  | integer kind, .integer i => kind.Holds i
  | float, .float _ => True
  | duration, .duration _ => True
  | path, .path _ => True
  | socketAddress, .socketAddress _ => True
  | ipAddress, .ipAddress _ => True
  | logFormat, .logFormat _ => True
  | _, _ => False

/-- The values of a type whose leaves have contents of a certain sort. A sequence has no more
elements than a word can count. -/
inductive Shape.HoldsWith (ok : Leaf → Scalar → Prop) : Shape → Value → Prop
  | scalar {kind : Leaf} {s : Scalar} (h : ok kind s) : HoldsWith ok (.leaf kind) (.scalar s)
  | unset {item : Shape} : HoldsWith ok (.option item) .unset
  | set {item : Shape} {v : Value} (h : HoldsWith ok item v) : HoldsWith ok (.option item) (.set v)
  | items {item : Shape} {vs : List Value} (hlength : vs.length < 2 ^ 64)
      (h : ∀ v ∈ vs, HoldsWith ok item v) : HoldsWith ok (.sequence item) (.items vs)
  | record {fields : Fields} {vs : List Value}
      (h : List.Forall₂ (fun f v => HoldsWith ok f.shape v) fields.flatten vs) :
      HoldsWith ok (.record fields) (.record vs)

abbrev Shape.Holds : Shape → Value → Prop := Shape.HoldsWith Leaf.Holds

theorem Shape.HoldsWith.imp {ok ok' : Leaf → Scalar → Prop}
    (himp : ∀ kind s, ok kind s → ok' kind s) {shape : Shape} {v : Value}
    (hv : shape.HoldsWith ok v) : shape.HoldsWith ok' v := by
  induction shape using Shape.induction generalizing v with
  | leaf kind =>
    cases hv with
    | scalar h => exact .scalar (himp kind _ h)
  | option item ih =>
    cases hv with
    | unset => exact .unset
    | set h => exact .set (ih h)
  | sequence item ih =>
    cases hv with
    | items hlength h => exact .items hlength fun v hv => ih (h v hv)
  | record fields ih =>
    cases hv with
    | @record _ vs h =>
      refine .record (List.forall₂_iff_get.2 ⟨h.length_eq, fun i hf hv => ?_⟩)
      exact ih _ (List.getElem_mem hf) (h.get hf hv)

def Shape.StartsWith (ok : Leaf → Scalar → Prop) (shape : Shape) : Prop :=
  ∀ fields, (Shape.record fields).Within shape → ∀ f ∈ fields.flatten, f.shape.HoldsWith ok f.start

/-- Leaves start with such contents, and reading gives no others. -/
structure Leaf.Invariant (ok : Leaf → Scalar → Prop) : Prop where
  start : ∀ kind, ok kind (Leaf.start kind)
  read : ∀ kind d s, Leaf.read kind d = .ok s → ok kind s

variable {ok : Leaf → Scalar → Prop}

theorem Shape.StartsWith.start_holds {shape : Shape} (hs : shape.StartsWith ok)
    (hok : Leaf.Invariant ok) : shape.HoldsWith ok shape.start := by
  cases shape with
  | leaf kind => exact .scalar (hok.start kind)
  | option item => exact .unset
  | sequence item => exact .items (by decide) (by simp)
  | record fields =>
    refine .record ?_
    rw [List.forall₂_map_right_iff, List.forall₂_same]
    exact hs fields .refl

theorem Shape.StartsWith.of_option {item : Shape} (hs : (Shape.option item).StartsWith ok) :
    item.StartsWith ok :=
  fun fields hf => hs fields (.option hf)

theorem Shape.StartsWith.of_sequence {item : Shape} (hs : (Shape.sequence item).StartsWith ok) :
    item.StartsWith ok :=
  fun fields hf => hs fields (.sequence hf)

theorem Shape.StartsWith.of_record {fields : Fields} (hs : (Shape.record fields).StartsWith ok)
    {f : Field} (hf : f ∈ fields.flatten) : f.shape.StartsWith ok :=
  fun inner hinner => hs inner (.record hf hinner)

/-! ### What decoding keeps -/

def Decoder.Keeps (I : Value → Prop) (decode : Decoder) : Prop :=
  ∀ v d path, d.InMemory → I v → I (decode v d path).value

def Builder.Gives (I : Value → Prop) (build : Builder) : Prop :=
  ∀ d path v, d.InMemory → build d path = .ok v → I v

variable {I : Value → Prop} {start : Value} {decode : Decoder}

/-- What is built is what decoding onto the start leaves. -/
theorem of_seeded {d : Document} {path : String} {v : Value}
    (hvalue : I (decode start d path).value) (h : seeded start decode d path = .ok v) : I v := by
  rw [Outcome.toExcept_eq_ok_iff.1 h] at hvalue
  exact hvalue

theorem Decoder.Keeps.seeded (hd : decode.Keeps I) (hstart : I start) :
    Builder.Gives I (seeded start decode) :=
  fun d path _ hmem h => of_seeded (hd start d path hmem hstart) h

theorem decodeLeaf_holds (hok : Leaf.Invariant ok) {kind : Leaf} {v : Value}
    (hv : (Shape.leaf kind).HoldsWith ok v) (d : Document) (path : String) :
    (Shape.leaf kind).HoldsWith ok (decodeLeaf kind v d path).value := by
  unfold decodeLeaf
  split
  · exact hv
  · cases hread : kind.read d with
    | ok s => exact .scalar (hok.read kind d s hread)
    | error reason => exact hv

theorem buildLeaf_holds (hok : Leaf.Invariant ok) {kind : Leaf} {d : Document} {path : String}
    {v : Value} (h : buildLeaf kind d path = .ok v) : (Shape.leaf kind).HoldsWith ok v := by
  unfold buildLeaf at h
  split at h
  · cases hread : kind.read d with
    | ok s =>
      rw [hread] at h
      cases h
      exact .scalar (hok.read kind d s hread)
    | error reason =>
      rw [hread] at h
      cases h
  · exact of_seeded (decodeLeaf_holds hok (.scalar (hok.start kind)) d path) h

theorem decodeOption_holds {item : Shape} {build : Builder} {d : Document} {path : String}
    (hd : ∀ v, item.HoldsWith ok v → item.HoldsWith ok (decode v d path).value)
    (hb : ∀ v, build d path = .ok v → item.HoldsWith ok v) {v : Value}
    (hv : (Shape.option item).HoldsWith ok v) :
    (Shape.option item).HoldsWith ok (decodeOption decode build v d path).value := by
  unfold decodeOption
  split
  · exact .unset
  · cases hv with
    | unset =>
      cases hbuild : build d path with
      | ok content => exact .set (hb content hbuild)
      | error e => exact .unset
    | @set _ content hcontent => exact .set (hd content hcontent)

theorem buildOption_holds {item : Shape} {build : Builder} {d : Document} {path : String}
    (hb : ∀ v, build d path = .ok v → item.HoldsWith ok v) {v : Value}
    (h : buildOption build d path = .ok v) : (Shape.option item).HoldsWith ok v := by
  unfold buildOption at h
  split at h
  · cases h
    exact .unset
  · cases hbuild : build d path with
    | ok content =>
      rw [hbuild] at h
      cases h
      exact .set (hb content hbuild)
    | error e =>
      rw [hbuild] at h
      cases h

def AllWithin64 (I : Value → Prop) (vs : List Value) : Prop := vs.length < 2 ^ 64 ∧ ∀ v ∈ vs, I v

theorem AllWithin64.grow? {vs grown : List Value} {index : ℕ} (hvs : AllWithin64 I vs)
    (hstart : I start) (h : grow? start vs index = some grown) : AllWithin64 I grown := by
  obtain ⟨hbound, rfl⟩ := grow?_eq_some_iff.1 h
  have hlength := hvs.1
  refine ⟨?_, ?_⟩
  · simp only [List.length_append, List.length_replicate]
    omega
  · intro v hv
    rcases List.mem_append.1 hv with hv | hv
    · exact hvs.2 v hv
    · rw [(List.mem_replicate.1 hv).2]
      exact hstart

theorem decodeElement_keeps (hd : decode.Keeps I) (hstart : I start) {vs : List Value}
    (hvs : AllWithin64 I vs) (index : ℕ) {d : Document} (hmem : d.InMemory) (path : String) :
    AllWithin64 I (decodeElement start decode vs index d path).value := by
  cases hgrow : grow? start vs index with
  | none => simpa [decodeElement, hgrow] using hvs
  | some grown =>
    rw [decodeElement_of_grow? hgrow]
    have hgrown := hvs.grow? hstart hgrow
    have hlt := lt_length_of_grow? hgrow
    refine ⟨?_, ?_⟩
    · simpa using hgrown.1
    · intro v hv
      rcases List.mem_or_eq_of_mem_set hv with hv | rfl
      · exact hgrown.2 v hv
      · refine hd _ d path hmem (hgrown.2 _ ?_)
        rw [List.getD_eq_getElem _ _ hlt]
        exact List.getElem_mem hlt

theorem decodeParts_gives (hd : decode.Keeps I) (hstart : I start) (path : String) {index : ℕ}
    {parts : List String} {vs : List Value} (hparts : ∀ part ∈ parts, part.length < 2 ^ 63)
    (h : decodeParts start decode path index parts = .ok vs) :
    vs.length = parts.length ∧ ∀ v ∈ vs, I v := by
  induction parts generalizing index vs with
  | nil =>
    cases h
    simp
  | cons part parts ih =>
    obtain ⟨u, us, hu, hrest, rfl⟩ := decodeParts_cons_eq_ok_iff.1 h
    have hus := ih (fun p hp => hparts p (by simp [hp])) hrest
    have hvalue := hd.seeded hstart _ _ _ (.string (hparts part (by simp))) (seeded_eq_ok_iff.2 hu)
    exact ⟨by simp [hus.1], List.forall_mem_cons.2 ⟨hvalue, hus.2⟩⟩

theorem length_commaParts_le (s : String) : (commaParts s).length ≤ s.length + 1 := by
  have h := List.length_filter_le (fun part : String => !part.isEmpty)
    ((Text.splitAt ',' s).map Text.trim)
  rw [List.length_map] at h
  exact h.trans (Text.length_splitAt_le ',' s)

theorem length_le_of_mem_commaParts {s part : String} (h : part ∈ commaParts s) :
    part.length ≤ s.length := by
  obtain ⟨piece, hpiece, rfl⟩ := List.mem_map.1 (List.mem_filter.1 h).1
  exact (Text.length_trim_le piece).trans (Text.length_le_of_mem_splitAt hpiece)

theorem loneElement_keeps (hd : decode.Keeps I) (hstart : I start) {d : Document}
    (hmem : d.InMemory) (path : String) (v : Value) :
    (loneElement start decode v d path).value = v ∨
      ∃ vs, (loneElement start decode v d path).value = .items vs ∧ AllWithin64 I vs := by
  unfold loneElement
  cases h : seeded start decode d (joinPath path "0") with
  | error e => exact .inl rfl
  | ok element =>
    have helement : I element := hd.seeded hstart d _ element hmem h
    exact .inr ⟨[element], rfl, by simp, by simpa using helement⟩

theorem decodeSequence_keeps (hd : decode.Keeps I) (hstart : I start) {v : Value} {d : Document}
    (hmem : d.InMemory) (path : String) (hv : AllWithin64 I v.elements) :
    (decodeSequence start decode v d path).value = v ∨
      ∃ vs, (decodeSequence start decode v d path).value = .items vs ∧ AllWithin64 I vs := by
  cases hmem with
  | null => exact .inl rfl
  | @sequence ds _ hds =>
    rw [decodeSequence_sequence]
    refine .inr ⟨_, rfl, Outcome.each_keeps hv ?_⟩
    intro vs e he hvs
    exact decodeElement_keeps hd hstart hvs e.2 (hds e.1 (List.fst_mem_of_mem_zipIdx he)) _
  | @mapping entries hentries =>
    rw [decodeSequence_mapping]
    refine .inr ⟨_, rfl, Outcome.each_keeps hv ?_⟩
    intro vs e he hvs
    rcases indexStep_cases start decode path vs e with ⟨error, h⟩ | ⟨key, index, -, -, h⟩
    · rw [h]
      exact hvs
    · rw [h]
      exact decodeElement_keeps hd hstart hvs index (hentries e he) _
  | @string s hlength =>
    simp only [decodeSequence]
    cases hparts : decodeParts start decode path 0 (commaParts s) with
    | error e => exact .inl rfl
    | ok vs =>
      -- There is one part more than there are commas, at most.
      have hcount := length_commaParts_le s
      have hvs := decodeParts_gives hd hstart path
        (fun part hpart => (length_le_of_mem_commaParts hpart).trans_lt hlength) hparts
      exact .inr ⟨vs, rfl, by omega, hvs.2⟩
  | bool => exact loneElement_keeps hd hstart .bool _ v
  | number => exact loneElement_keeps hd hstart .number _ v
  | tagged hcontent => exact loneElement_keeps hd hstart (.tagged hcontent) _ v

/-- Putting a value of its type into a field leaves a value of the record. -/
theorem Fields.Found.forall₂_put {R : Field → Value → Prop} {fields : Fields} {vs : List Value}
    {name : String} (r : fields.Found vs name) (h : List.Forall₂ R fields.flatten vs) :
    R r.field r.value ∧ ∀ w, R r.field w → List.Forall₂ R fields.flatten (r.put w) := by
  obtain ⟨before, field, after, us, v, ws, hflatten, rfl, hlength, -, -⟩ := r
  rw [hflatten] at h
  have hsplit : List.Forall₂ R before us ∧ List.Forall₂ R (field :: after) (v :: ws) := by
    have htake := List.forall₂_take before.length h
    have hdrop := List.forall₂_drop before.length h
    rw [List.take_left, ← hlength, List.take_left] at htake
    rw [List.drop_left, ← hlength, List.drop_left] at hdrop
    exact ⟨htake, hdrop⟩
  obtain ⟨hbefore, hrest⟩ := hsplit
  cases hrest with
  | cons hfield hafter =>
    refine ⟨hfield, fun w hw => ?_⟩
    show List.Forall₂ R fields.flatten (us ++ w :: ws)
    rw [hflatten]
    exact List.rel_append hbefore (.cons hw hafter)

theorem decodeRecord_holds {fields : Fields} {entries : List (Document × Document)}
    (hfields : ∀ f ∈ fields.flatten, ∀ e ∈ entries, ∀ v path,
      f.shape.HoldsWith ok v → f.shape.HoldsWith ok (f.shape.decode v e.2 path).value)
    {v : Value} (hv : (Shape.record fields).HoldsWith ok v) (path : String) :
    (Shape.record fields).HoldsWith ok
      (decodeRecord fields.decoders v (.mapping entries) path).value := by
  cases hv with
  | @record _ vs hvs =>
    rw [decodeRecord_mapping]
    refine .record (Outcome.each_keeps hvs ?_)
    intro vs e he hvs
    rcases recordStep_cases fields path vs e with ⟨error, h⟩ | ⟨key, -, r, h⟩
    · rw [h]
      exact hvs
    · obtain ⟨hvalue, hput⟩ := r.forall₂_put hvs
      rw [h]
      exact hput _ (hfields _ r.field_mem e he _ _ hvalue)

def Shape.Flat (shape : Shape) : Prop := ∀ item, ¬(Shape.sequence item).Within shape

/-- Decoding leaves a value of the type, and what is built is one. Only where sequences occur it
matters that the document is in memory, for else there is nothing to outgrow. -/
theorem Shape.decode_holds (hok : Leaf.Invariant ok) {shape : Shape} (hs : shape.StartsWith ok) :
    (∀ v d path, d.InMemory ∨ shape.Flat → shape.HoldsWith ok v →
      shape.HoldsWith ok (shape.decode v d path).value) ∧
    ∀ d path v, d.InMemory ∨ shape.Flat → shape.build d path = .ok v → shape.HoldsWith ok v := by
  induction shape using Shape.induction with
  | leaf kind =>
    exact ⟨fun _ d path _ hv => decodeLeaf_holds hok hv d path,
      fun _ _ _ _ h => buildLeaf_holds hok h⟩
  | option item ih =>
    obtain ⟨hd, hb⟩ := ih hs.of_option
    have hitem {d : Document} (h : d.InMemory ∨ (Shape.option item).Flat) :
        d.InMemory ∨ item.Flat := h.imp_right fun hflat t ht => hflat t (.option ht)
    exact ⟨fun _ d path h hv =>
        decodeOption_holds (fun v => hd v d path (hitem h)) (fun v => hb d path v (hitem h)) hv,
      fun d path _ h hbuild => buildOption_holds (fun v => hb d path v (hitem h)) hbuild⟩
  | sequence item ih =>
    have hitem := hs.of_sequence
    have hkeeps : item.decode.Keeps (item.HoldsWith ok) := fun v d path hmem =>
      (ih hitem).1 v d path (.inl hmem)
    have hdecode (v : Value) (d : Document) (path : String)
        (h : d.InMemory ∨ (Shape.sequence item).Flat) (hv : (Shape.sequence item).HoldsWith ok v) :
        (Shape.sequence item).HoldsWith ok ((Shape.sequence item).decode v d path).value := by
      have hmem : d.InMemory := h.resolve_right fun hflat => hflat item .refl
      cases hv with
      | @items _ vs hlength hvs =>
        rcases decodeSequence_keeps (v := .items vs) hkeeps (hitem.start_holds hok) hmem path
          ⟨hlength, hvs⟩ with h | ⟨ws, h, hws⟩
        · rw [Shape.decode, h]
          exact .items hlength hvs
        · rw [Shape.decode, h]
          exact .items hws.1 hws.2
    refine ⟨hdecode, fun d path v h hbuild => ?_⟩
    rw [Shape.build_sequence] at hbuild
    exact of_seeded (hdecode _ d path h (hs.start_holds hok)) hbuild
  | record fields ih =>
    have hdecode (v : Value) (d : Document) (path : String)
        (h : d.InMemory ∨ (Shape.record fields).Flat) (hv : (Shape.record fields).HoldsWith ok v) :
        (Shape.record fields).HoldsWith ok ((Shape.record fields).decode v d path).value := by
      cases d with
      | mapping entries =>
        refine decodeRecord_holds (fun f hf e he v path => ?_) hv path
        refine (ih f hf (hs.of_record hf)).1 v e.2 path (h.imp ?_ ?_)
        · intro hmem
          cases hmem with
          | mapping hentries => exact hentries e he
        · exact fun hflat t ht => hflat t (.record hf ht)
      | _ => exact hv
    refine ⟨hdecode, fun d path v h hbuild => ?_⟩
    rw [Shape.build_record] at hbuild
    exact of_seeded (hdecode _ d path h (hs.start_holds hok)) hbuild

end Schema

end LayeredConfig
