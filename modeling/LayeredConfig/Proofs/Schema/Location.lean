import LayeredConfig.Proofs.Schema.Typing

namespace LayeredConfig.Schema

def Decoder.IgnoresPath (decode : Decoder) : Prop :=
  ∀ v d path other v', decode v d path = .done v' → decode v d other = .done v'

def Builder.IgnoresPath (build : Builder) : Prop :=
  ∀ d path other v, build d path = .ok v → build d other = .ok v

variable {start : Value} {decode : Decoder} {build : Builder}

theorem Decoder.IgnoresPath.seeded (h : decode.IgnoresPath) (start : Value) :
    Builder.IgnoresPath (seeded start decode) := by
  intro d path other v hv
  have hdone := Outcome.toExcept_eq_ok_iff.1 hv
  exact Outcome.toExcept_eq_ok_iff.2 (h start d path other v hdone)

theorem decodeLeaf_ignoresPath (kind : Leaf) : Decoder.IgnoresPath (decodeLeaf kind) := by
  intro v d path other v' h
  unfold decodeLeaf at h ⊢
  split at h
  · next hkeeps => simpa [hkeeps] using h
  · next hkeeps => cases hread : kind.read d <;> simp_all

theorem buildLeaf_ignoresPath (kind : Leaf) : Builder.IgnoresPath (buildLeaf kind) := by
  intro d path other v h
  unfold buildLeaf at h ⊢
  split at h
  · next hparsed => cases hread : kind.read d <;> simp_all
  · next hparsed =>
    rw [if_neg hparsed]
    exact (decodeLeaf_ignoresPath kind).seeded _ d path other v h

theorem decodeOption_ignoresPath (hd : decode.IgnoresPath) (hb : build.IgnoresPath) :
    Decoder.IgnoresPath (decodeOption decode build) := by
  intro v d path other v' h
  unfold decodeOption at h ⊢
  split at h
  · next hnull => simpa [hnull] using h
  · next hnull =>
    rw [if_neg hnull]
    split at h
    · next content =>
      obtain ⟨content', hcontent, rfl⟩ := Outcome.map_eq_done_iff.1 h
      exact Outcome.map_eq_done_iff.2 ⟨content', hd content d path other content' hcontent, rfl⟩
    · next v _ =>
      cases hbuild : build d path with
      | error e => simp [hbuild] at h
      | ok content => simpa [hbuild, hb d path other content hbuild] using h

theorem buildOption_ignoresPath (hb : build.IgnoresPath) :
    Builder.IgnoresPath (buildOption build) := by
  intro d path other v h
  unfold buildOption at h ⊢
  split at h
  · next hnull => simpa [hnull] using h
  · next hnull =>
    cases hbuild : build d path with
    | error e => simp [hbuild, Except.map] at h
    | ok content => simpa [hnull, hbuild, hb d path other content hbuild] using h

theorem decodeElement_path (hd : decode.IgnoresPath) {vs ws : List Value} {index : ℕ}
    {d : Document} {path : String} (other : String)
    (h : decodeElement start decode vs index d path = .done ws) :
    decodeElement start decode vs index d other = .done ws := by
  obtain ⟨grown, hgrow, w, hw, hset⟩ := decodeElement_eq_done_iff.1 h
  exact decodeElement_eq_done_iff.2 ⟨grown, hgrow, w, hd _ d path other w hw, hset⟩

theorem indexStep_path (hd : decode.IgnoresPath) {vs ws : List Value} {e : Document × Document}
    {path : String} (other : String) (h : indexStep start decode path vs e = .done ws) :
    indexStep start decode other vs e = .done ws := by
  obtain ⟨key, index, hkey, hindex, helement⟩ := indexStep_eq_done_iff.1 h
  exact indexStep_eq_done_iff.2 ⟨key, index, keyText_eq_ok_of_path other hkey,
    sequenceIndex_eq_ok_iff.2 (sequenceIndex_eq_ok_iff.1 hindex), decodeElement_path hd _ helement⟩

theorem decodeParts_path (hd : decode.IgnoresPath) {path : String} (other : String) {index : ℕ}
    {parts : List String} {vs : List Value}
    (h : decodeParts start decode path index parts = .ok vs) :
    decodeParts start decode other index parts = .ok vs := by
  induction parts generalizing index vs with
  | nil => exact h
  | cons part parts ih =>
    obtain ⟨u, us, hu, hrest, rfl⟩ := decodeParts_cons_eq_ok_iff.1 h
    exact decodeParts_cons_eq_ok_iff.2 ⟨u, us, hd _ _ _ _ u hu, ih hrest, rfl⟩

theorem decodeSequence_ignoresPath (hd : decode.IgnoresPath) (start : Value) :
    Decoder.IgnoresPath (decodeSequence start decode) := by
  intro v d path other v' h
  have hlone : ∀ d, loneElement start decode v d path = .done v' →
      loneElement start decode v d other = .done v' := by
    intro d h
    obtain ⟨w, hw, hv⟩ := loneElement_eq_done_iff.1 h
    exact loneElement_eq_done_iff.2 ⟨w, hd _ _ _ _ _ hw, hv⟩
  cases d with
  | null => exact h
  | sequence ds =>
    rw [decodeSequence_sequence, Outcome.map_eq_done_iff] at h ⊢
    obtain ⟨ws, hws, rfl⟩ := h
    exact ⟨ws, Outcome.each_eq_done_of_forall
      (fun e _ vs ws he => decodeElement_path hd _ he) hws, rfl⟩
  | mapping entries =>
    rw [decodeSequence_mapping, Outcome.map_eq_done_iff] at h ⊢
    obtain ⟨ws, hws, rfl⟩ := h
    exact ⟨ws, Outcome.each_eq_done_of_forall (fun e _ vs ws he => indexStep_path hd _ he) hws, rfl⟩
  | string s =>
    simp only [decodeSequence] at h ⊢
    cases hparts : decodeParts start decode path 0 (commaParts s) with
    | error e => simp [hparts] at h
    | ok vs => simpa [hparts, decodeParts_path hd other hparts] using h
  | bool => exact hlone _ h
  | number => exact hlone _ h
  | tagged => exact hlone _ h

theorem decodeRecord_ignoresPath {fields : Fields}
    (hfields : ∀ f ∈ fields.flatten, f.shape.decode.IgnoresPath) :
    Decoder.IgnoresPath (decodeRecord fields.decoders) := by
  intro v d path other v' h
  cases d with
  | null => exact h
  | mapping entries =>
    rw [decodeRecord_mapping, Outcome.map_eq_done_iff] at h ⊢
    obtain ⟨ws, hws, rfl⟩ := h
    refine ⟨ws, Outcome.each_eq_done_of_forall ?_ hws, rfl⟩
    intro e _ vs ws he
    obtain ⟨key, hkey, r, w, hw, hput⟩ := recordStep_eq_done_iff.1 he
    exact recordStep_eq_done_iff.2 ⟨key, keyText_eq_ok_of_path other hkey, r, w,
      hfields _ r.field_mem _ _ _ _ _ hw, hput⟩
  | _ => exact absurd h Outcome.failed_ne_done

theorem Shape.ignoresPath (shape : Shape) :
    shape.decode.IgnoresPath ∧ shape.build.IgnoresPath := by
  induction shape using Shape.induction with
  | leaf kind => exact ⟨decodeLeaf_ignoresPath kind, buildLeaf_ignoresPath kind⟩
  | option item ih => exact ⟨decodeOption_ignoresPath ih.1 ih.2, buildOption_ignoresPath ih.2⟩
  | sequence item ih =>
    have hd : (Shape.sequence item).decode.IgnoresPath := decodeSequence_ignoresPath ih.1 item.start
    exact ⟨hd, hd.seeded _⟩
  | record fields ih =>
    have hd : (Shape.record fields).decode.IgnoresPath :=
      decodeRecord_ignoresPath fun f hf => (ih f hf).1
    exact ⟨hd, hd.seeded _⟩

end LayeredConfig.Schema
