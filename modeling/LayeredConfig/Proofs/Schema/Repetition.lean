import LayeredConfig.Proofs.Schema.Acceptance
import LayeredConfig.Proofs.Schema.Merge

namespace LayeredConfig.Schema

variable {shape item : Shape} {fields : Fields} {start v v' : Value} {decode : Decoder}
  {vs vs' : List Value} {d : Document} {path : String}

/-! ### Steps -/

theorem Reachable.mono {count count' i : ℕ} (h : Reachable count i) (hle : count ≤ count') :
    Reachable count' i := by
  unfold Reachable at h ⊢
  omega

/-- An element that was decoded onto is decoded onto again, as the item is. -/
theorem decodeElement_again {i : ℕ}
    (hagain : ∀ v v', decode v d path = .done v' → decode v' d path = .done v')
    (h : decodeElement start decode vs i d path = .done vs') :
    decodeElement start decode vs' i d path = .done vs' := by
  obtain ⟨hreach, w, hw, rfl⟩ := decodeElement_eq_done_iff_put.1 h
  have hreach' : Reachable (putElement start vs i w).length i := by
    rw [length_putElement]
    exact hreach.mono (le_max_left _ _)
  refine decodeElement_eq_done_iff_put.2 ⟨hreach', w, ?_, putElement_putElement⟩
  rw [getD_putElement, if_pos rfl]
  exact hagain _ w hw

/-- Nor does decoding onto another element in between change anything. -/
theorem decodeElement_again_of_ne {i j : ℕ} (hij : i ≠ j) {x : Document} {other : String}
    (h : decodeElement start decode vs i d path = .done vs)
    (hother : decodeElement start decode vs j x other = .done vs') :
    decodeElement start decode vs' i d path = .done vs' := by
  obtain ⟨hreach, w, hw, hput⟩ := decodeElement_eq_done_iff_put.1 h
  obtain ⟨-, u, -, rfl⟩ := decodeElement_eq_done_iff_put.1 hother
  have hreach' : Reachable (putElement start vs j u).length i := by
    rw [length_putElement]
    exact hreach.mono (le_max_left _ _)
  refine decodeElement_eq_done_iff_put.2 ⟨hreach', w, ?_, ?_⟩
  · rwa [getD_putElement, if_neg hij]
  · rw [putElement_comm hij.symm, hput]

theorem indexStep_again {e : Document × Document}
    (hagain : ∀ i, elementIndex? e.1 = some i → ∀ v v' path,
      decode v e.2 path = .done v' → decode v' e.2 path = .done v')
    (h : indexStep start decode path vs e = .done vs') :
    indexStep start decode path vs' e = .done vs' := by
  obtain ⟨i, hi, helement⟩ := indexStep_eq_done_iff_index?.1 h
  exact indexStep_eq_done_iff_index?.2
    ⟨i, hi, decodeElement_again (fun v v' => hagain i hi v v' _) helement⟩

theorem indexStep_again_of_ne {a b : Document × Document}
    (hab : ∀ i, elementIndex? a.1 = some i → elementIndex? b.1 ≠ some i)
    (ha : indexStep start decode path vs a = .done vs)
    (hb : indexStep start decode path vs b = .done vs') :
    indexStep start decode path vs' a = .done vs' := by
  obtain ⟨i, hi, helement⟩ := indexStep_eq_done_iff_index?.1 ha
  obtain ⟨j, hj, hother⟩ := indexStep_eq_done_iff_index?.1 hb
  have hij : i ≠ j := fun hij => hab i hi (hij ▸ hj)
  exact indexStep_eq_done_iff_index?.2 ⟨i, hi, decodeElement_again_of_ne hij helement hother⟩

theorem recordStep_again {e : Document × Document}
    (hagain : ∀ i f, fields.place? e.1 = some i → fields.flatten[i]? = some f → ∀ v v' path,
      f.shape.decode v e.2 path = .done v' → f.shape.decode v' e.2 path = .done v')
    (h : recordStep fields.decoders path vs e = .done vs') :
    recordStep fields.decoders path vs' e = .done vs' := by
  obtain ⟨i, f, u, u', hi, hf, hu, hu', rfl⟩ := recordStep_eq_done_iff_set.1 h
  obtain ⟨hlt, -⟩ := List.getElem?_eq_some_iff.1 hu
  exact recordStep_eq_done_iff_set.2 ⟨i, f, u', u', hi, hf, List.getElem?_set_self hlt,
    hagain i f hi hf _ _ _ hu', List.set_set _⟩

theorem recordStep_again_of_ne {a b : Document × Document}
    (hab : ∀ i, fields.place? a.1 = some i → fields.place? b.1 ≠ some i)
    (ha : recordStep fields.decoders path vs a = .done vs)
    (hb : recordStep fields.decoders path vs b = .done vs') :
    recordStep fields.decoders path vs' a = .done vs' := by
  obtain ⟨i, f, u, u', hi, hf, hu, hu', hset⟩ := recordStep_eq_done_iff_set.1 ha
  obtain ⟨j, g, w, w', hj, -, -, -, rfl⟩ := recordStep_eq_done_iff_set.1 hb
  have hne : j ≠ i := fun hji => hab i hi (hji ▸ hj)
  refine recordStep_eq_done_iff_set.2 ⟨i, f, u, u', hi, hf, ?_, hu', ?_⟩
  · rwa [List.getElem?_set_ne hne]
  · rw [List.set_comm _ _ hne, hset]

/-! ### Documents without ambiguous keys -/

theorem pairwise_position_ne (ds : List Document) :
    ds.zipIdx.Pairwise fun a b => a.2 ≠ b.2 := by
  have hpositions : (ds.zipIdx.map Prod.snd).Nodup := by
    rw [List.zipIdx_map_snd]
    exact List.nodup_range'
  exact List.pairwise_map.1 hpositions

/-- Where no two keys stand for the same, decoding again succeeds. -/
theorem Shape.decode_again_of_unambiguous (hd : shape.Unambiguous d)
    (h : shape.decode v d path = .done v') : shape.decode v' d path = .done v' := by
  induction shape using Shape.induction generalizing v v' d path with
  | leaf kind =>
    rw [decode, decodeLeaf] at h ⊢
    by_cases hkeeps : kind.keeps d = true
    · rw [if_pos hkeeps]
    · cases hread : kind.read d <;> simp_all
  | option item ih =>
    by_cases hnull : d.isNull = true
    · simp only [decode, decodeOption, if_pos hnull, Outcome.done_inj] at h ⊢
      exact h
    · have hnull' : d.isNull = false := by simpa using hnull
      obtain ⟨u, hu, rfl⟩ := (decode_option_eq_done_iff hnull').1 h
      have hitem : item.Unambiguous d := LeadsTo.unambiguous (.content .here) hd
      exact (decode_option_eq_done_iff hnull').2 ⟨u, ih hitem hu, rfl⟩
  | sequence item ih =>
    cases d with
    | null => rfl
    | sequence ds =>
      rw [decode, decodeSequence_sequence, Outcome.map_eq_done_iff] at h
      obtain ⟨ws, hws, rfl⟩ := h
      rw [decode, decodeSequence_sequence, Outcome.map_eq_done_iff]
      refine ⟨ws, Outcome.each_again (R := fun a b => a.2 ≠ b.2) ?_ ?_ ?_ hws, rfl⟩
      · exact pairwise_position_ne ds
      · intro e he us us' hstep
        have hitem : item.Unambiguous e.1 :=
          LeadsTo.unambiguous (.item (List.fst_mem_of_mem_zipIdx he) .here) hd
        exact decodeElement_again (fun _ _ => ih hitem) hstep
      · exact fun a b hab us us' => decodeElement_again_of_ne hab
    | mapping entries =>
      rw [decode, decodeSequence_mapping, Outcome.map_eq_done_iff] at h
      obtain ⟨ws, hws, rfl⟩ := h
      rw [decode, decodeSequence_mapping, Outcome.map_eq_done_iff]
      refine ⟨ws, Outcome.each_again (hd.elements item entries .here) ?_ ?_ hws, rfl⟩
      · intro e he us us' hstep
        refine indexStep_again (fun i hi w w' q hw => ?_) hstep
        exact ih (LeadsTo.unambiguous (.indexed he hi .here) hd) hw
      · exact fun a b hab us us' => indexStep_again_of_ne hab
    | string s =>
      -- The elements are built anew, so nothing depends on what was there.
      dsimp only [decode, decodeSequence] at h ⊢
      cases hparts : decodeParts item.start item.decode path 0 (commaParts s) with
      | ok ws => simpa [hparts] using h
      | error e => simp [hparts] at h
    | _ =>
      rw [decode, decodeSequence_of_standsAlone rfl, loneElement_eq_done_iff] at h ⊢
      exact h
  | record fields ih =>
    cases d with
    | null => rfl
    | mapping entries =>
      rw [decode, decodeRecord_mapping, Outcome.map_eq_done_iff] at h
      obtain ⟨ws, hws, rfl⟩ := h
      rw [decode, decodeRecord_mapping, Outcome.map_eq_done_iff]
      refine ⟨ws, Outcome.each_again (hd.fields fields entries .here) ?_ ?_ hws, rfl⟩
      · intro e he us us' hstep
        refine recordStep_again (fun i f hi hf w w' q hw => ?_) hstep
        exact ih f (List.mem_of_getElem? hf) (LeadsTo.unambiguous (.field he hi hf .here) hd) hw
      · exact fun a b hab us us' => recordStep_again_of_ne hab
    | _ => exact absurd h Outcome.failed_ne_done

/-! ### All documents -/

/-- Decoding the same document again changes nothing. It fails, if at all, at an index that is too
large, and never where no two keys stand for the same or no index is large. -/
theorem Shape.decode_again (hstarts : shape.StartsWith Leaf.Holds) (hv : shape.Holds v)
    (hmem : d.InMemory) (h : shape.decode v d path = .done v') :
    (shape.decode v' d path = .done v' ∨
      ∃ w q, shape.decode v' d path = .failed w (.coercion q .indexOutOfRange)) ∧
    (shape.Unambiguous d ∨ shape.IndexesWithin maxGrowth d →
      shape.decode v' d path = .done v') := by
  have hv' : shape.Holds v' := by
    have hkeeps := decode_keeps_holds hstarts v d path hmem hv
    rwa [h, Outcome.value_done] at hkeeps
  have hagain : shape.decode v' d path = .done v' ∨
      ∃ e, shape.decode v' d path = .failed (shape.decode v' d path).value e ∧
        shape.IndexTooLarge d e := by
    cases herror : (shape.decode v' d path).error with
    | none =>
      -- Both runs merge, and merging twice is merging once.
      have hdone := Outcome.eq_done_iff.2 ⟨herror, rfl⟩
      have hsame : (shape.decode v' d path).value = v' := by
        rw [eq_merge_of_decode hdone, eq_merge_of_decode h, (overwriting_merge shape).twice]
      rw [hsame] at hdone
      exact .inl hdone
    | some e =>
      have hfailed := Outcome.eq_failed_of_error herror
      exact .inr ⟨e, hfailed, failsOnlyFar hstarts (accepts_of_decode h) hv' hmem hfailed⟩
  refine ⟨?_, ?_⟩
  · rcases hagain with hdone | ⟨e, hfailed, ⟨q, rfl⟩, -⟩
    · exact .inl hdone
    · exact .inr ⟨_, q, hfailed⟩
  · rintro (hunambiguous | hwithin)
    · exact decode_again_of_unambiguous hunambiguous h
    · rcases hagain with hdone | ⟨e, -, -, hfar⟩
      · exact hdone
      · exact absurd hwithin hfar

/-- A field that is grown, replaced and then merged, under three spellings of its key. -/
theorem Shape.decode_again_modules :
    let shape : Shape := .record (.plain "name" (.leaf .string) (.scalar (.text "main")) <|
      .plain "gauges" (.sequence (.leaf (.integer .u8))) (.items []) .nil)
    let gauges (counts : List Int) : Value := .items (counts.map fun i => .scalar (.integer i))
    let v : Value := .record [.scalar (.text "main"), gauges []]
    let v' : Value := .record [.scalar (.text "main"), gauges [7, 9]]
    let d : Document := .mapping [
      (.string "gauges", .mapping [(.string "2", .number (.integer 5))]),
      (.string "Gauges", .string "7, 8"),
      (.string "GAUGES", .mapping [(.string "01", .number (.integer 9))])]
    shape.StartsWith Leaf.Holds ∧ shape.Holds v ∧ d.InMemory ∧ shape.IndexesWithin maxGrowth d ∧
      shape.decode v d "" = .done v' ∧ shape.decode v' d "" = .done v' := by
  intro shape gauges v v' d
  have hstarts : shape.StartsWith Leaf.Holds := by
    intro fields h
    obtain rfl : fields = .plain "name" (.leaf .string) (.scalar (.text "main"))
        (.plain "gauges" (.sequence (.leaf (.integer .u8))) (.items []) .nil) := by
      simpa [shape, Fields.flatten] using h
    simp only [Fields.flatten, List.forall_mem_cons]
    exact ⟨.scalar trivial, .items (by decide) (by simp), by simp⟩
  have hv : shape.Holds v :=
    .record (.cons (.scalar trivial) (.cons (.items (by decide) (by simp)) .nil))
  have hmem : d.InMemory := by
    refine .mapping ?_
    simp only [List.forall_mem_cons]
    refine ⟨.mapping ?_, .string (by decide), .mapping ?_, by simp⟩
    · simpa using .number
    · simpa using .number
  have hwithin : shape.IndexesWithin maxGrowth d := by
    refine Shape.indexesWithin_record ?_
    simp only [List.forall_mem_cons]
    refine ⟨fun i f hi hf => ?_, fun i f hi hf => ?_, fun i f hi hf => ?_, by simp⟩
    -- All three keys stand for the second field.
    all_goals
      obtain rfl : i = 1 := Option.some.inj (hi.symm.trans rfl)
      obtain rfl := Option.some.inj hf
    · refine Shape.indexesWithin_sequence ?_
      rw [List.forall_mem_singleton]
      rintro i hi
      obtain rfl : i = 2 := Option.some.inj (hi.symm.trans rfl)
      exact ⟨by decide, Shape.indexesWithin_leaf⟩
    · intro item entries hleads
      cases hleads with
      | part _ h => cases h
      | lone hd h => cases h
    · refine Shape.indexesWithin_sequence ?_
      rw [List.forall_mem_singleton]
      rintro i hi
      obtain rfl : i = 1 := Option.some.inj (hi.symm.trans rfl)
      exact ⟨by decide, Shape.indexesWithin_leaf⟩
  have hd : shape.decode v d "" = .done v' := by rfl
  exact ⟨hstarts, hv, hmem, hwithin, hd, (Shape.decode_again hstarts hv hmem hd).2 (.inr hwithin)⟩

/-- A field that grows and is emptied then: its index is in reach the first time alone. -/
example :
    let gauges : Shape := .sequence (.leaf (.integer .u8))
    let shape : Shape := .record (.plain "gauges" gauges (.items []) .nil)
    let v : Value := .record [.items [.scalar (.integer 4)]]
    let v' : Value := .record [.items []]
    let d : Document := .mapping [
      (.string "gauges", .mapping [(.string "1025", .number (.integer 5))]),
      (.string "Gauges", .string "")]
    shape.decode v d "" = .done v' ∧
      shape.decode v' d "" = .failed v' (.coercion "gauges.1025" .indexOutOfRange) :=
  ⟨rfl, rfl⟩

end LayeredConfig.Schema
