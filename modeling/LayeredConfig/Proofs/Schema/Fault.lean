import LayeredConfig.Proofs.Schema.Acceptance

namespace LayeredConfig

namespace Schema

/-- What is wrong with a document where it stands, or with one key in it that leads nowhere. -/
inductive Shape.Fault (path : String) :
    Shape → Value → Document → List String → DecodeError → Prop
  | leaf {kind : Leaf} {v : Value} {d : Document} {reason : Reason}
      (hkeeps : kind.keeps d = false) (hread : kind.read d = .error reason) :
      Fault path (.leaf kind) v d [] (.coercion path reason)
  | noMapping {fields : Fields} {v : Value} {d : Document} (hnull : d ≠ .null)
      (hmapping : ∀ entries, d ≠ .mapping entries) :
      Fault path (.record fields) v d [] (.coercion path (.expectedMapping d))
  | fieldWithoutText {fields : Fields} {v : Value} {before after : List (Document × Document)}
      {e : Document × Document} {us : List Value}
      (hbefore : Outcome.each (recordStep fields.decoders path) v.fields before = .done us)
      (hkey : keyText? e.1 = none) :
      Fault path (.record fields) v (.mapping (before ++ e :: after)) []
        (.coercion path (.unsupportedKey e.1))
  | noField {fields : Fields} {v : Value} {before after : List (Document × Document)}
      {e : Document × Document} {us : List Value} {key : String}
      (hbefore : Outcome.each (recordStep fields.decoders path) v.fields before = .done us)
      (hkey : keyText? e.1 = some key) (hnone : ∀ f ∈ fields.flatten, f.key ≠ normalizeKey key) :
      Fault path (.record fields) v (.mapping (before ++ e :: after)) [key]
        (.unknownKey (joinPath path key))
  | indexWithoutText {item : Shape} {v : Value} {before after : List (Document × Document)}
      {e : Document × Document} {us : List Value}
      (hbefore : Outcome.each (indexStep item.start item.decode path) v.elements before = .done us)
      (hkey : keyText? e.1 = none) :
      Fault path (.sequence item) v (.mapping (before ++ e :: after)) []
        (.coercion path (.unsupportedKey e.1))
  | noIndex {item : Shape} {v : Value} {before after : List (Document × Document)}
      {e : Document × Document} {us : List Value} {key : String} {error : DecodeError}
      (hbefore : Outcome.each (indexStep item.start item.decode path) v.elements before = .done us)
      (hkey : keyText? e.1 = some key)
      (hindex : sequenceIndex key (joinPath path key) = .error error) :
      Fault path (.sequence item) v (.mapping (before ++ e :: after)) [key] error
  | outOfReach {item : Shape} {v : Value} {before after : List (Document × Document)}
      {e : Document × Document} {us : List Value} {key : String} {i : ℕ}
      (hbefore : Outcome.each (indexStep item.start item.decode path) v.elements before = .done us)
      (hkey : keyText? e.1 = some key) (hi : index? key = some i)
      (hreach : ¬Reachable us.length i) :
      Fault path (.sequence item) v (.mapping (before ++ e :: after)) [key]
        (.coercion (joinPath path key) .indexOutOfRange)

/-- Everything before the item under a key was decoded, and the item itself is decoded next: onto
what its value is by now, or onto a new element. -/
inductive Shape.Enters (path : String) :
    Shape → Value → Document → String → Shape → Value → Document → Prop
  | field {fields : Fields} {v : Value} {before after : List (Document × Document)}
      {e : Document × Document} {us : List Value} {key : String} {i : ℕ} {f : Field} {u : Value}
      (hbefore : Outcome.each (recordStep fields.decoders path) v.fields before = .done us)
      (hkey : keyText? e.1 = some key) (hi : fields.select? key = some i)
      (hf : fields.flatten[i]? = some f) (hu : us[i]? = some u) :
      Enters path (.record fields) v (.mapping (before ++ e :: after)) key f.shape u e.2
  | indexed {item : Shape} {v : Value} {before after : List (Document × Document)}
      {e : Document × Document} {us : List Value} {key : String} {i : ℕ}
      (hbefore : Outcome.each (indexStep item.start item.decode path) v.elements before = .done us)
      (hkey : keyText? e.1 = some key) (hi : index? key = some i) (hreach : Reachable us.length i) :
      Enters path (.sequence item) v (.mapping (before ++ e :: after)) key item
        (us.getD i item.start) e.2
  | item {item : Shape} {v : Value} {before after : List Document} {d : Document} {us : List Value}
      (hbefore :
        Outcome.each (itemStep item.start item.decode path) v.elements before.zipIdx = .done us)
      (hreach : Reachable us.length before.length) :
      Enters path (.sequence item) v (.sequence (before ++ d :: after)) (toString before.length)
        item (us.getD before.length item.start) d
  | part {item : Shape} {v : Value} {s part : String} {before after : List String}
      {us : List Value} (hparts : commaParts s = before ++ part :: after)
      (hbefore : decodeParts item.start item.decode path 0 before = .ok us) :
      Enters path (.sequence item) v (.string s) (toString before.length) item item.start
        (.string part)
  | lone {item : Shape} {v : Value} {d : Document} (hd : d.standsAlone = true) :
      Enters path (.sequence item) v d "0" item item.start d

/-- Decoding a document onto a value comes to an end at some keys with an error. What is not null is
decoded onto the content of an option, or onto what a new one starts with. -/
inductive Shape.StopsAt : Shape → Value → Document → String → List String → DecodeError → Prop
  | fault {shape : Shape} {v : Value} {d : Document} {path : String} {keys : List String}
      {e : DecodeError} (h : Shape.Fault path shape v d keys e) : StopsAt shape v d path keys e
  | content {item : Shape} {v : Value} {d : Document} {path : String} {keys : List String}
      {e : DecodeError} (hnull : d.isNull = false)
      (h : StopsAt item (v.contentOr item.start) d path keys e) :
      StopsAt (.option item) v d path keys e
  | enter {shape t : Shape} {v u : Value} {d x : Document} {path key : String}
      {keys : List String} {e : DecodeError} (h : Shape.Enters path shape v d key t u x)
      (hstops : StopsAt t u x (joinPath path key) keys e) :
      StopsAt shape v d path (key :: keys) e

def DecodeError.IsAt (location : String) (e : DecodeError) : Prop :=
  e = .unknownKey location ∨ ∃ reason, e = .coercion location reason

variable {shape t item : Shape} {fields : Fields} {v u : Value} {d x : Document}
  {path key : String} {keys : List String} {e : DecodeError}

/-! ### What stops decoding makes it fail -/

theorem Fields.select?_eq_none_iff :
    fields.select? key = none ↔ ∀ f ∈ fields.flatten, f.key ≠ normalizeKey key := by
  simp [Fields.select?]

theorem Shape.Fault.error_decode (h : Shape.Fault path shape v d keys e) :
    (shape.decode v d path).error = some e := by
  cases h with
  | leaf hkeeps hread => simp [decode, decodeLeaf, hkeeps, hread]
  | noMapping hnull hmapping =>
    cases d with
    | null => exact absurd rfl hnull
    | mapping entries => exact absurd rfl (hmapping entries)
    | _ => rfl
  | fieldWithoutText hbefore hkey =>
    refine error_decode_record_iff.2 ⟨_, _, _, _, rfl, hbefore, ?_⟩
    rw [recordStep_of_no_text hkey, Outcome.error_failed]
  | noField hbefore hkey hnone =>
    refine error_decode_record_iff.2 ⟨_, _, _, _, rfl, hbefore, ?_⟩
    rw [recordStep_of_no_field hkey (Fields.select?_eq_none_iff.2 hnone), Outcome.error_failed]
  | indexWithoutText hbefore hkey =>
    refine error_decode_indexed_iff.2 ⟨_, _, _, _, rfl, hbefore, ?_⟩
    rw [indexStep_of_no_text hkey, Outcome.error_failed]
  | noIndex hbefore hkey hindex =>
    refine error_decode_indexed_iff.2 ⟨_, _, _, _, rfl, hbefore, ?_⟩
    rw [indexStep_of_error hkey hindex, Outcome.error_failed]
  | outOfReach hbefore hkey hi hreach =>
    refine error_decode_indexed_iff.2 ⟨_, _, _, _, rfl, hbefore, ?_⟩
    rw [indexStep_of_text hkey hi, decodeElement_of_not_reachable hreach, Outcome.error_failed]

/-- An error of the item is an error of the whole. -/
theorem Shape.Enters.error_decode (h : Shape.Enters path shape v d key t u x)
    (herror : (t.decode u x (joinPath path key)).error = some e) :
    (shape.decode v d path).error = some e := by
  cases h with
  | field hbefore hkey hi hf hu =>
    refine error_decode_record_iff.2 ⟨_, _, _, _, rfl, hbefore, ?_⟩
    rwa [recordStep_of_text hkey hi hf hu, Outcome.error_map]
  | indexed hbefore hkey hi hreach =>
    refine error_decode_indexed_iff.2 ⟨_, _, _, _, rfl, hbefore, ?_⟩
    rwa [indexStep_of_text hkey hi, decodeElement_of_reachable hreach, Outcome.error_map]
  | item hbefore hreach =>
    refine error_decode_items_iff.2 ⟨_, _, _, _, rfl, hbefore, ?_⟩
    rwa [itemStep, decodeElement_of_reachable hreach, Outcome.error_map]
  | part hparts hbefore =>
    exact error_decode_parts_iff.2 ⟨_, _, _, _, hparts, hbefore, herror⟩
  | lone hd => rwa [decode, decodeSequence_of_standsAlone hd, error_loneElement]

theorem Shape.StopsAt.error_decode (h : shape.StopsAt v d path keys e) :
    (shape.decode v d path).error = some e := by
  induction h with
  | fault h => exact h.error_decode
  | content hnull _ ih => rwa [error_decode_option hnull]
  | enter h _ ih => exact h.error_decode ih

/-! ### The location -/

theorem sequenceIndex_error_isAt (h : sequenceIndex key path = .error e) : e.IsAt path := by
  unfold sequenceIndex at h
  dsimp only at h
  split at h
  · split at h
    · cases h
    · split at h
      · cases h
        exact .inr ⟨_, rfl⟩
      · cases h
        exact .inl rfl
  · cases h
    exact .inl rfl

theorem Shape.Fault.isAt (h : Shape.Fault path shape v d keys e) :
    e.IsAt (keys.foldl joinPath path) := by
  cases h with
  | noField => exact .inl rfl
  | noIndex _ _ hindex => exact sequenceIndex_error_isAt hindex
  | _ => exact .inr ⟨_, rfl⟩

/-- The error is about the location that the keys make below the first one. -/
theorem Shape.StopsAt.isAt (h : shape.StopsAt v d path keys e) :
    e.IsAt (keys.foldl joinPath path) := by
  induction h with
  | fault h => exact h.isAt
  | content _ _ ih => exact ih
  | enter _ _ ih => exact ih

/-! ### Something stops decoding that fails -/

def Shape.Stops (shape : Shape) : Prop :=
  ∀ ⦃v d path e⦄, shape.Holds v → d.InMemory → (shape.decode v d path).error = some e →
    ∃ keys, shape.StopsAt v d path keys e

theorem Shape.stops_leaf (kind : Leaf) : (Shape.leaf kind).Stops := by
  intro v d path e _ _ h
  rw [decode, decodeLeaf] at h
  split at h
  · cases h
  · next hkeeps =>
    split at h
    · cases h
    · next reason hread =>
      obtain rfl : DecodeError.coercion path reason = e := by simpa using h
      exact ⟨[], .fault (.leaf (by simpa using hkeeps) hread)⟩

theorem Shape.stops_option (hstarts : item.StartsWith Leaf.Holds) (ih : item.Stops) :
    (Shape.option item).Stops := by
  intro v d path e hv hmem h
  by_cases hnull : d.isNull = true
  · simp [decode, decodeOption, hnull] at h
  · have hnull' : d.isNull = false := by simpa using hnull
    rw [error_decode_option hnull'] at h
    obtain ⟨keys, hkeys⟩ := ih (hv.contentOr (hstarts.start_holds Leaf.invariant_holds)) hmem h
    exact ⟨keys, .content hnull' hkeys⟩

theorem Shape.Stops.items (ih : item.Stops) (hstarts : item.StartsWith Leaf.Holds)
    (hv : (Shape.sequence item).Holds v) {ds : List Document}
    (hmem : (Document.sequence ds).InMemory)
    (h : ((Shape.sequence item).decode v (.sequence ds) path).error = some e) :
    ∃ keys, (Shape.sequence item).StopsAt v (.sequence ds) path keys e := by
  cases hmem with
  | sequence hlength hmems =>
    obtain ⟨before, d, after, us, rfl, hbefore, hd⟩ := error_decode_items_iff.1 h
    have hus : AllWithin64 item.Holds us := by
      refine Outcome.of_each_eq_done (allWithin64_of_sequence hv) (fun us e he hus => ?_) hbefore
      exact hus.decodeElement hstarts e.2 (hmems e.1 (by simp [List.fst_mem_of_mem_zipIdx he])) _
    -- The items before this one have left elements up to its position.
    have hreach : Reachable us.length before.length := by
      have hcount := length_le_of_each_itemStep hbefore (Nat.zero_le _)
      simp only [List.length_append, List.length_cons] at hlength
      exact .inr ⟨by omega, by omega⟩
    rw [itemStep, decodeElement_of_reachable hreach, Outcome.error_map] at hd
    obtain ⟨keys, hkeys⟩ := ih (hus.element hstarts _) (hmems d (by simp)) hd
    exact ⟨_, .enter (.item hbefore hreach) hkeys⟩

theorem Shape.Stops.indexed (ih : item.Stops) (hstarts : item.StartsWith Leaf.Holds)
    (hv : (Shape.sequence item).Holds v) {entries : List (Document × Document)}
    (hmem : (Document.mapping entries).InMemory)
    (h : ((Shape.sequence item).decode v (.mapping entries) path).error = some e) :
    ∃ keys, (Shape.sequence item).StopsAt v (.mapping entries) path keys e := by
  cases hmem with
  | mapping hmems =>
    obtain ⟨before, entry, after, us, rfl, hbefore, hentry⟩ := error_decode_indexed_iff.1 h
    have hus : AllWithin64 item.Holds us :=
      Outcome.of_each_eq_done (allWithin64_of_sequence hv)
        (fun us e he hus => hus.indexStep hstarts (hmems e (by simp [he])) path) hbefore
    cases hkey : keyText? entry.1 with
    | none =>
      rw [indexStep_of_no_text hkey, Outcome.error_failed, Option.some_inj] at hentry
      exact ⟨[], hentry ▸ .fault (.indexWithoutText hbefore hkey)⟩
    | some key =>
      cases hindex : sequenceIndex key (joinPath path key) with
      | error error =>
        rw [indexStep_of_error hkey hindex, Outcome.error_failed, Option.some_inj] at hentry
        exact ⟨[key], hentry ▸ .fault (.noIndex hbefore hkey hindex)⟩
      | ok i =>
        have hi : index? key = some i := (index?_eq_some_iff _).2 hindex
        rw [indexStep_of_text hkey hi] at hentry
        by_cases hreach : Reachable us.length i
        · rw [decodeElement_of_reachable hreach, Outcome.error_map] at hentry
          obtain ⟨keys, hkeys⟩ := ih (hus.element hstarts i) (hmems entry (by simp)) hentry
          exact ⟨_, .enter (.indexed hbefore hkey hi hreach) hkeys⟩
        · rw [decodeElement_of_not_reachable hreach, Outcome.error_failed, Option.some_inj]
            at hentry
          exact ⟨[key], hentry ▸ .fault (.outOfReach hbefore hkey hi hreach)⟩

theorem Shape.stops_sequence (hstarts : item.StartsWith Leaf.Holds) (ih : item.Stops) :
    (Shape.sequence item).Stops := by
  intro v d path e hv hmem h
  have hstart : item.Holds item.start := hstarts.start_holds Leaf.invariant_holds
  cases d with
  | null => cases h
  | sequence ds => exact ih.items hstarts hv hmem h
  | mapping entries => exact ih.indexed hstarts hv hmem h
  | string s =>
    cases hmem with
    | string hlength =>
      obtain ⟨before, part, after, us, hparts, hbefore, hpart⟩ := error_decode_parts_iff.1 h
      have hshort : part.length < 2 ^ 63 :=
        (length_le_of_mem_commaParts (by simp [hparts])).trans_lt hlength
      obtain ⟨keys, hkeys⟩ := ih hstart (.string hshort) hpart
      exact ⟨_, .enter (.part hparts hbefore) hkeys⟩
  | _ =>
    rw [decode, decodeSequence_of_standsAlone rfl, error_loneElement] at h
    obtain ⟨keys, hkeys⟩ := ih hstart hmem h
    exact ⟨_, .enter (.lone rfl) hkeys⟩

theorem Shape.stops_record (hstarts : (Shape.record fields).StartsWith Leaf.Holds)
    (ih : ∀ f ∈ fields.flatten, f.shape.Stops) : (Shape.record fields).Stops := by
  intro v d path e hv hmem h
  cases d with
  | null => cases h
  | mapping entries =>
    cases hmem with
    | mapping hmems =>
      obtain ⟨before, entry, after, us, rfl, hbefore, hentry⟩ := error_decode_record_iff.1 h
      have hus : fields.Hold us :=
        Outcome.of_each_eq_done (Fields.hold_of_record hv)
          (fun us e he hus => hus.recordStep hstarts (hmems e (by simp [he])) path) hbefore
      cases hkey : keyText? entry.1 with
      | none =>
        rw [recordStep_of_no_text hkey, Outcome.error_failed, Option.some_inj] at hentry
        exact ⟨[], hentry ▸ .fault (.fieldWithoutText hbefore hkey)⟩
      | some key =>
        cases hi : fields.select? key with
        | none =>
          rw [recordStep_of_no_field hkey hi, Outcome.error_failed, Option.some_inj] at hentry
          have hnone := Fields.select?_eq_none_iff.1 hi
          exact ⟨[key], hentry ▸ .fault (.noField hbefore hkey hnone)⟩
        | some i =>
          obtain ⟨f, hf⟩ := Fields.exists_of_select? hi
          obtain ⟨u, hu, hholds⟩ := hus.exists_value hf
          rw [recordStep_of_text hkey hi hf hu, Outcome.error_map] at hentry
          obtain ⟨keys, hkeys⟩ :=
            ih f (List.mem_of_getElem? hf) hholds (hmems entry (by simp)) hentry
          exact ⟨_, .enter (.field hbefore hkey hi hf hu) hkeys⟩
  | _ =>
    obtain rfl := Option.some.inj h
    exact ⟨[], .fault (.noMapping (by simp) (by simp))⟩

theorem Shape.stops (hstarts : shape.StartsWith Leaf.Holds) : shape.Stops := by
  induction shape using Shape.induction with
  | leaf kind => exact Shape.stops_leaf kind
  | option item ih => exact Shape.stops_option hstarts.of_option (ih hstarts.of_option)
  | sequence item ih => exact Shape.stops_sequence hstarts.of_sequence (ih hstarts.of_sequence)
  | record fields ih => exact Shape.stops_record hstarts fun f hf => ih f hf (hstarts.of_record hf)

/-- Decoding fails with an error just where it is stopped by it, and the error tells the location
that the keys make which lead there. -/
theorem Shape.error_decode_iff_stopsAt (hstarts : shape.StartsWith Leaf.Holds)
    (hv : shape.Holds v) (hmem : d.InMemory) (path : String) (e : DecodeError) :
    ((shape.decode v d path).error = some e ↔ ∃ keys, shape.StopsAt v d path keys e) ∧
      ∀ keys, shape.StopsAt v d path keys e →
        let location := keys.foldl joinPath path
        e = .unknownKey location ∧
            e.message = "unknown configuration key '" ++ shownPath location ++ "'" ∨
          ∃ reason, e = .coercion location reason ∧
            e.message = "invalid value for '" ++ shownPath location ++ "': " ++ reason.message := by
  refine ⟨⟨Shape.stops hstarts hv hmem, fun ⟨keys, h⟩ => h.error_decode⟩, fun keys h => ?_⟩
  obtain rfl | ⟨reason, rfl⟩ := h.isAt
  · exact .inl ⟨rfl, rfl⟩
  · exact .inr ⟨reason, rfl, rfl⟩

/-- The second entry of a mapping stops decoding, two keys deep and below an option. -/
theorem Shape.error_decode_iff_stopsAt_modules :
    let module : Shape := .record (.plain "name" (.leaf .string) (.scalar (.text "main")) <|
      .plain "gauge" (.option (.leaf (.integer .u8))) .unset .nil)
    let shape : Shape := .sequence module
    let v : Value := .items [.record [.scalar (.text "first"), .unset]]
    let first : Document × Document := (.number (.integer 0), .null)
    let second : Document × Document :=
      (.string " 01", .mapping [(.string "Gauge", .number (.integer 300))])
    let d : Document := .mapping [first, second]
    let e : DecodeError := .coercion " 01.Gauge" (.outOfRange 300 .u8)
    shape.StartsWith Leaf.Holds ∧ shape.Holds v ∧ d.InMemory ∧
      shape.StopsAt v d "" [" 01", "Gauge"] e ∧ (shape.decode v d "").error = some e := by
  intro module shape v first second d e
  have hstarts : shape.StartsWith Leaf.Holds := by
    intro fields h
    obtain rfl : fields = .plain "name" (.leaf .string) (.scalar (.text "main"))
        (.plain "gauge" (.option (.leaf (.integer .u8))) .unset .nil) := by
      simpa [shape, module, Fields.flatten] using h
    simp only [Fields.flatten, List.forall_mem_cons]
    exact ⟨.scalar trivial, .unset, by simp⟩
  have hv : shape.Holds v := by
    refine .items (by decide) ?_
    rw [List.forall_mem_singleton]
    exact .record (.cons (.scalar trivial) (.cons .unset .nil))
  have hmem : d.InMemory := by
    refine .mapping ?_
    simp only [List.forall_mem_cons]
    refine ⟨.null, .mapping ?_, by simp⟩
    rw [List.forall_mem_singleton]
    exact .number
  have hgauge : module.StopsAt (.record [.scalar (.text "main"), .unset]) second.2 " 01" ["Gauge"]
      e := by
    change module.StopsAt _ (.mapping ([] ++ (.string "Gauge", .number (.integer 300)) :: [])) _ _ _
    exact .enter (.field rfl rfl rfl rfl rfl) (.content rfl (.fault (.leaf rfl rfl)))
  have hstops : shape.StopsAt v d "" [" 01", "Gauge"] e := by
    change shape.StopsAt v (.mapping ([first] ++ second :: [])) _ _ _
    exact .enter (.indexed rfl rfl rfl (.inr ⟨by decide, by decide⟩)) hgauge
  exact ⟨hstarts, hv, hmem, hstops,
    (Shape.error_decode_iff_stopsAt hstarts hv hmem "" e).1.2 ⟨_, hstops⟩⟩

end Schema

end LayeredConfig
