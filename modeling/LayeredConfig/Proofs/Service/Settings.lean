import LayeredConfig.Proofs.Resolution.Output
import LayeredConfig.Proofs.Schema.Leaf
import LayeredConfig.Proofs.Text.ByteOrder
import LayeredConfig.Service.Serve

namespace LayeredConfig

open Schema

/-! ### Resolution keeps the type -/

section

variable {ok : Leaf → Scalar → Prop} {shape : Shape} {start : Value}

theorem Override.applyAll_holds (hok : Leaf.Invariant ok) (hs : shape.StartsWith ok)
    (hflat : shape.Flat) (hstart : shape.HoldsWith ok start) (os : List Override) :
    shape.HoldsWith ok (applyAll shape start os).value :=
  Outcome.each_keeps hstart fun v o _ hv =>
    (Shape.decode_holds hok hs).1 v o.document "" (.inr hflat) hv

/-- Whatever is loaded, merging leaves a value of a type without sequences, also where it fails. -/
theorem merge_holds (hok : Leaf.Invariant ok) (hs : shape.StartsWith ok) (hflat : shape.Flat)
    (hstart : shape.HoldsWith ok start) (reach : Source.Reach) (source : Source)
    (os : List Override) : shape.HoldsWith ok (merge reach shape source os start).value := by
  unfold merge
  cases source.load reach with
  | error e => exact hstart
  | ok d =>
    have hmerged : shape.HoldsWith ok (shape.decode start d "").value :=
      (Shape.decode_holds hok hs).1 _ _ _ (.inr hflat) hstart
    dsimp only
    rw [Outcome.andThen]
    split
    · exact Override.applyAll_holds hok hs hflat hmerged os
    · exact hmerged

end

namespace Service.Settings

theorem ofValue?_toValue (s : Settings) : ofValue? s.toValue = some s := by
  obtain ⟨level, format, _ | path⟩ := s
  · rfl
  · rw [toValue, ofValue?, Text.decode?_toUTF8]
    rfl

theorem toValue_inj {s t : Settings} : s.toValue = t.toValue ↔ s = t := by
  constructor
  · intro h
    have hofValue := congrArg ofValue? h
    rw [ofValue?_toValue, ofValue?_toValue] at hofValue
    exact Option.some.inj hofValue
  · rintro rfl
    rfl

theorem exists_text {v : Value} (h : (Shape.leaf .string).HoldsWith Leaf.HoldsTextual v) :
    ∃ level, v = .scalar (.text level) := by
  obtain @⟨_, s, hs, -⟩ := h
  cases s with
  | text level => exact ⟨level, rfl⟩
  | _ => cases hs

theorem exists_logFormat {v : Value} (h : (Shape.leaf .logFormat).HoldsWith Leaf.HoldsTextual v) :
    ∃ format, v = .scalar (.logFormat format) := by
  obtain @⟨_, s, hs, -⟩ := h
  cases s with
  | logFormat format => exact ⟨format, rfl⟩
  | _ => cases hs

theorem exists_path {v : Value} (h : (Shape.leaf .path).HoldsWith Leaf.HoldsTextual v) :
    ∃ path : String, v = .scalar (.path path.toUTF8) := by
  obtain @⟨_, s, hs, htextual⟩ := h
  cases s with
  | path bytes =>
    obtain ⟨path, -, rfl⟩ := htextual
    exact ⟨path, rfl⟩
  | _ => cases hs

theorem exists_reporting {v : Value}
    (h : (Shape.record reportingFields).HoldsWith Leaf.HoldsTextual v) :
    ∃ level format, v = .record [.scalar (.text level), .scalar (.logFormat format)] := by
  cases h with
  | record h =>
    obtain ⟨⟩ | ⟨hlevel, ⟨⟩ | ⟨hformat, ⟨⟩⟩⟩ := h
    obtain ⟨level, rfl⟩ := exists_text hlevel
    obtain ⟨format, rfl⟩ := exists_logFormat hformat
    exact ⟨level, format, rfl⟩

theorem exists_daemon {v : Value}
    (h : (Shape.record daemonFields).HoldsWith Leaf.HoldsTextual v) :
    v = .record [.unset] ∨ ∃ path : String, v = .record [.set (.scalar (.path path.toUTF8))] := by
  cases h with
  | record h =>
    obtain ⟨⟩ | ⟨hpidFile, ⟨⟩⟩ := h
    cases hpidFile with
    | unset => exact .inl rfl
    | set hpath =>
      obtain ⟨path, rfl⟩ := exists_path hpath
      exact .inr ⟨path, rfl⟩

/-- Every value of the type whose path is text holds settings. -/
theorem exists_toValue {v : Value} (h : shape.HoldsWith Leaf.HoldsTextual v) :
    ∃ s : Settings, v = s.toValue := by
  cases h with
  | record h =>
    obtain ⟨⟩ | ⟨hreporting, ⟨⟩ | ⟨hdaemon, ⟨⟩⟩⟩ := h
    obtain ⟨level, format, rfl⟩ := exists_reporting hreporting
    obtain rfl | ⟨path, rfl⟩ := exists_daemon hdaemon
    · exact ⟨⟨level, format, none⟩, rfl⟩
    · exact ⟨⟨level, format, some path⟩, rfl⟩

theorem flat : shape.Flat := by
  intro item
  simp [shape, fields, reportingFields, daemonFields, Fields.flatten]

theorem starts : shape.StartsWith Leaf.HoldsTextual := by
  have hrecord {fields : Fields}
      (h : (Shape.record fields).HoldsWith Leaf.HoldsTextual (Shape.record fields).start) :
      ∀ f ∈ fields.flatten, f.shape.HoldsWith Leaf.HoldsTextual f.start := by
    cases h with
    | record h => rwa [List.forall₂_map_right_iff, List.forall₂_same] at h
  have hreporting : (Shape.record reportingFields).HoldsWith Leaf.HoldsTextual
      (Shape.record reportingFields).start :=
    .record (.cons (.scalar ⟨trivial, trivial⟩) (.cons (.scalar ⟨trivial, trivial⟩) .nil))
  have hdaemon : (Shape.record daemonFields).HoldsWith Leaf.HoldsTextual
      (Shape.record daemonFields).start :=
    .record (.cons .unset .nil)
  intro fields hfields
  have hrecords : fields = Settings.fields ∨ fields = reportingFields ∨ fields = daemonFields := by
    simpa [shape, Settings.fields, reportingFields, daemonFields, Fields.flatten] using hfields
  obtain rfl | rfl | rfl := hrecords
  · exact hrecord (.record (.cons hreporting (.cons hdaemon .nil)))
  · exact hrecord hreporting
  · exact hrecord hdaemon

/-- Resolution leaves settings, also where it fails. -/
theorem exists_toValue_resolve (request : Request) (reach : Source.Reach) (command : String)
    (environment : List RawVariable) (sink : Sink) :
    ∃ s : Settings,
      (request.resolve reach shape command environment default.toValue sink).value = s.toValue := by
  have hstart : shape.HoldsWith Leaf.HoldsTextual default.toValue :=
    start_shape ▸ starts.start_holds Leaf.invariant_holdsTextual
  refine exists_toValue ?_
  rw [Request.resolve, Request.value_resolveWith]
  exact merge_holds Leaf.invariant_holdsTextual starts flat hstart _ _ _

end Service.Settings

end LayeredConfig
