import LayeredConfig.Proofs.Environment.Listing
import LayeredConfig.Resolution.Basic
import Mathlib

namespace LayeredConfig

open Schema Text

/-- A variable of the scope whose document does not fit: those with smaller names are decoded onto
`value` one after the other, and decoding this one onto what they leave fails and leaves
`value'`. -/
structure Override.FirstMisfit (scope : Scope) (shape : Shape) (environment : List RawVariable)
    (value value' : Value) (e : Override.Error) (v : Variable) : Prop where
  listed : RawVariable.ofText v ∈ environment
  counts : (Override.segments? scope v.name).isSome
  named : e.name = v.name
  fails : ∃ smaller w, Variable.Ascending smaller ∧
    (∀ u, u ∈ smaller ↔ RawVariable.ofText u ∈ environment ∧
      (Override.segments? scope u.name).isSome ∧ bytesOf u.name < bytesOf v.name) ∧
    Override.applyVariables scope shape value smaller = .done w ∧
    Override.applyVariables scope shape w [v] = .failed value' e

theorem Override.firstMisfit_of_split {scope : Scope} {shape : Shape}
    {environment : List RawVariable} (hnames : (environment.map RawVariable.name).Nodup)
    {before after : List Variable} {v : Variable}
    (hsplit : Override.inScope scope environment = before ++ v :: after) {value w value' : Value}
    {e : Override.Error} (hbefore : Override.applyVariables scope shape value before = .done w)
    (hv : Override.applyVariables scope shape w [v] = .failed value' e) :
    Override.FirstMisfit scope shape environment value value' e v := by
  obtain ⟨hcounts, hname⟩ := Override.applyVariables_singleton_failed hv
  have hascending : Variable.Ascending (Override.inScope scope environment) :=
    Override.ascending_inScope hnames
  rw [hsplit, Variable.Ascending, List.pairwise_append, List.pairwise_cons] at hascending
  obtain ⟨hsmaller, ⟨hafter, -⟩, hcross⟩ := hascending
  have hmem : v ∈ Override.inScope scope environment := by simp [hsplit]
  refine ⟨(Override.mem_inScope.1 hmem).1, hcounts, hname, before, w, hsmaller, fun u => ?_,
    hbefore, hv⟩
  rw [← and_assoc, ← Override.mem_inScope, hsplit, List.mem_append, List.mem_cons]
  constructor
  · exact fun hu => ⟨.inl hu, hcross u hu v (by simp)⟩
  · rintro ⟨hu | rfl | hu, hlt⟩
    · exact hu
    · exact absurd hlt (List.lt_irrefl _)
    · exact absurd hlt (List.lt_asymm (hafter u hu))

/-! ### Merging -/

theorem merge_eq_failed_override {reach : Source.Reach} {shape : Shape} {source : Source}
    {os : List Override} {v v' : Value} {e : Override.Error}
    (h : merge reach shape source os v = .failed v' (.override e)) :
    ∃ d w, source.load reach = .ok d ∧ shape.decode v d "" = .done w ∧
      Override.applyAll shape w os = .failed v' e := by
  unfold merge at h
  cases hload : source.load reach with
  | error error => simp [hload, Outcome.eq_failed_iff] at h
  | ok d =>
    simp only [hload, Outcome.andThen] at h
    cases hdecode : (shape.decode v d "").error with
    | some error => simp [Outcome.mapError, hdecode, Outcome.eq_failed_iff] at h
    | none =>
      simp only [Outcome.mapError, hdecode, Option.map_none] at h
      refine ⟨d, (shape.decode v d "").value, rfl, Outcome.eq_done_iff.2 ⟨hdecode, rfl⟩, ?_⟩
      simpa [Outcome.eq_failed_iff] using h

namespace Request

variable {request : Request} {reach reach' : Source.Reach} {shape : Shape} {command : String}
  {environment environment' : List RawVariable} {value : Value} {sink : Sink}

/-- Resolution asks the reach for the source alone. The overrides matter as far as they change
what the document of the source leaves. -/
theorem resolve_congr (hload : (Source.ofText request.source).load reach' =
      (Source.ofText request.source).load reach)
    (hmerge : ∀ d w, (Source.ofText request.source).load reach = .ok d →
      shape.decode value d "" = .done w →
      Override.applyAll shape w (Override.ofVariables ⟨overrideProgram, command⟩
          (Variable.ofProcess environment')) =
        Override.applyAll shape w (Override.ofVariables ⟨overrideProgram, command⟩
          (Variable.ofProcess environment))) :
    request.resolve reach' shape command environment' value sink =
      request.resolve reach shape command environment value sink := by
  have hall : merge reach' shape (.ofText request.source) (Override.ofVariables
        ⟨overrideProgram, command⟩ (Variable.ofProcess environment')) value =
      merge reach shape (.ofText request.source) (Override.ofVariables
        ⟨overrideProgram, command⟩ (Variable.ofProcess environment)) value := by
    unfold merge
    rw [hload]
    cases hd : (Source.ofText request.source).load reach with
    | error e => rfl
    | ok d =>
      cases hdecode : (shape.decode value d "").error with
      | some e => simp [Outcome.andThen, Outcome.mapError, hdecode]
      | none =>
        have hdone := Outcome.eq_done_iff.2 ⟨hdecode, rfl⟩
        simp [Outcome.andThen, Outcome.mapError, hdecode, hmerge d _ hd hdone]
  simp only [resolve, resolveWith, hall]

/-- An error of an override comes from merging. -/
theorem merge_of_resolve_override {e : Override.Error}
    (h : (request.resolve reach shape command environment value sink).error =
      some (.override e)) :
    merge reach shape (.ofText request.source) (Override.ofVariables ⟨overrideProgram, command⟩
        (Variable.ofProcess environment)) value =
      .failed (request.resolve reach shape command environment value sink).value
        (.override e) := by
  unfold resolve resolveWith at h ⊢
  dsimp only at h ⊢
  generalize merge reach shape (.ofText request.source) (Override.ofVariables
    ⟨overrideProgram, command⟩ (Variable.ofProcess environment)) value = o at h ⊢
  obtain ⟨v, _ | error⟩ := o
  · -- Merging went well, so what was refused is the output.
    dsimp only at h
    split at h
    · split at h <;> cases h
    · cases h
  · cases h
    rfl

/-- Two environments that list the same variables of the scope are resolved alike. Where an override
fails, its variable is the first one that does not fit, in the order of the names, and no variable
with a greater name makes a difference. -/
theorem resolve_eq_of_sameInScope (hnames : (environment.map RawVariable.name).Nodup)
    (hnames' : (environment'.map RawVariable.name).Nodup)
    (hsame : Override.SameInScope ⟨overrideProgram, command⟩ environment environment')
    (hload : (Source.ofText request.source).load reach' =
      (Source.ofText request.source).load reach) :
    request.resolve reach' shape command environment' value sink =
        request.resolve reach shape command environment value sink ∧
      ∀ e, (request.resolve reach shape command environment value sink).error =
          some (.override e) →
        ∃ d w v, (Source.ofText request.source).load reach = .ok d ∧
          shape.decode value d "" = .done w ∧
          Override.FirstMisfit ⟨overrideProgram, command⟩ shape environment w
            (request.resolve reach shape command environment value sink).value e v ∧
          ∀ reach'' other, (other.map RawVariable.name).Nodup →
            Override.SameUpTo ⟨overrideProgram, command⟩ v.name environment other →
            (Source.ofText request.source).load reach'' =
              (Source.ofText request.source).load reach →
            request.resolve reach'' shape command other value sink =
              request.resolve reach shape command environment value sink := by
  constructor
  · refine resolve_congr hload fun _ w _ _ => ?_
    rw [← Override.applyVariables_inScope, ← Override.applyVariables_inScope,
      Override.inScope_eq_of_same hnames hnames' hsame]
  · intro e he
    obtain ⟨d, w, hd, hdecode, hall⟩ := merge_eq_failed_override (merge_of_resolve_override he)
    have hrow := hall
    rw [← Override.applyVariables_inScope, Override.applyVariables_eq_each,
      Outcome.each_eq_failed_iff] at hrow
    obtain ⟨before, v, after, w', hsplit, hbefore, hv⟩ := hrow
    refine ⟨d, w, v, hd, hdecode, Override.firstMisfit_of_split hnames hsplit
      (by rwa [Override.applyVariables_eq_each]) hv, ?_⟩
    intro reach'' other hother hupTo hload'
    obtain ⟨after', hsplit'⟩ := Override.exists_inScope_of_sameUpTo hnames hother hsplit hupTo
    refine resolve_congr hload' fun d' u hd' hu => ?_
    -- It is the same document, so the row of overrides starts from the same value.
    obtain rfl : d = d' := Except.ok.inj (hd.symm.trans hd')
    obtain rfl : w = u := Outcome.done_inj.1 (hdecode.symm.trans hu)
    rw [hall, ← Override.applyVariables_inScope, Override.applyVariables_eq_each,
      Outcome.each_eq_failed_iff]
    exact ⟨before, v, after', w', hsplit', hbefore, hv⟩

/-- Of four overrides the third does not fit, whatever else is listed and wherever. -/
theorem resolve_eq_of_sameInScope_misfit :
    let shape : Shape := .record (.plain "limit" (.leaf (.integer .u8)) (.scalar (.integer 1)) <|
      .plain "topic" (.leaf .string) (.scalar (.text "")) .nil)
    let request : Request := ⟨none, true⟩
    let reach : Source.Reach := ⟨fun _ => .error .notFound, fun _ => none, Source.Language.parse⟩
    let environment : List RawVariable := [.ofText ⟨"stratum_serve_topic", "never"⟩,
      .ofText ⟨"STRATUM_SERVE_LIMIT", "7"⟩, .ofText ⟨"PATH", "/bin"⟩,
      .ofText ⟨"Stratum_Serve_Limit", "300"⟩, .ofText ⟨"STRATUM_SERVE_TOPIC", "flows"⟩]
    let environment' : List RawVariable := [.ofText ⟨"STRATUM_SERVE_TOPIC", "flows"⟩,
      ⟨⟨#[0xFF]⟩, ⟨#[]⟩⟩, .ofText ⟨"Stratum_Serve_Limit", "300"⟩,
      .ofText ⟨"STRATUM_SERVE__LIMIT", "9"⟩, .ofText ⟨"STRATUM_SERVE_LIMIT", "7"⟩,
      .ofText ⟨"stratum_serve_topic", "never"⟩]
    let resolved := request.resolve reach shape "serve" environment shape.start .unbounded
    request.resolve reach shape "serve" environment' shape.start .unbounded = resolved ∧
      resolved.error = some (.override
        ⟨"Stratum_Serve_Limit", .coercion "limit" (.outOfRange 300 .u8)⟩) ∧
      resolved.value = .record [.scalar (.integer 7), .scalar (.text "flows")] ∧
      ∃ w v, Override.FirstMisfit ⟨overrideProgram, "serve"⟩ shape environment w resolved.value
        ⟨"Stratum_Serve_Limit", .coercion "limit" (.outOfRange 300 .u8)⟩ v := by
  intro shape request reach environment environment' resolved
  have hbytes : ∀ s : String, s.toByteArray ≠ ⟨#[0xFF]⟩ := by
    intro s h
    have hnone : decode? ⟨#[0xFF]⟩ = none := by decide
    rw [← h] at hnone
    exact absurd (hnone.symm.trans (decode?_toUTF8 s)) (by simp)
  have hnames : (environment.map RawVariable.name).Nodup := by
    simp [environment, RawVariable.ofText, String.toByteArray_inj]
  have hnames' : (environment'.map RawVariable.name).Nodup := by
    simp [environment', RawVariable.ofText, String.toByteArray_inj, hbytes, (hbytes _).symm]
  have hforeign : Override.segments? ⟨overrideProgram, "serve"⟩ "PATH" = none ∧
      Override.segments? ⟨overrideProgram, "serve"⟩ "STRATUM_SERVE__LIMIT" = none := by
    decide
  have hlisted : Override.inScope ⟨overrideProgram, "serve"⟩ environment = [
      ⟨"STRATUM_SERVE_LIMIT", "7"⟩, ⟨"STRATUM_SERVE_TOPIC", "flows"⟩,
      ⟨"Stratum_Serve_Limit", "300"⟩, ⟨"stratum_serve_topic", "never"⟩] := by
    refine (Override.ascending_inScope hnames).eq_of_mem_iff ?_ fun v => ?_
    · simp only [Variable.Ascending, bytesOf_lt_iff]
      decide
    · simp only [Override.mem_inScope, environment, List.mem_cons, RawVariable.ofText_inj,
        List.not_mem_nil, or_false]
      constructor
      · rintro ⟨rfl | rfl | rfl | rfl | rfl, hcounts⟩ <;> simp [hforeign] at hcounts ⊢
      · rintro (rfl | rfl | rfl | rfl) <;> exact ⟨by simp, by decide⟩
  have hsame : Override.SameInScope ⟨overrideProgram, "serve"⟩ environment environment' := by
    intro v hcounts
    have hraw : RawVariable.ofText v ≠ ⟨⟨#[0xFF]⟩, ⟨#[]⟩⟩ := fun h =>
      hbytes v.name (RawVariable.mk.inj h).1
    simp only [environment, environment', List.mem_cons, RawVariable.ofText_inj, hraw,
      List.not_mem_nil, or_false, false_or]
    constructor
    · rintro (rfl | rfl | rfl | rfl | rfl) <;> simp [hforeign] at hcounts ⊢
    · rintro (rfl | rfl | rfl | rfl | rfl) <;> simp [hforeign] at hcounts ⊢
  have hoverrides : Override.ofVariables ⟨overrideProgram, "serve"⟩ [
      ⟨"STRATUM_SERVE_LIMIT", "7"⟩, ⟨"STRATUM_SERVE_TOPIC", "flows"⟩,
      ⟨"Stratum_Serve_Limit", "300"⟩, ⟨"stratum_serve_topic", "never"⟩] = [
        ⟨"STRATUM_SERVE_LIMIT", .nested ["limit"] (.string "7")⟩,
        ⟨"STRATUM_SERVE_TOPIC", .nested ["topic"] (.string "flows")⟩,
        ⟨"Stratum_Serve_Limit", .nested ["limit"] (.string "300")⟩,
        ⟨"stratum_serve_topic", .nested ["topic"] (.string "never")⟩] := by
    cbv
  have hmerge : merge reach shape (.ofText request.source) (Override.ofVariables
      ⟨overrideProgram, "serve"⟩ (Variable.ofProcess environment)) shape.start =
        .failed (.record [.scalar (.integer 7), .scalar (.text "flows")])
          (.override ⟨"Stratum_Serve_Limit", .coercion "limit" (.outOfRange 300 .u8)⟩) := by
    rw [← Override.ofVariables_inScope, hlisted, hoverrides]
    cbv
  have hresolved : resolved = ⟨.record [.scalar (.integer 7), .scalar (.text "flows")],
      some (.override ⟨"Stratum_Serve_Limit", .coercion "limit" (.outOfRange 300 .u8)⟩),
      .unbounded⟩ := by
    simp only [resolved, resolve, resolveWith, hmerge, Outcome.failed]
  have hall := @resolve_eq_of_sameInScope request reach reach shape "serve" environment
    environment' shape.start .unbounded hnames hnames' hsame rfl
  have herror : resolved.error = some (.override
      ⟨"Stratum_Serve_Limit", .coercion "limit" (.outOfRange 300 .u8)⟩) := by rw [hresolved]
  obtain ⟨d, w, v, -, -, hmisfit, -⟩ := hall.2 _ herror
  exact ⟨hall.1, herror, by rw [hresolved], w, v, hmisfit⟩

end Request

end LayeredConfig
