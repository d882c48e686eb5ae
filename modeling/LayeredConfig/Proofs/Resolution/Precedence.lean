import LayeredConfig.Proofs.Schema.Key
import LayeredConfig.Proofs.Schema.LeafAt
import LayeredConfig.Proofs.Text.ByteOrder
import LayeredConfig.Resolution.Basic
import Mathlib

namespace LayeredConfig

open Schema

/-! ### Overrides -/

namespace Override

/-- The contents of the variables that address keys, in the order of the variables. -/
def contentsAt (scope : Scope) (keys : List String) (vs : List Variable) : List String :=
  vs.filterMap fun v => (segments? scope v.name).bind fun segments =>
    if segments.map normalizeKey = keys then some v.content else none

def ofSegments (segments : List String) (content : String) : Document :=
  .nested (segments.map Text.lowercase) (.string content)

/-- What keys lead to in the document of a variable: its content, if they are the segments; a
mapping, if there are more segments; else nothing. -/
theorem itemsAt_ofSegments {keys : List String} (hkeys : ∀ key ∈ keys, Text.IsAscii key)
    (segments : List String) (content : String) :
    (segments.map normalizeKey = keys ∧
      (ofSegments segments content).itemsAt keys = [.string content]) ∨
    (segments.map normalizeKey ≠ keys ∧
      ((ofSegments segments content).itemsAt keys = [] ∨
        ∃ entries, (ofSegments segments content).itemsAt keys = [.mapping entries])) := by
  induction segments generalizing keys with
  | nil =>
    cases keys with
    | nil => exact .inl ⟨rfl, rfl⟩
    | cons key keys => exact .inr ⟨by simp, .inl rfl⟩
  | cons segment segments ih =>
    cases keys with
    | nil => exact .inr ⟨by simp, .inr ⟨_, rfl⟩⟩
    | cons key keys =>
      have hname : keyName? (.string (Text.lowercase segment)) =
          some (normalizeKey (Text.lowercase segment)) := rfl
      have hiff := normalizeKey_lowercase_eq_iff (s := segment) (hkeys key (by simp))
      have hitems : (ofSegments (segment :: segments) content).itemsAt (key :: keys) =
          if normalizeKey segment = key then (ofSegments segments content).itemsAt keys
          else [] := by
        simp [ofSegments, Document.nested, Document.itemsAt, hname, hiff]
      rw [hitems]
      by_cases hkey : normalizeKey segment = key
      · simpa [hkey] using ih fun k hk => hkeys k (by simp [hk])
      · exact .inr ⟨by simp [hkey], .inl (if_neg hkey)⟩

variable {kind : Leaf} {u w : Value} {keys : List String}

/-- A leaf takes of the overrides the contents of the variables that address it. -/
theorem itemsAt_ofVariables {scope : Scope} (hkeys : ∀ key ∈ keys, Text.IsAscii key)
    {vs : List Variable} (h : kind.take u ((ofVariables scope vs).flatMap fun o =>
      o.document.itemsAt keys) = .done w) :
    ((ofVariables scope vs).flatMap fun o => o.document.itemsAt keys) =
      (contentsAt scope keys vs).map Document.string := by
  induction vs generalizing u with
  | nil => rfl
  | cons v vs ih =>
    cases hsegments : segments? scope v.name with
    | none =>
      have hskip : ofVariables scope (v :: vs) = ofVariables scope vs := by
        simp [ofVariables, ofVariable?, hsegments]
      have hcontents : contentsAt scope keys (v :: vs) = contentsAt scope keys vs := by
        simp [contentsAt, hsegments]
      rw [hskip] at h ⊢
      rw [hcontents]
      exact ih h
    | some segments =>
      have hfirst : ofVariables scope (v :: vs) =
          ⟨v.name, ofSegments segments v.content⟩ :: ofVariables scope vs := by
        simp [ofVariables, ofVariable?, hsegments, ofSegments]
      rw [hfirst, List.flatMap_cons] at h ⊢
      obtain ⟨v', htake, hrest⟩ := Leaf.take_append.1 h
      rw [ih hrest]
      rcases itemsAt_ofSegments hkeys segments v.content with
        ⟨heq, hitems⟩ | ⟨hne, hitems | ⟨entries, hitems⟩⟩
      · simp [contentsAt, hsegments, heq, hitems]
      · simp [contentsAt, hsegments, hne, hitems]
      · -- A variable for something below the leaf would have failed.
        rw [hitems, Leaf.take, Outcome.each_singleton] at htake
        exact absurd htake decodeLeaf_mapping_ne_done

/-- Overrides do to a leaf what decoding the items that they address does. -/
theorem applyAll_leafAt? {shape : Shape} {v v' : Value} {os : List Override}
    (hleaf : shape.leafAt? v keys = some (kind, u)) (h : applyAll shape v os = .done v') :
    ∃ u', shape.leafAt? v' keys = some (kind, u') ∧
      kind.take u (os.flatMap fun o => o.document.itemsAt keys) = .done u' := by
  induction os generalizing v u with
  | nil =>
    obtain rfl : v = v' := Outcome.done_inj.1 h
    exact ⟨u, hleaf, rfl⟩
  | cons o os ih =>
    obtain ⟨v₁, hfirst, hrest⟩ := Outcome.each_cons_eq_done_iff.1 h
    obtain ⟨u₁, hu₁, htake⟩ :=
      shape.reachesLeaf keys _ _ _ _ _ _ hleaf (Outcome.mapError_eq_done_iff.1 hfirst)
    obtain ⟨u', hu', htakes⟩ := ih hu₁ hrest
    refine ⟨u', hu', ?_⟩
    rw [List.flatMap_cons, Leaf.take_append]
    exact ⟨u₁, htake, htakes⟩

end Override

/-! ### Resolution -/

theorem Source.Language.parse_yaml {text : String} {d : Document}
    (h : Yaml.read? text = some d) : parse .yaml text = .ok d := by
  rw [parse, h]

/-- The document of a file is what its text is read as. -/
theorem Source.load_file {reach : Reach} {name text : String}
    {entries : List (Document × Document)} (hyaml : Language.ofPath name = .yaml)
    (hfile : reach.readFile name = .ok text.toUTF8)
    (hparse : reach.parse .yaml text = .ok (.mapping entries)) :
    (Source.file name).load reach = .ok (.mapping entries) := by
  have htext : (Source.file name).text reach = .ok text := by
    rw [Source.text, fileText, hfile]
    dsimp only
    rw [Text.decode?_toUTF8]
  have hdocument : reach.document (Source.file name).language text = .ok (.mapping entries) := by
    rw [language, hyaml, Reach.document, hparse]
    rfl
  rw [load.eq_def]
  dsimp only
  rw [htext]
  dsimp only
  rw [hdocument]

theorem merge_eq_done {reach : Source.Reach} {shape : Shape} {source : Source}
    {os : List Override} {v v' : Value} {d : Document} (hload : source.load reach = .ok d)
    (h : merge reach shape source os v = .done v') :
    ∃ w, shape.decode v d "" = .done w ∧ Override.applyAll shape w os = .done v' := by
  rw [merge, hload, Outcome.andThen_eq_done_iff] at h
  obtain ⟨w, hw, happly⟩ := h
  exact ⟨w, Outcome.mapError_eq_done_iff.1 hw, Outcome.mapError_eq_done_iff.1 happly⟩

/-- A resolution without an error has merged everything, shown or not. -/
theorem Request.merge_of_resolveWith {request : Request} {reach : Source.Reach} {shape : Shape}
    {command : String} {vs : List Variable} {start : Value} {sink : Sink}
    (h : (request.resolveWith reach shape command vs start sink).error = none) :
    merge reach shape (.ofText request.source)
      (Override.ofVariables ⟨overrideProgram, command⟩ vs) start =
        .done (request.resolveWith reach shape command vs start sink).value := by
  unfold Request.resolveWith at h ⊢
  dsimp only at h ⊢
  generalize merge reach shape (.ofText request.source)
    (Override.ofVariables ⟨overrideProgram, command⟩ vs) start = o at h ⊢
  obtain ⟨v, _ | e⟩ := o
  · dsimp only
    split
    · split <;> rfl
    · rfl
  · cases h

/-- The last variable that addresses a leaf decides its value, else the last item of the document
that the leaf takes, else its start. -/
theorem Request.leafAt?_resolveWith {request : Request} {reach : Source.Reach} {shape : Shape}
    {command : String} {vs : List Variable} {start : Value} {sink : Sink} {d : Document}
    {keys : List String} {kind : Leaf} {u : Value}
    (hascii : ∀ fields, (Shape.record fields).Within shape →
      ∀ f ∈ fields.flatten, Text.IsAscii f.name)
    (hload : (Source.ofText request.source).load reach = .ok d)
    (hok : (request.resolveWith reach shape command vs start sink).error = none)
    (hleaf : shape.leafAt? start keys = some (kind, u)) :
    ∃ w, shape.leafAt? (request.resolveWith reach shape command vs start sink).value keys =
        some (kind, w) ∧
      match (Override.contentsAt ⟨overrideProgram, command⟩ keys vs).getLast? with
      | some content => ∀ v path, (Shape.leaf kind).decode v (.string content) path = .done w
      | none => match ((d.itemsAt keys).filter fun item => !kind.keeps item).getLast? with
        | some item => ∀ v path, (Shape.leaf kind).decode v item path = .done w
        | none => w = u := by
  have hkeys : ∀ key ∈ keys, Text.IsAscii key :=
    forall_key_of_leafAt? (fun fields h f hf => isAscii_normalizeKey (hascii fields h f hf)) hleaf
  obtain ⟨v₁, hdecode, happly⟩ := merge_eq_done hload (Request.merge_of_resolveWith hok)
  obtain ⟨u₁, hu₁, htake₁⟩ := shape.reachesLeaf keys _ _ _ _ _ _ hleaf hdecode
  obtain ⟨w, hw, htake₂⟩ := Override.applyAll_leafAt? hu₁ happly
  refine ⟨w, hw, ?_⟩
  rw [Override.itemsAt_ofVariables hkeys htake₂] at htake₂
  have hlast := Leaf.take_eq_done htake₂
  -- A string is never kept away from a leaf.
  have hstrings : ((Override.contentsAt ⟨overrideProgram, command⟩ keys vs).map
      Document.string).filter (fun item => !kind.keeps item) =
        (Override.contentsAt ⟨overrideProgram, command⟩ keys vs).map Document.string := by
    rw [List.filter_eq_self, List.forall_mem_map]
    intro content _
    cases kind <;> rfl
  rw [hstrings, List.getLast?_map] at hlast
  cases hcontents : (Override.contentsAt ⟨overrideProgram, command⟩ keys vs).getLast? with
  | some content =>
    rw [hcontents] at hlast
    exact hlast
  | none =>
    obtain rfl : w = u₁ := by simpa [hcontents] using hlast
    exact Leaf.take_eq_done htake₁

/-- Two variables for one leaf, two spellings of a key with a null for another, and a third that
nothing addresses. -/
theorem Request.leafAt?_resolveWith_module :
    let inner : Fields := .plain "L" (.leaf (.integer .u8)) (.scalar (.integer 1)) <|
      .plain "path" (.leaf .path) (.scalar (.path "/tmp".toUTF8)) .nil
    let outer : Fields := .inline "common"
        (.plain "log_level" (.leaf .string) (.scalar (.text "info")) .nil) <|
      .plain "m" (.record inner) (Shape.record inner).start .nil
    let shape : Shape := .record outer
    let request : Request := ⟨some "service.yaml", false⟩
    let reach : Source.Reach :=
      ⟨fun _ => .ok "m: {L: 5}\nM: {l: ~}".toUTF8, fun _ => none, Source.Language.parse⟩
    let vs : List Variable := [⟨"STRATUM_serve_LOGLEVEL", "debug"⟩, ⟨"PATH", "/bin"⟩,
      ⟨"STRATUM_SERVE_LOG-LEVEL", "error"⟩]
    let final := (request.resolveWith reach shape "serve" vs shape.start .unbounded).value
    shape.leafAt? final ["loglevel"] = some (.string, .scalar (.text "error")) ∧
      shape.leafAt? final ["m", "l"] = some (.integer .u8, .scalar (.integer 5)) ∧
      shape.leafAt? final ["m", "path"] = some (.path, .scalar (.path "/tmp".toUTF8)) := by
  intro inner outer shape request reach vs final
  have hascii : ∀ fields, (Shape.record fields).Within shape →
      ∀ f ∈ fields.flatten, Text.IsAscii f.name := by
    intro fields h
    have hfields : fields = outer ∨ fields = inner := by
      simpa [shape, outer, inner, Fields.flatten] using h
    rcases hfields with rfl | rfl <;> simp [outer, inner, Fields.flatten] <;> decide
  let d : Document := .mapping [
    (.string "m", .mapping [(.string "L", .number (.integer 5))]),
    (.string "M", .mapping [(.string "l", .null)])]
  have hread : Yaml.read? "m: {L: 5}\nM: {l: ~}" = some d := by cbv
  have hload : (Source.ofText request.source).load reach = .ok d := by
    have hsource : Source.ofText request.source = .file "service.yaml" := by decide
    rw [hsource]
    exact Source.load_file (by decide) rfl (Source.Language.parse_yaml hread)
  have hvariables : Override.ofVariables ⟨overrideProgram, "serve"⟩ vs =
      [⟨"STRATUM_serve_LOGLEVEL", .nested ["loglevel"] (.string "debug")⟩,
        ⟨"STRATUM_SERVE_LOG-LEVEL", .nested ["log-level"] (.string "error")⟩] := by
    cbv
  let merged : Value := .record [.scalar (.text "error"),
    .record [.scalar (.integer 5), .scalar (.path "/tmp".toUTF8)]]
  have hmerge : merge reach shape (.ofText request.source)
      (Override.ofVariables ⟨overrideProgram, "serve"⟩ vs) shape.start = .done merged := by
    rw [merge, hload, hvariables]
    rfl
  have hok : (request.resolveWith reach shape "serve" vs shape.start .unbounded).error = none := by
    unfold Request.resolveWith
    dsimp only
    rw [hmerge]
    rfl
  have hkeys : normalizeKey "log_level" = "loglevel" ∧ normalizeKey "m" = "m" ∧
      normalizeKey "L" = "l" ∧ normalizeKey "path" = "path" := by decide +kernel
  have hlevel : shape.leafAt? shape.start ["loglevel"] =
      some (.string, .scalar (.text "info")) := by
    simp [Shape.leafAt?, shape, outer, Shape.start, Fields.flatten, Value.fields, Field.key, hkeys]
  have hlimit : shape.leafAt? shape.start ["m", "l"] =
      some (.integer .u8, .scalar (.integer 1)) := by
    simp [Shape.leafAt?, shape, outer, inner, Shape.start, Fields.flatten, Value.fields, Field.key,
      hkeys]
  have hpath : shape.leafAt? shape.start ["m", "path"] =
      some (.path, .scalar (.path "/tmp".toUTF8)) := by
    simp [Shape.leafAt?, shape, outer, inner, Shape.start, Fields.flatten, Value.fields, Field.key,
      hkeys]
  obtain ⟨level, hfinalLevel, hlevel⟩ := leafAt?_resolveWith hascii hload hok hlevel
  obtain ⟨limit, hfinalLimit, hlimit⟩ := leafAt?_resolveWith hascii hload hok hlimit
  obtain ⟨path, hfinalPath, hpath⟩ := leafAt?_resolveWith hascii hload hok hpath
  have hcontents : Override.contentsAt ⟨overrideProgram, "serve"⟩ ["loglevel"] vs =
      ["debug", "error"] := by
    decide +kernel
  have hnone : Override.contentsAt ⟨overrideProgram, "serve"⟩ ["m", "l"] vs = [] := by
    decide +kernel
  have hnone' : Override.contentsAt ⟨overrideProgram, "serve"⟩ ["m", "path"] vs = [] := by
    decide +kernel
  rw [hcontents] at hlevel
  rw [hnone] at hlimit
  rw [hnone'] at hpath
  obtain rfl : Value.scalar (.text "error") = level := Outcome.done_inj.1 (hlevel .unset "")
  obtain rfl : Value.scalar (.integer 5) = limit := Outcome.done_inj.1 (hlimit .unset "")
  obtain rfl : path = Value.scalar (.path "/tmp".toUTF8) := hpath
  exact ⟨hfinalLevel, hfinalLimit, hfinalPath⟩

end LayeredConfig
