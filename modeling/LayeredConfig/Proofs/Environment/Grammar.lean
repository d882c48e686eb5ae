import LayeredConfig.Environment.Override
import LayeredConfig.Proofs.Text.Split

namespace LayeredConfig

/-- The keys on the way to the only text in a document, from the outside in, and that text. -/
def Document.onlyText? : Document → Option (List String × String)
  | .string s => some ([], s)
  | .mapping [(.string key, d)] => d.onlyText?.map fun (keys, s) => (key :: keys, s)
  | _ => none

theorem Document.onlyText?_nested (keys : List String) (s : String) :
    (Document.nested keys (.string s)).onlyText? = some (keys, s) := by
  induction keys with
  | nil => rfl
  | cons key keys ih => simp [nested, onlyText?, ih]

namespace Override

open Text

/-- A segment holds something, but no underscore. -/
def IsSegment (s : String) : Prop := s ≠ "" ∧ '_' ∉ s.toList

instance (s : String) : Decidable (IsSegment s) := by unfold IsSegment; infer_instance

/-- The name joins the program and the command, in any ASCII case, and some segments. -/
def Spells (scope : Scope) (name : String) (segments : List String) : Prop :=
  ∃ a b, name = "_".intercalate (a :: b :: segments) ∧
    ('_' ∉ a.toList ∧ equalIgnoringCase a scope.program) ∧
    ('_' ∉ b.toList ∧ equalIgnoringCase b scope.command) ∧
    segments ≠ [] ∧ ∀ s ∈ segments, IsSegment s

def Counts (scope : Scope) (name : String) : Prop := ∃ segments, Spells scope name segments

variable {scope : Scope} {name content : String} {segments : List String} {v : Variable}
  {o : Override}

/-- The segments are read off the names that spell them, and off no other name. -/
theorem segments?_eq_some_iff_spells :
    segments? scope name = some segments ↔ Spells scope name segments := by
  constructor
  · intro h
    unfold segments? at h
    split at h
    · next a b s ss hsplit =>
      obtain ⟨⟨hprogram, hcommand, hfilled⟩, h⟩ := Option.ite_none_right_eq_some.1 h
      obtain rfl := Option.some.inj h
      obtain ⟨hname, -, hfree⟩ := splitAt_eq_iff.1 hsplit
      obtain ⟨ha, hb, hss⟩ : '_' ∉ a.toList ∧ '_' ∉ b.toList ∧ ∀ t ∈ s :: ss, '_' ∉ t.toList := by
        simpa only [List.forall_mem_cons] using hfree
      refine ⟨a, b, hname, ⟨ha, hprogram⟩, ⟨hb, hcommand⟩, by simp, fun t ht => ⟨?_, hss t ht⟩⟩
      simpa using List.all_eq_true.1 hfilled t ht
    · cases h
  · rintro ⟨a, b, hname, ⟨ha, hprogram⟩, ⟨hb, hcommand⟩, hne, hsegments⟩
    obtain ⟨s, ss, rfl⟩ := List.exists_cons_of_ne_nil hne
    -- Splitting gives back just the pieces that were joined, as none of them has an underscore.
    have hsplit : splitAt '_' name = a :: b :: s :: ss := by
      refine splitAt_eq_iff.2 ⟨hname, by simp, ?_⟩
      rw [List.forall_mem_cons, List.forall_mem_cons]
      exact ⟨ha, hb, fun t ht => (hsegments t ht).2⟩
    have hfilled : (s :: ss).all (!·.isEmpty) = true :=
      List.all_eq_true.2 fun t ht => by simpa using (hsegments t ht).1
    simp only [segments?, hsplit]
    exact if_pos ⟨hprogram, hcommand, hfilled⟩

theorem counts_iff : Counts scope name ↔ (segments? scope name).isSome = true := by
  simp only [Counts, ← segments?_eq_some_iff_spells, Option.isSome_iff_exists]

instance (scope : Scope) (name : String) : Decidable (Counts scope name) :=
  decidable_of_iff _ counts_iff.symm

theorem Spells.not_mem_scope (h : Spells scope name segments) :
    '_' ∉ scope.program.toList ∧ '_' ∉ scope.command.toList := by
  have hfree {s t : String} (hs : '_' ∉ s.toList) (heq : equalIgnoringCase s t) :
      '_' ∉ t.toList := by
    intro ht
    have hlower : asciiLower s = asciiLower t := by simpa [equalIgnoringCase] using heq
    have hmem : '_' ∈ (asciiLower s).toList := by
      rw [hlower, toList_asciiLower]
      exact List.mem_map.2 ⟨'_', ht, rfl⟩
    rw [toList_asciiLower] at hmem
    obtain ⟨c, hc, hunderscore⟩ := List.mem_map.1 hmem
    rw [toLower_eq_underscore_iff.1 hunderscore] at hc
    exact hs hc
  obtain ⟨a, b, -, ⟨ha, hprogram⟩, ⟨hb, hcommand⟩, -⟩ := h
  exact ⟨hfree ha hprogram, hfree hb hcommand⟩

/-- A scope and some segments joined as they are spell a name. -/
theorem spells_intercalate (hprogram : '_' ∉ scope.program.toList)
    (hcommand : '_' ∉ scope.command.toList) (hne : segments ≠ [])
    (hsegments : ∀ s ∈ segments, IsSegment s) :
    Spells scope ("_".intercalate (scope.program :: scope.command :: segments)) segments :=
  ⟨_, _, rfl, ⟨hprogram, by simp [equalIgnoringCase]⟩, ⟨hcommand, by simp [equalIgnoringCase]⟩,
    hne, hsegments⟩

/-- A variable whose name spells segments stands for its content below their lower case. -/
def StandsFor (scope : Scope) (v : Variable) (o : Override) : Prop :=
  o.name = v.name ∧ ∃ segments, Spells scope v.name segments ∧
    o.document = .nested (segments.map lowercase) (.string v.content)

theorem ofVariable?_eq_some_iff : ofVariable? scope v = some o ↔ StandsFor scope v o := by
  simp only [ofVariable?, Option.map_eq_some_iff, segments?_eq_some_iff_spells, StandsFor]
  constructor
  · rintro ⟨segments, hspells, rfl⟩
    exact ⟨rfl, segments, hspells, rfl⟩
  · rintro ⟨hname, segments, hspells, hdocument⟩
    obtain ⟨name, document⟩ := o
    exact ⟨segments, hspells, by rw [← hname, ← hdocument]⟩

theorem ofVariable?_eq_none_iff : ofVariable? scope v = none ↔ ¬Counts scope v.name := by
  rw [counts_iff, ofVariable?, Option.map_eq_none_iff, Option.not_isSome_iff_eq_none]

/-- The variables that count become overrides one by one, in their order. -/
theorem forall₂_ofVariables (scope : Scope) (vs : List Variable) :
    List.Forall₂ (StandsFor scope) (vs.filter (Counts scope ·.name)) (ofVariables scope vs) := by
  induction vs with
  | nil => exact .nil
  | cons v vs ih =>
    by_cases hv : Counts scope v.name
    · obtain ⟨o, ho⟩ := Option.ne_none_iff_exists'.1 (mt ofVariable?_eq_none_iff.1 (not_not.2 hv))
      rw [List.filter_cons_of_pos (by simpa using hv), ofVariables, List.filterMap_cons_some ho]
      exact .cons (ofVariable?_eq_some_iff.1 ho) ih
    · rw [List.filter_cons_of_neg (by simpa using hv), ofVariables,
        List.filterMap_cons_none (ofVariable?_eq_none_iff.2 hv)]
      exact ih

/-- The overrides are those of the names that count, in the order of the variables. A scope and some
segments joined give such a name, and its override gives back the segments in lower case and the
content. With an underscore in the program or in the command no name counts. -/
theorem ofVariables_grammar (scope : Scope) (vs : List Variable) :
    List.Forall₂ (StandsFor scope) (vs.filter (Counts scope ·.name)) (ofVariables scope vs) ∧
      ('_' ∉ scope.program.toList → '_' ∉ scope.command.toList →
        ∀ segments content, segments ≠ [] → (∀ s ∈ segments, IsSegment s) →
          let name := "_".intercalate (scope.program :: scope.command :: segments)
          ∃ o, ofVariables scope [⟨name, content⟩] = [o] ∧ o.name = name ∧
            o.document.onlyText? = some (segments.map lowercase, content)) ∧
      ('_' ∈ scope.program.toList ∨ '_' ∈ scope.command.toList → ofVariables scope vs = []) := by
  refine ⟨forall₂_ofVariables scope vs, ?_, fun hscope => ?_⟩
  · intro hprogram hcommand segments content hne hsegments name
    have hspells : Spells scope name segments :=
      spells_intercalate hprogram hcommand hne hsegments
    have hv : ofVariable? scope ⟨name, content⟩ =
        some ⟨name, .nested (segments.map lowercase) (.string content)⟩ :=
      ofVariable?_eq_some_iff.2 ⟨rfl, segments, hspells, rfl⟩
    exact ⟨_, List.filterMap_cons_some hv, rfl, Document.onlyText?_nested _ _⟩
  · rw [ofVariables, List.filterMap_eq_nil_iff]
    rintro v -
    rw [ofVariable?_eq_none_iff]
    rintro ⟨segments, hspells⟩
    exact hscope.elim hspells.not_mem_scope.1 hspells.not_mem_scope.2

/-- Of six names two count, one of them twice. Empty segments, short names, other programs and
other commands do not. -/
theorem ofVariables_grammar_flows :
    let scope : Scope := ⟨"STRATUM", "serve"⟩
    let vs : List Variable := [⟨"Stratum_SERVE_Flows_0_NAME", "a_b"⟩, ⟨"STRATUM_SERVE_", "x"⟩,
      ⟨"STRATUM_SERVE", "x"⟩, ⟨"STRATUM_SERVE_FLOWS__NAME", "x"⟩, ⟨"STRATUM_CHECK_FLOWS", "x"⟩,
      ⟨"stratum_serve_top", ""⟩, ⟨"stratum_serve_top", ""⟩]
    (vs.filter (Counts scope ·.name)).map Variable.content = ["a_b", "", ""] ∧
      (ofVariables scope vs).map (·.document.onlyText?) =
        [some (["flows", "0", "name"], "a_b"), some (["top"], ""), some (["top"], "")] ∧
      List.Forall₂ (StandsFor scope) (vs.filter (Counts scope ·.name)) (ofVariables scope vs) := by
  intro scope vs
  exact ⟨by decide +kernel, by decide +kernel, (ofVariables_grammar scope vs).1⟩

end Override

end LayeredConfig
