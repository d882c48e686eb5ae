import LayeredConfig.Proofs.Environment.Independent
import LayeredConfig.Proofs.Schema.Address

namespace LayeredConfig.Override

open Schema Text

variable {scope : Scope} {segments : List String} {name : String}

/-- The segments in the name of a variable are found again, in whatever ASCII case it is written. -/
theorem segments?_of_equalIgnoringCase (hprogram : '_' ∉ scope.program.toList)
    (hcommand : '_' ∉ scope.command.toList) (hne : segments ≠ [])
    (hsegments : ∀ s ∈ segments, '_' ∉ s.toList ∧ s ≠ "" ∧ asciiLower s = s)
    (hname : equalIgnoringCase name
      ("_".intercalate (scope.program :: scope.command :: segments))) :
    ∃ ss, segments? scope name = some ss ∧ ss.map asciiLower = segments := by
  have hcut : splitAt '_' ("_".intercalate (scope.program :: scope.command :: segments)) =
      scope.program :: scope.command :: segments := by
    refine splitAt_intercalate ?_ (by simp)
    simp only [List.forall_mem_cons]
    exact ⟨hprogram, hcommand, fun s hs => (hsegments s hs).1⟩
  have hlower : segments.map asciiLower = segments :=
    (List.map_congr_left fun s hs => (hsegments s hs).2.2).trans (List.map_id segments)
  have hsame : asciiLower name =
      asciiLower ("_".intercalate (scope.program :: scope.command :: segments)) := by
    simpa [equalIgnoringCase] using hname
  have hpieces : (splitAt '_' name).map asciiLower =
      asciiLower scope.program :: asciiLower scope.command :: segments := by
    rw [← splitAt_asciiLower, hsame, splitAt_asciiLower, hcut, List.map_cons, List.map_cons, hlower]
  obtain ⟨program, rest, hsplit, hp, hrest⟩ := List.map_eq_cons_iff.1 hpieces
  obtain ⟨command, ss, rfl, hc, hss⟩ := List.map_eq_cons_iff.1 hrest
  obtain ⟨s, ss, rfl⟩ : ∃ s ss', ss = s :: ss' := by
    refine List.exists_cons_of_ne_nil fun hnil => hne ?_
    rw [← hss, hnil, List.map_nil]
  have hfilled : (s :: ss).all (!·.isEmpty) = true := by
    rw [List.all_eq_true]
    intro t ht
    have hlowered := (hsegments (asciiLower t) (hss ▸ List.mem_map_of_mem ht)).2.1
    have hfull : t ≠ "" := by
      rintro rfl
      exact hlowered rfl
    simpa using hfull
  refine ⟨s :: ss, ?_, hss⟩
  simp only [segments?, hsplit]
  exact if_pos ⟨beq_iff_eq.2 hp, beq_iff_eq.2 hc, hfilled⟩

/-- A variable with the address of a leaf counts. It is applied where the type of the leaf reads its
content, which then stands at the leaf, while everything apart from the leaf stays as it was. -/
theorem applyVariables_address {fields : Fields} {kind : Leaf} {turns : List Turn} {v : Value}
    (hascii : (Shape.record fields).AsciiNames) (hnamed : (Shape.record fields).Named)
    (hstarts : (Shape.record fields).StartsWith Leaf.Holds) (hv : (Shape.record fields).Holds v)
    (hprogram : '_' ∉ scope.program.toList) (hcommand : '_' ∉ scope.command.toList)
    (haddress : (Shape.record fields).Address kind turns segments)
    (hreach : (Shape.record fields).InReach turns v)
    (hname : equalIgnoringCase name
      ("_".intercalate (scope.program :: scope.command :: segments))) (content : String) :
    (ofVariables scope [⟨name, content⟩]).length = 1 ∧
    (∀ w, applyVariables scope (.record fields) v [⟨name, content⟩] = .done w ↔
      ∃ c, kind.read (.string content) = .ok c ∧
        (Shape.record fields).put (.scalar c) turns v = w) ∧
    ∀ c, ((Shape.record fields).put (.scalar c) turns v).at? turns = some (.scalar c) ∧
      ∀ other u, ¬turns <+: other → ¬other <+: turns → v.at? other = some u →
        ((Shape.record fields).put (.scalar c) turns v).at? other = some u := by
  have hne : segments ≠ [] := by
    cases haddress
    simp
  obtain ⟨ss, hss, hlower⟩ := segments?_of_equalIgnoringCase hprogram hcommand hne
    (haddress.forall_segments hascii hnamed) hname
  refine ⟨?_, fun w => ?_, fun c => ⟨haddress.at?_put hstarts hv, fun other u hbelow habove => ?_⟩⟩
  · simp [ofVariables, ofVariable?, hss]
  · exact (applyVariables_singleton (v := ⟨name, content⟩) hss).trans
      (haddress.decode_eq_done_iff hascii hstarts hv hreach hlower)
  · exact haddress.at?_put_of_apart hstarts hv hbelow habove

/-- Behind an inline field an option is set, and a sequence grows by two elements. -/
theorem applyVariables_address_gauge :
    let module : Fields := .plain "name" (.leaf .string) (.scalar (.text "main")) <|
      .plain "gauge_level" (.option (.leaf (.integer .u8))) .unset .nil
    let base : Fields := .plain "modules" (.sequence (.record module)) (.items []) .nil
    let common : Fields := .plain "host" (.leaf .string) (.scalar (.text "")) .nil
    let fields : Fields := .inline "common" common <|
      .plain "base" (.option (.record base)) .unset .nil
    let scope : Scope := ⟨"STRATUM", "serve"⟩
    let turns : List Turn := [.field 1, .content, .field 0, .element 1, .field 1, .content]
    let name : String := "Stratum_SERVE_Base_modules_1_GaugeLevel"
    let v : Value := .record [.scalar (.text "here"), .unset]
    let w : Value := .record [.scalar (.text "here"), .set (.record [.items [
      .record [.scalar (.text "main"), .unset],
      .record [.scalar (.text "main"), .set (.scalar (.integer 7))]]])]
    (Shape.record fields).Holds v ∧
      (Shape.record fields).Address (.integer .u8) turns ["base", "modules", "1", "gaugelevel"] ∧
      (ofVariables scope [⟨name, " 7 "⟩]).length = 1 ∧
      applyVariables scope (.record fields) v [⟨name, " 7 "⟩] = .done w ∧
      ∀ w', applyVariables scope (.record fields) v [⟨name, "256"⟩] ≠ .done w' := by
  intro module base common fields scope turns name v w
  have hall : ∀ inner, (Shape.record inner).Within (.record fields) → ∀ f ∈ inner.flatten,
      IsAscii f.name ∧ f.key ≠ "" ∧ f.shape.Holds f.start := by
    intro inner h
    have hinner : inner = fields ∨ inner = base ∨ inner = module := by
      simpa [fields, common, base, module, Fields.flatten] using h
    rcases hinner with rfl | rfl | rfl
    · simp only [fields, common, Fields.flatten, List.cons_append, List.nil_append,
        List.forall_mem_cons]
      exact ⟨⟨by decide, by decide, .scalar trivial⟩, ⟨by decide, by decide, .unset⟩, by simp⟩
    · simp only [base, Fields.flatten, List.forall_mem_cons]
      exact ⟨⟨by decide, by decide, .items (by decide) (by simp)⟩, by simp⟩
    · simp only [module, Fields.flatten, List.forall_mem_cons]
      exact ⟨⟨by decide, by decide, .scalar trivial⟩, ⟨by decide, by decide, .unset⟩, by simp⟩
  have hv : (Shape.record fields).Holds v :=
    .record (.cons (.scalar trivial) (.cons .unset .nil))
  have hmodule : module.flatten[1]? =
      some ⟨"gauge_level", .option (.leaf (.integer .u8)), .unset⟩ := rfl
  have hbase : base.flatten[0]? = some ⟨"modules", .sequence (.record module), .items []⟩ := rfl
  have hfields : fields.flatten[1]? = some ⟨"base", .option (.record base), .unset⟩ := rfl
  have haddress : (Shape.record fields).Address (.integer .u8) turns
      ["base", "modules", "1", "gaugelevel"] := by
    have hgauge := Shape.Address.field hmodule (by decide) (.content .here)
    have hmodules := Shape.Address.field hbase (by decide) (.element (i := 1) (by decide) hgauge)
    have hkeys : [normalizeKey "base", normalizeKey "modules", toString 1,
        normalizeKey "gauge_level"] = ["base", "modules", "1", "gaugelevel"] := by decide
    have hbelow := Shape.Address.field hfields (by decide) (.content hmodules)
    exact hkeys.subst (motive := (Shape.record fields).Address (.integer .u8) turns) hbelow
  have hreach : (Shape.record fields).InReach turns v := by
    rintro f u hf hu
    cases hf
    cases hu
    rintro f u hf hu
    cases hf
    cases hu
    refine ⟨by decide, ?_⟩
    rintro f u hf hu
    cases hf
    exact trivial
  have hname : equalIgnoringCase name
      ("_".intercalate (scope.program :: scope.command ::
        ["base", "modules", "1", "gaugelevel"])) := by
    decide
  have hleaf := applyVariables_address (fun inner h f hf => (hall inner h f hf).1)
    (fun inner h f hf => (hall inner h f hf).2.1) (fun inner h f hf => (hall inner h f hf).2.2)
    hv (by decide) (by decide) haddress hreach hname
  refine ⟨hv, haddress, (hleaf " 7 ").1, ?_, fun w' hw' => ?_⟩
  · exact ((hleaf " 7 ").2.1 w).2 ⟨.integer 7, rfl, rfl⟩
  · obtain ⟨c, hc, -⟩ := ((hleaf "256").2.1 w').1 hw'
    cases hc

end LayeredConfig.Override
