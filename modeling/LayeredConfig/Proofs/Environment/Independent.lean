import LayeredConfig.Proofs.Environment.Listing
import LayeredConfig.Proofs.Schema.Write
import Mathlib

namespace LayeredConfig.Override

open Schema

/-- Where two variables count, their segments part ways along the type. -/
def Independent (scope : Scope) (shape : Shape) (u v : Variable) : Prop :=
  ∀ ss ts, segments? scope u.name = some ss → segments? scope v.name = some ts →
    shape.PartWays ss ts

/-- A variable writes its content, or it does not count. -/
inductive Writes (scope : Scope) (shape : Shape) (v : Variable) : Value → Value → Prop
  | foreign {x : Value} (hs : segments? scope v.name = none) : Writes scope shape v x x
  | own {ss : List String} {x y : Value} (hs : segments? scope v.name = some ss)
      (h : shape.Writes v.content ss x y) : Writes scope shape v x y

def WriteAll (scope : Scope) (shape : Shape) : List Variable → Value → Value → Prop
  | [], x, y => x = y
  | v :: vs, x, y => ∃ w, Writes scope shape v x w ∧ WriteAll scope shape vs w y

variable {scope : Scope} {shape : Shape} {u v : Variable} {us vs : List Variable} {x y z : Value}

theorem independent_of_segments {ss ts : List String} (hs : segments? scope u.name = some ss)
    (ht : segments? scope v.name = some ts) (h : shape.PartWays ss ts) :
    Independent scope shape u v := by
  intro ss' ts' hs' ht'
  obtain rfl := Option.some.inj (hs.symm.trans hs')
  obtain rfl := Option.some.inj (ht.symm.trans ht')
  exact h

theorem Independent.symm (h : Independent scope shape u v) : Independent scope shape v u :=
  fun ss ts hs ht => (h ts ss ht hs).symm

theorem Writes.unique (hy : Writes scope shape v x y) (hz : Writes scope shape v x z) : y = z := by
  cases hy with
  | foreign hs =>
    cases hz with
    | foreign _ => rfl
    | own hs' _ => simp [hs] at hs'
  | own hs hy =>
    cases hz with
    | foreign hs' => simp [hs] at hs'
    | own hs' hz =>
      obtain rfl := Option.some.inj (hs.symm.trans hs')
      exact hy.unique hz

theorem Writes.swap (h : Independent scope shape u v) (hu : Writes scope shape u x y)
    (hv : Writes scope shape v y z) :
    ∃ y', Writes scope shape v x y' ∧ Writes scope shape u y' z := by
  cases hu with
  | foreign hs => exact ⟨z, hv, .foreign hs⟩
  | own hs hu =>
    cases hv with
    | foreign ht => exact ⟨x, .foreign ht, .own hs hu⟩
    | own ht hv =>
      obtain ⟨y', hy', hz⟩ := hu.swap (h _ _ hs ht) hv
      exact ⟨y', .own ht hy', .own hs hz⟩

theorem WriteAll.unique (hy : WriteAll scope shape vs x y) (hz : WriteAll scope shape vs x z) :
    y = z := by
  induction vs generalizing x with
  | nil => exact hy.symm.trans hz
  | cons v vs ih =>
    obtain ⟨a, ha, hy⟩ := hy
    obtain ⟨b, hb, hz⟩ := hz
    obtain rfl := ha.unique hb
    exact ih hy hz

/-- Independent variables write the same in every order. -/
theorem WriteAll.perm (hperm : us.Perm vs) (hind : us.Pairwise (Independent scope shape))
    (h : WriteAll scope shape us x y) : WriteAll scope shape vs x y := by
  induction hperm generalizing x with
  | nil => exact h
  | cons v _ ih =>
    obtain ⟨w, hw, hrest⟩ := h
    exact ⟨w, hw, ih (List.pairwise_cons.1 hind).2 hrest⟩
  | swap u v vs =>
    obtain ⟨a, ha, b, hb, hrest⟩ := h
    obtain ⟨a', ha', hb'⟩ := ha.swap ((List.pairwise_cons.1 hind).1 u (by simp)) hb
    exact ⟨a', ha', b, hb', hrest⟩
  | trans h₁ _ ih₁ ih₂ =>
    exact ih₂ (h₁.pairwise hind Independent.symm) (ih₁ hind h)

/-- What a variable that counts does is decoding its document. -/
theorem applyVariables_singleton {ss : List String} (hs : segments? scope v.name = some ss) :
    applyVariables scope shape x [v] = .done y ↔
      shape.decode x (.nested (ss.map Text.lowercase) (.string v.content)) "" = .done y := by
  have hone : ofVariables scope [v] =
      [⟨v.name, .nested (ss.map Text.lowercase) (.string v.content)⟩] := by
    simp [ofVariables, ofVariable?, hs]
  rw [applyVariables, hone, applyAll, Outcome.each_singleton, apply, Outcome.mapError_eq_done_iff]

theorem applyVariables_foreign (hs : segments? scope v.name = none) :
    applyVariables scope shape x [v] = .done x := by
  have hnone : ofVariables scope [v] = [] := by simp [ofVariables, ofVariable?, hs]
  rw [applyVariables, hnone, applyAll, Outcome.each_nil]

theorem applyVariables_cons : applyVariables scope shape x (v :: vs) = .done y ↔
    ∃ w, applyVariables scope shape x [v] = .done w ∧
      applyVariables scope shape w vs = .done y := by
  rw [applyVariables_eq_each, Outcome.each_cons_eq_done_iff]
  simp only [← applyVariables_eq_each]

theorem writeAll_of_applyVariables (hascii : shape.AsciiNames)
    (h : applyVariables scope shape x vs = .done y) : WriteAll scope shape vs x y := by
  induction vs generalizing x with
  | nil => exact Outcome.done_inj.1 h
  | cons v vs ih =>
    obtain ⟨w, hw, hrest⟩ := applyVariables_cons.1 h
    refine ⟨w, ?_, ih hrest⟩
    cases hs : segments? scope v.name with
    | none =>
      rw [applyVariables_foreign hs, Outcome.done_inj] at hw
      exact hw ▸ .foreign hs
    | some ss => exact .own hs (Shape.writes_of_decode hascii ((applyVariables_singleton hs).1 hw))

theorem applyVariables_of_writeAll (hascii : shape.AsciiNames)
    (hindexes : ∀ v ∈ vs, ∀ ss, segments? scope v.name = some ss →
      ∀ i, shape.ReadsIndex i ss → i ≤ maxGrowth)
    (h : WriteAll scope shape vs x y) : applyVariables scope shape x vs = .done y := by
  induction vs generalizing x with
  | nil => exact congrArg _ h
  | cons v vs ih =>
    obtain ⟨w, hw, hrest⟩ := h
    refine applyVariables_cons.2 ⟨w, ?_, ih (fun u hu => hindexes u (by simp [hu])) hrest⟩
    cases hw with
    | foreign hs => exact applyVariables_foreign hs
    | own hs hw =>
      exact (applyVariables_singleton hs).2
        (Shape.decode_of_writes hascii (hindexes v (by simp) _ hs) hw "")

/-- Independent variables in two orders: where both succeed they leave the same, and they are as
many. Where no index is beyond what a sequence may grow by, one order succeeds if the other does. -/
theorem applyVariables_perm (hascii : shape.AsciiNames)
    (hind : us.Pairwise (Independent scope shape)) (hperm : us.Perm vs) (x : Value) :
    (∀ y z, applyVariables scope shape x us = .done y →
      applyVariables scope shape x vs = .done z → y = z) ∧
    (ofVariables scope us).length = (ofVariables scope vs).length ∧
    ((∀ v ∈ us, ∀ ss, segments? scope v.name = some ss →
        ∀ i, shape.ReadsIndex i ss → i ≤ maxGrowth) →
      ∀ y, applyVariables scope shape x us = .done y ↔
        applyVariables scope shape x vs = .done y) := by
  refine ⟨fun y z hy hz => ?_, (hperm.filterMap _).length_eq, fun hindexes y => ?_⟩
  · have hswapped := (writeAll_of_applyVariables hascii hy).perm hperm hind
    exact hswapped.unique (writeAll_of_applyVariables hascii hz)
  · constructor
    · intro h
      exact applyVariables_of_writeAll hascii (fun v hv => hindexes v (hperm.mem_iff.2 hv))
        ((writeAll_of_applyVariables hascii h).perm hperm hind)
    · intro h
      exact applyVariables_of_writeAll hascii hindexes
        ((writeAll_of_applyVariables hascii h).perm hperm.symm
          (hperm.pairwise hind Independent.symm))

/-- Two variables make one option and two enter one element in two spellings, beyond the end. -/
theorem applyVariables_perm_modules :
    let module : Shape := .record (.plain "name" (.leaf .string) (.scalar (.text "main")) <|
      .plain "gauge" (.option (.leaf (.integer .i64))) .unset .nil)
    let shape : Shape := .record (.plain "base" (.option module) .unset <|
      .plain "modules" (.sequence module) (.items []) .nil)
    let scope : Scope := ⟨"STRATUM", "serve"⟩
    let us : List Variable := [⟨"STRATUM_SERVE_BASE_GAUGE", "1"⟩,
      ⟨"STRATUM_SERVE_MODULES_2_NAME", "flows"⟩, ⟨"STRATUM_SERVE_MODULES_02_GAUGE", "7"⟩,
      ⟨"STRATUM_SERVE_BASE_NAME", "first"⟩]
    let y : Value := .record [
      .set (.record [.scalar (.text "first"), .set (.scalar (.integer 1))]),
      .items [module.start, module.start,
        .record [.scalar (.text "flows"), .set (.scalar (.integer 7))]]]
    shape.AsciiNames ∧ us.Pairwise (Independent scope shape) ∧
      applyVariables scope shape shape.start us = .done y ∧
      applyVariables scope shape shape.start us.reverse = .done y := by
  intro module shape scope us y
  have hascii : shape.AsciiNames := by
    intro fields h
    have hfields : fields = .plain "base" (.option module) .unset
        (.plain "modules" (.sequence module) (.items []) .nil) ∨
        fields = .plain "name" (.leaf .string) (.scalar (.text "main"))
          (.plain "gauge" (.option (.leaf (.integer .i64))) .unset .nil) := by
      simpa [shape, module, Fields.flatten] using h
    rcases hfields with rfl | rfl <;> simp [Fields.flatten] <;> decide
  have hbaseGauge : segments? scope "STRATUM_SERVE_BASE_GAUGE" = some ["BASE", "GAUGE"] := by decide
  have hname : segments? scope "STRATUM_SERVE_MODULES_2_NAME" =
      some ["MODULES", "2", "NAME"] := by decide
  have hgauge : segments? scope "STRATUM_SERVE_MODULES_02_GAUGE" =
      some ["MODULES", "02", "GAUGE"] := by decide
  have hbaseName : segments? scope "STRATUM_SERVE_BASE_NAME" = some ["BASE", "NAME"] := by decide
  have hy : applyVariables scope shape shape.start us = .done y := by
    have hoverrides : ofVariables scope us = [
        ⟨"STRATUM_SERVE_BASE_GAUGE", .nested ["base", "gauge"] (.string "1")⟩,
        ⟨"STRATUM_SERVE_MODULES_2_NAME", .nested ["modules", "2", "name"] (.string "flows")⟩,
        ⟨"STRATUM_SERVE_MODULES_02_GAUGE", .nested ["modules", "02", "gauge"] (.string "7")⟩,
        ⟨"STRATUM_SERVE_BASE_NAME", .nested ["base", "name"] (.string "first")⟩] := by
      cbv
    rw [applyVariables, hoverrides]
    rfl
  have hfields (ss ts : List String) :
      shape.PartWays ("BASE" :: ss) ("MODULES" :: ts) :=
    .fields (i := 0) (j := 1) (by decide) (by decide) (by decide)
  have hparts : module.PartWays ["GAUGE"] ["NAME"] :=
    .fields (i := 1) (j := 0) (by decide) (by decide) (by decide)
  have hbase : shape.PartWays ["BASE", "GAUGE"] ["BASE", "NAME"] :=
    .field (i := 0) (by decide) (by decide) rfl (.option hparts)
  have hmodules : shape.PartWays ["MODULES", "2", "NAME"] ["MODULES", "02", "GAUGE"] :=
    .field (i := 1) (by decide) (by decide) rfl
      (.element (i := 2) (by decide) (by decide) hparts.symm)
  have hind : us.Pairwise (Independent scope shape) := by
    simp only [us, List.pairwise_cons, List.forall_mem_cons]
    refine ⟨⟨?_, ?_, ?_, by simp⟩, ⟨?_, ?_, by simp⟩, ⟨?_, by simp⟩, by simp, .nil⟩
    · exact independent_of_segments hbaseGauge hname (hfields _ _)
    · exact independent_of_segments hbaseGauge hgauge (hfields _ _)
    · exact independent_of_segments hbaseGauge hbaseName hbase
    · exact independent_of_segments hname hgauge hmodules
    · exact independent_of_segments hname hbaseName (hfields _ _).symm
    · exact independent_of_segments hgauge hbaseName (hfields _ _).symm
  have hindexes : ∀ v ∈ us, ∀ ss, segments? scope v.name = some ss →
      ∀ i, shape.ReadsIndex i ss → i ≤ maxGrowth := by
    have hcount : ∀ v ∈ us, ∀ s ∈ (segments? scope v.name).getD [], ∀ i ∈ index? s,
        i ≤ maxGrowth := by
      decide
    intro v hv ss hss i hi
    obtain ⟨s, hs, hindex⟩ := hi.exists_mem
    exact hcount v hv s (by simpa [hss] using hs) i hindex
  have hperm : us.Perm us.reverse := us.reverse_perm.symm
  have hall := applyVariables_perm hascii hind hperm shape.start
  exact ⟨hascii, hind, hy, (hall.2.2 hindexes y).1 hy⟩

end LayeredConfig.Override
