import LayeredConfig.Environment.Override
import LayeredConfig.Proofs.Outcome
import LayeredConfig.Proofs.Text.ByteOrder
import Mathlib.Data.List.Perm.Basic
import Mathlib.Data.String.Basic

namespace LayeredConfig

open Text

theorem Variable.ofRaw?_eq_some_iff {raw : RawVariable} {v : Variable} :
    Variable.ofRaw? raw = some v ↔ raw = RawVariable.ofText v := by
  constructor
  · intro h
    obtain ⟨name, hname, content, hcontent, rfl⟩ : ∃ name, decode? raw.name = some name ∧
        ∃ content, decode? raw.content = some content ∧ Variable.mk name content = v := by
      simpa [Variable.ofRaw?, Option.bind_eq_some_iff] using h
    rw [RawVariable.ofText, toUTF8_of_decode? hname, toUTF8_of_decode? hcontent]
  · rintro rfl
    rw [Variable.ofRaw?, RawVariable.ofText, decode?_toUTF8, decode?_toUTF8]
    rfl

theorem RawVariable.ofText_inj {u v : Variable} :
    RawVariable.ofText u = RawVariable.ofText v ↔ u = v := by
  constructor
  · intro h
    exact Option.some.inj ((Variable.ofRaw?_eq_some_iff.2 rfl).symm.trans
      (Variable.ofRaw?_eq_some_iff.2 h))
  · rintro rfl
    rfl

theorem Variable.ofProcess_map_ofText (vs : List Variable) :
    ofProcess (vs.map RawVariable.ofText) = sortByName vs := by
  have hraw : (fun v => ofRaw? (RawVariable.ofText v)) = some :=
    funext fun v => Variable.ofRaw?_eq_some_iff.2 rfl
  rw [ofProcess, List.filterMap_map, Function.comp_def, hraw, List.filterMap_some]

/-! ### Names in order -/

def Variable.Ascending (vs : List Variable) : Prop :=
  vs.Pairwise fun u v => bytesOf u.name < bytesOf v.name

theorem Variable.mem_ofProcess {environment : List RawVariable} {v : Variable} :
    v ∈ Variable.ofProcess environment ↔ RawVariable.ofText v ∈ environment := by
  rw [Variable.ofProcess, Variable.sortByName, (List.mergeSort_perm _ _).mem_iff,
    List.mem_filterMap]
  constructor
  · rintro ⟨raw, hraw, h⟩
    exact Variable.ofRaw?_eq_some_iff.1 h ▸ hraw
  · intro h
    exact ⟨_, h, Variable.ofRaw?_eq_some_iff.2 rfl⟩

/-- The variables that are text keep the names apart. -/
theorem Variable.nodup_names {environment : List RawVariable}
    (h : (environment.map RawVariable.name).Nodup) :
    ((environment.filterMap Variable.ofRaw?).map Variable.name).Nodup := by
  induction environment with
  | nil => simp
  | cons raw environment ih =>
    obtain ⟨hnew, hrest⟩ := List.nodup_cons.1 h
    cases hraw : Variable.ofRaw? raw with
    | none => simpa [hraw] using ih hrest
    | some v =>
      rw [List.filterMap_cons_some hraw, List.map_cons, List.nodup_cons]
      refine ⟨?_, ih hrest⟩
      intro hmem
      obtain ⟨u, hu, hname⟩ := List.mem_map.1 hmem
      obtain ⟨raw', hraw', hu⟩ := List.mem_filterMap.1 hu
      obtain rfl := Variable.ofRaw?_eq_some_iff.1 hraw
      obtain rfl := Variable.ofRaw?_eq_some_iff.1 hu
      exact hnew (List.mem_map.2 ⟨_, hraw', by simp [RawVariable.ofText, hname]⟩)

theorem Variable.ascending_ofProcess {environment : List RawVariable}
    (h : (environment.map RawVariable.name).Nodup) :
    Variable.Ascending (Variable.ofProcess environment) := by
  have hsorted : (Variable.ofProcess environment).Pairwise fun u v => u.name ≤ v.name := by
    let le : Variable → Variable → Bool := fun u v => decide (u.name ≤ v.name)
    have htrans (a b c : Variable) (hab : le a b = true) (hbc : le b c = true) : le a c = true :=
      decide_eq_true (le_trans (of_decide_eq_true hab) (of_decide_eq_true hbc))
    have htotal (a b : Variable) : (le a b || le b a) = true := by
      simpa [le] using le_total a.name b.name
    simpa [Variable.ofProcess, Variable.sortByName, le] using
      List.pairwise_mergeSort htrans htotal (environment.filterMap Variable.ofRaw?)
  have hnames : (Variable.ofProcess environment).Pairwise fun u v => u.name ≠ v.name := by
    have hperm := (List.mergeSort_perm (environment.filterMap Variable.ofRaw?)
      fun u v : Variable => decide (u.name ≤ v.name)).map Variable.name
    exact List.pairwise_map.1 (hperm.nodup_iff.2 (Variable.nodup_names h))
  exact (hsorted.and hnames).imp fun h => bytesOf_lt_iff.2 (lt_of_le_of_ne h.1 h.2)

/-- Ascending lists with the same members are the same. -/
theorem Variable.Ascending.eq_of_mem_iff {us vs : List Variable} (hu : Variable.Ascending us)
    (hv : Variable.Ascending vs) (h : ∀ v, v ∈ us ↔ v ∈ vs) : us = vs := by
  have hnodup {ws : List Variable} (hw : Variable.Ascending ws) : ws.Nodup := by
    refine List.Pairwise.imp ?_ hw
    rintro u v hlt rfl
    exact List.lt_irrefl _ hlt
  refine List.Perm.eq_of_pairwise ?_ hu hv
    ((List.perm_ext_iff_of_nodup (hnodup hu) (hnodup hv)).2 h)
  intro a b _ _ hab hba
  exact absurd hba (List.lt_asymm hab)

/-- The names up to a bound come first. -/
theorem Variable.Ascending.filter_append_filter_not {vs : List Variable}
    (h : Variable.Ascending vs) (name : String) :
    vs.filter (fun v => decide (bytesOf v.name ≤ bytesOf name)) ++
      vs.filter (fun v => !decide (bytesOf v.name ≤ bytesOf name)) = vs := by
  induction vs with
  | nil => rfl
  | cons v vs ih =>
    obtain ⟨hv, hvs⟩ := List.pairwise_cons.1 h
    by_cases hname : bytesOf v.name ≤ bytesOf name
    · rw [List.filter_cons_of_pos (by simpa using hname),
        List.filter_cons_of_neg (by simpa using hname), List.cons_append, ih hvs]
    · -- Nothing that comes after a name beyond the bound is within it.
      have hbeyond : ∀ u ∈ vs, ¬bytesOf u.name ≤ bytesOf name := fun u hu hle =>
        hle (List.lt_trans (List.not_le.1 hname) (hv u hu))
      have hnone : vs.filter (fun v => decide (bytesOf v.name ≤ bytesOf name)) = [] := by
        rw [List.filter_eq_nil_iff]
        exact fun u hu => by simpa using hbeyond u hu
      have hall : vs.filter (fun v => !decide (bytesOf v.name ≤ bytesOf name)) = vs := by
        rw [List.filter_eq_self]
        exact fun u hu => by simpa using hbeyond u hu
      rw [List.filter_cons_of_neg (by simpa using hname),
        List.filter_cons_of_pos (by simpa using hname), hnone, hall, List.nil_append]

namespace Override

def inScope (scope : Scope) (environment : List RawVariable) : List Variable :=
  (Variable.ofProcess environment).filter fun v => (segments? scope v.name).isSome

/-- The documents of variables are decoded one after the other onto a value. -/
def applyVariables (scope : Scope) (shape : Schema.Shape) (value : Schema.Value)
    (vs : List Variable) : Outcome Error Schema.Value :=
  applyAll shape value (ofVariables scope vs)

variable {scope : Scope} {shape : Schema.Shape}

theorem mem_inScope {environment : List RawVariable} {v : Variable} :
    v ∈ inScope scope environment ↔
      RawVariable.ofText v ∈ environment ∧ (segments? scope v.name).isSome := by
  rw [inScope, List.mem_filter, Variable.mem_ofProcess]

theorem ofVariables_inScope (environment : List RawVariable) :
    ofVariables scope (inScope scope environment) =
      ofVariables scope (Variable.ofProcess environment) := by
  rw [inScope, ofVariables, ofVariables, List.filterMap_filter]
  refine List.filterMap_congr fun v _ => ?_
  cases h : segments? scope v.name <;> simp [ofVariable?, h]

theorem ascending_inScope {environment : List RawVariable}
    (h : (environment.map RawVariable.name).Nodup) :
    Variable.Ascending (inScope scope environment) :=
  List.Pairwise.filter _ (Variable.ascending_ofProcess h)

theorem applyVariables_inScope (environment : List RawVariable) (value : Schema.Value) :
    applyVariables scope shape value (inScope scope environment) =
      applyAll shape value (ofVariables scope (Variable.ofProcess environment)) := by
  rw [applyVariables, ofVariables_inScope]

/-- The variables are taken one after the other. -/
theorem applyVariables_eq_each (value : Schema.Value) (vs : List Variable) :
    applyVariables scope shape value vs =
      Outcome.each (fun value v => applyVariables scope shape value [v]) value vs := by
  have hflat : ofVariables scope vs = vs.flatMap fun v => ofVariables scope [v] := by
    induction vs with
    | nil => rfl
    | cons v vs ih =>
      rw [List.flatMap_cons, ← ih]
      cases h : ofVariable? scope v <;> simp [ofVariables, h]
  rw [applyVariables, applyAll, hflat, Outcome.each_flatMap]
  rfl

/-- A variable that fails is one of the scope, and the error names it. -/
theorem applyVariables_singleton_failed {value value' : Schema.Value} {v : Variable} {e : Error}
    (h : applyVariables scope shape value [v] = .failed value' e) :
    (segments? scope v.name).isSome ∧ e.name = v.name := by
  cases hsegments : segments? scope v.name with
  | none =>
    have hnone : ofVariables scope [v] = [] := by simp [ofVariables, ofVariable?, hsegments]
    simp [applyVariables, hnone, applyAll, Outcome.eq_failed_iff] at h
  | some segments =>
    have hone : ofVariables scope [v] =
        [⟨v.name, .nested (segments.map Text.lowercase) (.string v.content)⟩] := by
      simp [ofVariables, ofVariable?, hsegments]
    rw [applyVariables, hone, applyAll, Outcome.each_singleton, apply,
      Outcome.mapError_eq_failed_iff] at h
    obtain ⟨reason, -, rfl⟩ := h
    exact ⟨rfl, rfl⟩

/-- The same variables of a scope are listed. -/
def SameInScope (scope : Scope) (environment environment' : List RawVariable) : Prop :=
  ∀ v, (segments? scope v.name).isSome →
    (RawVariable.ofText v ∈ environment ↔ RawVariable.ofText v ∈ environment')

/-- The same variables of a scope are listed, as far as their names are not beyond a name. -/
def SameUpTo (scope : Scope) (name : String) (environment environment' : List RawVariable) :
    Prop :=
  ∀ v, (segments? scope v.name).isSome → bytesOf v.name ≤ bytesOf name →
    (RawVariable.ofText v ∈ environment ↔ RawVariable.ofText v ∈ environment')

section

variable {environment environment' : List RawVariable}
  (hnames : (environment.map RawVariable.name).Nodup)
  (hnames' : (environment'.map RawVariable.name).Nodup)
include hnames hnames'

theorem inScope_eq_of_same (h : SameInScope scope environment environment') :
    inScope scope environment = inScope scope environment' := by
  refine (ascending_inScope hnames).eq_of_mem_iff (ascending_inScope hnames') fun v => ?_
  rw [mem_inScope, mem_inScope]
  exact and_congr_left (h v)

/-- What comes up to a variable is the same where the same variables are listed up to it. -/
theorem exists_inScope_of_sameUpTo {before after : List Variable} {v : Variable}
    (hsplit : inScope scope environment = before ++ v :: after)
    (h : SameUpTo scope v.name environment environment') :
    ∃ after', inScope scope environment' = before ++ v :: after' := by
  let reached : Variable → Bool := fun u => decide (bytesOf u.name ≤ bytesOf v.name)
  have hascending : Variable.Ascending (inScope scope environment) := ascending_inScope hnames
  have hascending' : Variable.Ascending (inScope scope environment') := ascending_inScope hnames'
  have hbefore : (inScope scope environment).filter reached = before ++ [v] := by
    rw [hsplit, Variable.Ascending, List.pairwise_append, List.pairwise_cons] at hascending
    obtain ⟨-, ⟨hafter, -⟩, hcross⟩ := hascending
    have hb : before.filter reached = before := by
      rw [List.filter_eq_self]
      exact fun u hu => decide_eq_true (List.lt_asymm (hcross u hu v (by simp)))
    have ha : after.filter reached = [] := by
      rw [List.filter_eq_nil_iff]
      exact fun u hu => by simpa [reached] using List.not_le.2 (hafter u hu)
    have hv : reached v = true := decide_eq_true (List.lt_irrefl _)
    rw [hsplit, List.filter_append, List.filter_cons_of_pos hv, hb, ha]
  have hreached : (inScope scope environment').filter reached = before ++ [v] := by
    rw [← hbefore]
    refine Variable.Ascending.eq_of_mem_iff (List.Pairwise.filter _ hascending')
      (List.Pairwise.filter _ hascending) fun u => ?_
    rw [List.mem_filter, List.mem_filter, mem_inScope, mem_inScope]
    refine and_congr_left fun hu => and_congr_left fun hcounts => ?_
    exact (h u hcounts (of_decide_eq_true hu)).symm
  refine ⟨(inScope scope environment').filter (!reached ·), ?_⟩
  have hparts := Variable.Ascending.filter_append_filter_not hascending' v.name
  rw [hreached] at hparts
  simpa using hparts.symm

end

end Override

end LayeredConfig
