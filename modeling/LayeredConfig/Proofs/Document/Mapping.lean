import LayeredConfig.Document.Basic
import Mathlib.Data.List.Induction
import Mathlib.Data.List.Nodup

namespace LayeredConfig.Document

variable {key value : Document} {entries entries' : List (Document × Document)}

/-- Entries with other keys are passed over. -/
theorem insert_append (h : ∀ e ∈ entries, e.1.same key = false) :
    insert key value (entries ++ entries') = entries ++ insert key value entries' := by
  induction entries with
  | nil => rfl
  | cons e entries ih =>
    have he : e.1.same key = false := h e (by simp)
    simp [insert, he, ih fun x hx => h x (by simp [hx])]

theorem insert_new (h : ∀ e ∈ entries, e.1.same key = false) :
    insert key value entries = entries ++ [(key, value)] := by
  simpa [insert] using @insert_append key value entries [] h

/-- Entries with different keys are all kept, in their order. -/
theorem ofEntries_distinct (h : entries.Pairwise fun a b => a.1.same b.1 = false) :
    ofEntries entries = .mapping entries := by
  -- The entries taken so far and those to come all have different keys.
  have hfold : ∀ acc rest : List (Document × Document),
      (acc ++ rest).Pairwise (fun a b => a.1.same b.1 = false) →
      rest.foldl (fun acc e => insert e.1 e.2 acc) acc = acc ++ rest := by
    intro acc rest
    induction rest generalizing acc with
    | nil => simp
    | cons e rest ih =>
      intro hpair
      have hnew : ∀ x ∈ acc, x.1.same e.1 = false := fun x hx =>
        (List.pairwise_append.1 hpair).2.2 x hx e (by simp)
      rw [List.foldl_cons, insert_new hnew, ih _ (by simpa using hpair)]
      simp
  rw [ofEntries, hfold [] entries h]
  rfl

/-! ### Names for keys -/

def named (es : List (String × Document)) : List (Document × Document) :=
  es.map fun e => (.string e.1, e.2)

@[simp] theorem named_append (es es' : List (String × Document)) :
    named (es ++ es') = named es ++ named es' := List.map_append

@[simp] theorem map_fst_named (es : List (String × Document)) :
    (named es).map Prod.fst = (es.map Prod.fst).map string := by
  simp [named]

/-- A row holds one entry for each name of another row: in the order of the first occurrences, with
the contents of the last. -/
structure OncePerName (es row : List (String × Document)) : Prop where
  names_eq : row.map Prod.fst = (es.map Prod.fst).eraseDups
  distinct : (row.map Prod.fst).Nodup
  last : ∀ e ∈ row, ∃ i, es[i]? = some e ∧ e.1 ∉ (es.map Prod.fst).drop (i + 1)

variable {es row before after : List (String × Document)} {e : String × Document} {name : String}
  {d old : Document}

theorem same_of_mem_named (h : name ∉ row.map Prod.fst) :
    ∀ e ∈ named row, e.1.same (.string name) = false := by
  intro e he
  obtain ⟨x, hx, rfl⟩ := List.mem_map.1 he
  have hne : x.1 ≠ name := fun hname => h (List.mem_map.2 ⟨x, hx, hname⟩)
  simpa [same] using hne

theorem insert_of_not_mem (h : name ∉ row.map Prod.fst) :
    insert (.string name) d (named row) = named (row ++ [(name, d)]) := by
  rw [insert_new (same_of_mem_named h), named_append]
  rfl

theorem insert_of_first (h : name ∉ before.map Prod.fst) :
    insert (.string name) d (named (before ++ (name, old) :: after)) =
      named (before ++ (name, d) :: after) := by
  rw [named_append, insert_append (same_of_mem_named h), named_append]
  simp [named, insert, same]

/-- An entry stays the last of its name before an entry of another one. -/
theorem last_append_singleton (hne : e.1 ≠ name)
    (h : ∃ i, es[i]? = some e ∧ e.1 ∉ (es.map Prod.fst).drop (i + 1)) :
    ∃ i, (es ++ [(name, d)])[i]? = some e ∧
      e.1 ∉ ((es ++ [(name, d)]).map Prod.fst).drop (i + 1) := by
  obtain ⟨i, hi, hlast⟩ := h
  obtain ⟨hlt, -⟩ := List.getElem?_eq_some_iff.1 hi
  have hle : i + 1 ≤ (es.map Prod.fst).length := by
    rw [List.length_map]
    exact hlt
  refine ⟨i, by rw [List.getElem?_append_left hlt, hi], ?_⟩
  rw [List.map_append, List.drop_append_of_le_length hle]
  simp [hlast, hne]

theorem last_of_append_singleton :
    ∃ i, (es ++ [(name, d)])[i]? = some (name, d) ∧
      name ∉ ((es ++ [(name, d)]).map Prod.fst).drop (i + 1) := by
  refine ⟨es.length, by simp, ?_⟩
  rw [List.drop_eq_nil_of_le (by simp)]
  exact List.not_mem_nil

theorem OncePerName.ne_of_mem_rest (h : OncePerName es (before ++ e :: after)) :
    ∀ x ∈ before ++ after, x.1 ≠ e.1 := by
  have hdistinct := h.distinct
  rw [List.map_append, List.map_cons, List.nodup_middle, List.nodup_cons,
    ← List.map_append] at hdistinct
  intro x hx hname
  exact hdistinct.1 (List.mem_map.2 ⟨x, hx, hname⟩)

theorem OncePerName.replace (h : OncePerName es (before ++ (name, old) :: after)) :
    OncePerName (es ++ [(name, d)]) (before ++ (name, d) :: after) := by
  have hnames : (before ++ (name, d) :: after).map Prod.fst =
      (before ++ (name, old) :: after).map Prod.fst := by simp
  have hmem : name ∈ es.map Prod.fst := by
    rw [← List.mem_eraseDups, ← h.names_eq]
    simp
  refine ⟨?_, hnames ▸ h.distinct, fun x hx => ?_⟩
  · rw [hnames, h.names_eq, List.map_append, List.eraseDups_append]
    simp [List.removeAll, hmem]
  · rw [List.mem_append, List.mem_cons, or_left_comm, ← List.mem_append] at hx
    rcases hx with rfl | hrest
    · exact last_of_append_singleton
    · have hold : x ∈ before ++ (name, old) :: after := by
        rw [List.mem_append] at hrest ⊢
        exact hrest.imp_right (List.mem_cons_of_mem _)
      exact last_append_singleton (h.ne_of_mem_rest x hrest) (h.last x hold)

theorem OncePerName.add (h : OncePerName es row) (hnew : name ∉ row.map Prod.fst) :
    OncePerName (es ++ [(name, d)]) (row ++ [(name, d)]) := by
  have hnot : name ∉ es.map Prod.fst := by rwa [← List.mem_eraseDups, ← h.names_eq]
  refine ⟨?_, ?_, fun e he => ?_⟩
  · rw [List.map_append, List.map_append, List.eraseDups_append, h.names_eq]
    simp [List.removeAll, hnot, List.eraseDups_cons]
  · rw [List.map_append, List.nodup_append_comm]
    exact List.nodup_cons.2 ⟨hnew, h.distinct⟩
  · rcases List.mem_append.1 he with hrow | hlast
    · refine last_append_singleton ?_ (h.last e hrow)
      rintro rfl
      exact hnew (List.mem_map_of_mem hrow)
    · obtain rfl := List.mem_singleton.1 hlast
      exact last_of_append_singleton

/-- Putting in entries from first to last keeps one for each name. -/
theorem exists_ofEntries_named (es : List (String × Document)) :
    ∃ row, ofEntries (named es) = .mapping (named row) ∧ OncePerName es row := by
  suffices h : ∃ row, (named es).foldl (fun acc e => insert e.1 e.2 acc) [] = named row ∧
      OncePerName es row by
    obtain ⟨row, hrow, honce⟩ := h
    exact ⟨row, congrArg mapping hrow, honce⟩
  -- From the end, since the last entry takes the place that is left for its name or a new one.
  induction es using List.reverseRecOn with
  | nil => exact ⟨[], rfl, rfl, List.nodup_nil, by simp⟩
  | append_singleton es e ih =>
    obtain ⟨row, hrow, honce⟩ := ih
    obtain ⟨name, d⟩ := e
    rw [named_append, List.foldl_append, hrow]
    by_cases hmem : name ∈ row.map Prod.fst
    · obtain ⟨⟨name, old⟩, he, rfl⟩ := List.mem_map.1 hmem
      obtain ⟨before, after, rfl⟩ := List.append_of_mem he
      have hfirst : name ∉ before.map Prod.fst := by
        intro hbefore
        obtain ⟨x, hx, hname⟩ := List.mem_map.1 hbefore
        exact honce.ne_of_mem_rest x (List.mem_append_left _ hx) hname
      exact ⟨_, insert_of_first hfirst, honce.replace⟩
    · exact ⟨_, insert_of_not_mem hmem, honce.add hmem⟩

end LayeredConfig.Document
