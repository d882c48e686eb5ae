import LayeredConfig.Text.Blank
import Mathlib.Data.List.DropRight
import Mathlib.Data.List.TakeWhile

namespace LayeredConfig.Text

def IsTrimmed (s : String) : Prop :=
  (∀ c ∈ s.toList.head?, isBlank c = false) ∧ ∀ c ∈ s.toList.getLast?, isBlank c = false

instance (s : String) : Decidable (IsTrimmed s) := by unfold IsTrimmed; infer_instance

theorem trimChars_eq (cs : List Char) :
    trimChars cs = (cs.dropWhile isBlank).rdropWhile isBlank := rfl

theorem trimChars_eq_self {cs : List Char} (hhead : ∀ c ∈ cs.head?, isBlank c = false)
    (hlast : ∀ c ∈ cs.getLast?, isBlank c = false) : trimChars cs = cs := by
  have hdrop : cs.dropWhile isBlank = cs := by
    cases cs with
    | nil => rfl
    | cons c cs => simp [hhead c (by simp)]
  rw [trimChars_eq, hdrop, List.rdropWhile_eq_self_iff]
  intro hne
  simp [hlast _ (List.getLast?_eq_getLast_of_ne_nil hne)]

/-- A text without blanks at its ends is not changed. -/
theorem trim_of_isTrimmed {s : String} (h : IsTrimmed s) : trim s = s := by
  rw [trim, trimChars_eq_self h.1 h.2, String.ofList_toList]

theorem isTrimmed_trim (s : String) : IsTrimmed (trim s) := by
  have hpre : trimChars s.toList <+: s.toList.dropWhile isBlank :=
    List.rdropWhile_prefix isBlank _
  rw [IsTrimmed, trim, String.toList_ofList]
  refine ⟨?_, ?_⟩
  · intro c hc
    obtain ⟨rest, hrest⟩ := hpre
    have hhead : (s.toList.dropWhile isBlank).head? = some c := by
      rw [← hrest, List.head?_append, hc]
      rfl
    have hnot := List.head?_dropWhile_not isBlank s.toList
    rw [hhead] at hnot
    simpa using hnot
  · intro c hc
    have hne : (s.toList.dropWhile isBlank).rdropWhile isBlank ≠ [] := by
      intro h
      rw [trimChars_eq, h] at hc
      simp at hc
    have hlast := List.rdropWhile_last_not isBlank _ hne
    rw [trimChars_eq, List.getLast?_eq_getLast_of_ne_nil hne] at hc
    obtain rfl : List.getLast _ hne = c := by simpa using hc
    simpa using hlast

theorem isBlank_or_mem_dropWhile {cs : List Char} {c : Char} (h : c ∈ cs) :
    isBlank c = true ∨ c ∈ cs.dropWhile isBlank := by
  rw [← List.takeWhile_append_dropWhile (p := isBlank) (l := cs), List.mem_append] at h
  exact h.imp_left fun h => List.mem_takeWhile_imp h

/-- Trimming drops nothing but blanks. -/
theorem isBlank_or_mem_trimChars {cs : List Char} {c : Char} (h : c ∈ cs) :
    isBlank c = true ∨ c ∈ trimChars cs := by
  rcases isBlank_or_mem_dropWhile h with hc | hc
  · exact .inl hc
  · rw [trimChars, List.mem_reverse]
    exact isBlank_or_mem_dropWhile (List.mem_reverse.2 hc)

def Unbroken (cs : List Char) : Prop := ∀ c ∈ cs, isBlank c = false

@[simp] theorem unbroken_nil : Unbroken [] := by simp [Unbroken]

@[simp] theorem unbroken_cons {c : Char} {cs : List Char} :
    Unbroken (c :: cs) ↔ isBlank c = false ∧ Unbroken cs := by simp [Unbroken]

@[simp] theorem unbroken_append {cs ds : List Char} :
    Unbroken (cs ++ ds) ↔ Unbroken cs ∧ Unbroken ds := by simp [Unbroken, or_imp, forall_and]

theorem Unbroken.isTrimmed {s : String} (h : Unbroken s.toList) : IsTrimmed s :=
  ⟨fun c hc => h c (List.mem_of_head? hc), fun c hc => h c (List.mem_of_getLast? hc)⟩

theorem Unbroken.trimChars_eq {cs : List Char} (h : Unbroken cs) : trimChars cs = cs :=
  trimChars_eq_self (fun c hc => h c (List.mem_of_head? hc))
    fun c hc => h c (List.mem_of_getLast? hc)

/-! ### Blanks around a text -/

def AllBlank (s : String) : Prop := ∀ c ∈ s.toList, isBlank c = true

instance (s : String) : Decidable (AllBlank s) := by unfold AllBlank; infer_instance

theorem AllBlank.not_mem {s : String} {c : Char} (h : AllBlank s) (hc : isBlank c = false) :
    c ∉ s.toList := by
  intro hmem
  rw [h c hmem] at hc
  cases hc

theorem trim_eq_empty_iff {s : String} : trim s = "" ↔ AllBlank s := by
  rw [trim, String.ofList_eq_empty_iff]
  constructor
  · intro h c hc
    rcases isBlank_or_mem_trimChars hc with hblank | hmem
    · exact hblank
    · rw [h] at hmem
      cases hmem
  · intro h
    rw [trimChars, List.dropWhile_eq_nil_iff.2 h]
    rfl

/-- The blanks around a trimmed text are dropped. -/
theorem trim_between {before s after : String} (hbefore : AllBlank before)
    (hafter : AllBlank after) (hs : IsTrimmed s) (hne : s ≠ "") :
    trim (before ++ s ++ after) = s := by
  have hlist : s.toList ≠ [] := by simpa using hne
  have hdrop : (before.toList ++ (s.toList ++ after.toList)).dropWhile isBlank =
      s.toList ++ after.toList := by
    rw [List.dropWhile_append_of_pos hbefore]
    obtain ⟨c, cs, hcs⟩ := List.exists_cons_of_ne_nil hlist
    have hc : isBlank c = false := hs.1 c (by simp [hcs])
    simp [hcs, hc]
  have hrdrop : (s.toList ++ after.toList).reverse.dropWhile isBlank = s.toList.reverse := by
    rw [List.reverse_append,
      List.dropWhile_append_of_pos fun c hc => hafter c (List.mem_reverse.1 hc)]
    obtain ⟨c, cs, hcs⟩ := List.exists_cons_of_ne_nil (List.reverse_ne_nil_iff.2 hlist)
    have hc : isBlank c = false := hs.2 c (by simp [← List.head?_reverse, hcs])
    simp [hcs, hc]
  apply String.toList_injective
  rw [trim, String.toList_ofList, String.toList_append, String.toList_append, List.append_assoc,
    trimChars, hdrop, hrdrop, List.reverse_reverse]

/-- Nothing else is dropped. -/
theorem exists_blanks_around (s : String) :
    ∃ before after, AllBlank before ∧ AllBlank after ∧ s = before ++ trim s ++ after := by
  refine ⟨String.ofList (s.toList.takeWhile isBlank),
    String.ofList ((s.toList.dropWhile isBlank).rtakeWhile isBlank), ?_, ?_, ?_⟩
  · intro c hc
    rw [String.toList_ofList] at hc
    exact List.mem_takeWhile_imp hc
  · intro c hc
    rw [String.toList_ofList] at hc
    exact List.mem_rtakeWhile_imp hc
  · apply String.toList_injective
    rw [String.toList_append, String.toList_append, trim]
    simp only [String.toList_ofList]
    rw [trimChars_eq, List.append_assoc, List.rdropWhile_append_rtakeWhile,
      List.takeWhile_append_dropWhile]

theorem length_trim_le (s : String) : (trim s).length ≤ s.length := by
  have hpre : trimChars s.toList <+: s.toList.dropWhile isBlank :=
    List.rdropWhile_prefix isBlank _
  have hlength := hpre.length_le.trans (List.length_dropWhile_le isBlank s.toList)
  simpa [trim, String.length_toList] using hlength

theorem pieces_ne_nil (separator : Char) (cs : List Char) : pieces separator cs ≠ [] := by
  cases cs with
  | nil => simp [pieces]
  | cons c cs =>
    unfold pieces
    split
    · simp
    · split <;> simp

theorem length_pieces_le (separator : Char) (cs : List Char) :
    (pieces separator cs).length ≤ cs.length + 1 := by
  induction cs with
  | nil => simp [pieces]
  | cons c cs ih =>
    unfold pieces
    split
    · simpa using ih
    · split
      · simp
      · next p ps hp =>
        rw [hp] at ih
        simp only [List.length_cons] at ih ⊢
        omega

theorem length_le_of_mem_pieces {separator : Char} {cs p : List Char}
    (h : p ∈ pieces separator cs) : p.length ≤ cs.length := by
  induction cs generalizing p with
  | nil =>
    obtain rfl : p = [] := by simpa [pieces] using h
    simp
  | cons c cs ih =>
    unfold pieces at h
    split at h
    · rcases List.mem_cons.1 h with rfl | h
      · simp
      · have := ih h
        simp only [List.length_cons]
        omega
    · split at h
      · next hnil => exact absurd hnil (pieces_ne_nil separator cs)
      · next q qs hq =>
        rw [hq] at ih
        rcases List.mem_cons.1 h with rfl | h
        · have := ih (p := q) (by simp)
          simp only [List.length_cons]
          omega
        · have := ih (p := p) (by simp [h])
          simp only [List.length_cons]
          omega

theorem length_splitAt_le (separator : Char) (s : String) :
    (splitAt separator s).length ≤ s.length + 1 := by
  simpa [splitAt, String.length_toList] using length_pieces_le separator s.toList

theorem length_le_of_mem_splitAt {separator : Char} {s t : String}
    (h : t ∈ splitAt separator s) : t.length ≤ s.length := by
  obtain ⟨p, hp, rfl⟩ := List.mem_map.1 h
  simpa [String.length_toList] using length_le_of_mem_pieces hp

end LayeredConfig.Text
