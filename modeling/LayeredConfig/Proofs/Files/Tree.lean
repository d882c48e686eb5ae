import LayeredConfig.Files.Tree
import Mathlib.Data.List.Basic

namespace LayeredConfig.Files.Tree

variable {tree tree' : Tree} {here there : Location} {number : ℕ}

theorem lookup_filter_ne {entries : List (Location × Entry)} (hne : there ≠ here) :
    (entries.filter (·.1 ≠ here)).lookup there = entries.lookup there := by
  induction entries with
  | nil => rfl
  | cons e entries ih =>
    by_cases hkey : e.1 = here
    · have hlater : (there == e.1) = false := beq_false_of_ne (hkey ▸ hne)
      rw [List.filter_cons_of_neg (by simpa using hkey), ih, List.lookup_cons, hlater]
    · rw [List.filter_cons_of_pos (by simpa using hkey), List.lookup_cons, List.lookup_cons, ih]

theorem lookup_filter_self (entries : List (Location × Entry)) (here : Location) :
    (entries.filter (·.1 ≠ here)).lookup here = none := by
  refine List.lookup_eq_none_iff.2 fun e he => ?_
  exact bne_iff_ne.2 (of_decide_eq_true (List.mem_filter.1 he).2).symm

theorem lookup?_of_ne (hne : here ≠ []) : tree.lookup? here = tree.entries.lookup here := if_neg hne

theorem lookup?_erase_self (hne : here ≠ []) : lookup? (tree.erase here) here = none := by
  rw [lookup?_of_ne hne]
  exact lookup_filter_self _ _

theorem lookup?_erase_of_ne (hne : there ≠ here) :
    lookup? (tree.erase here) there = tree.lookup? there := by
  unfold lookup?
  rw [erase, lookup_filter_ne hne]

/-- Two trees have the same entries outside of some locations, the same working directory, and
refuse the same. -/
structure SameOutside (touched : Location → Prop) (tree tree' : Tree) : Prop where
  workingDirectory : tree'.workingDirectory = tree.workingDirectory
  refusal? : tree'.refusal? = tree.refusal?
  lookup? : ∀ there, ¬touched there → tree'.lookup? there = tree.lookup? there

section

variable {touched touched' : Location → Prop}

theorem SameOutside.refl (touched : Location → Prop) (tree : Tree) :
    SameOutside touched tree tree :=
  ⟨rfl, rfl, fun _ _ => rfl⟩

theorem SameOutside.trans {last : Tree} (h : SameOutside touched tree tree')
    (h' : SameOutside touched' tree' last) :
    SameOutside (fun there => touched there ∨ touched' there) tree last :=
  ⟨h'.workingDirectory.trans h.workingDirectory, h'.refusal?.trans h.refusal?,
    fun there hno => (h'.lookup? there fun ht => hno (.inr ht)).trans
      (h.lookup? there fun ht => hno (.inl ht))⟩

end

end LayeredConfig.Files.Tree
