import LayeredConfig.Files.Path
import LayeredConfig.Proofs.Text.Split
import Mathlib.Data.List.TakeDrop
import Mathlib.Data.List.TakeWhile

namespace LayeredConfig.Files

open Text

/-- A path up to its last slash, if there is one. -/
def IsDirectoryPart (directory : String) : Prop := directory = "" ∨ ∃ s, directory = s ++ "/"

/-- An extension stands after the last dot of a path's last piece, unless that dot starts it. -/
def HasExtension (path extension : String) : Prop :=
  ∃ directory stem, path = directory ++ (stem ++ "." ++ extension) ∧ IsDirectoryPart directory ∧
    stem ≠ "" ∧ '/' ∉ stem.toList ∧ '/' ∉ extension.toList ∧ '.' ∉ extension.toList

variable {path extension directory name : String}

theorem exists_name (path : String) : ∃ directory name, path = directory ++ name ∧
    IsDirectoryPart directory ∧ '/' ∉ name.toList := by
  by_cases hslash : '/' ∈ path.toList.reverse
  · -- The first slash from the end is the last one.
    obtain ⟨after, before, hsplit, hlast⟩ := List.eq_append_cons_of_mem hslash
    refine ⟨String.ofList before.reverse ++ "/", String.ofList after.reverse, ?_, .inr ⟨_, rfl⟩,
      by simpa using hlast⟩
    apply String.toList_injective
    rw [← List.reverse_reverse path.toList, hsplit]
    simp
  · exact ⟨"", path, by simp, .inl rfl, by simpa using hslash⟩

theorem getLastD_pieces (hdirectory : IsDirectoryPart directory) (hname : '/' ∉ name.toList) :
    (pieces '/' (directory ++ name).toList).getLastD [] = name.toList := by
  rw [pieces_eq_splitOn]
  obtain rfl | ⟨s, rfl⟩ := hdirectory
  · simp [List.splitOn_eq_singleton hname]
  · have htoList : (s ++ "/" ++ name).toList = s.toList ++ '/' :: name.toList := by simp
    rw [htoList, List.splitOn_append_cons_self, List.splitOn_eq_singleton hname]
    simp

/-- The extension in the last piece of a path. -/
theorem extension?_append (hdirectory : IsDirectoryPart directory) (hname : '/' ∉ name.toList) :
    extension? (directory ++ name) = some extension ↔
      ∃ stem, stem ≠ "" ∧ name = stem ++ "." ++ extension ∧ '.' ∉ extension.toList := by
  rw [extension?, getLastD_pieces hdirectory hname, List.span_eq_takeWhile_dropWhile]
  constructor
  · intro h
    split at h
    · next after c before hspan =>
      obtain ⟨hafter, hbefore⟩ := Prod.mk.inj hspan
      obtain rfl := Option.some.inj h
      have hreverse : name.toList.reverse = after ++ '.' :: c :: before := by
        rw [← hafter, ← hbefore, List.takeWhile_append_dropWhile]
      refine ⟨String.ofList (c :: before).reverse, by simp, ?_, ?_⟩
      · apply String.toList_injective
        rw [← List.reverse_reverse name.toList, hreverse]
        simp
      · intro hdot
        rw [String.toList_ofList, List.mem_reverse, ← hafter] at hdot
        simpa using List.mem_takeWhile_imp hdot
    · cases h
  · rintro ⟨stem, hstem, rfl, hdot⟩
    have hreverse : (stem ++ "." ++ extension).toList.reverse =
        extension.toList.reverse ++ '.' :: stem.toList.reverse := by simp
    have hafter : ∀ c ∈ extension.toList.reverse, decide (c ≠ '.') = true := by
      intro c hc
      rw [List.mem_reverse] at hc
      simpa using fun h : c = '.' => hdot (h ▸ hc)
    have hne : stem.toList.reverse ≠ [] := by simpa using hstem
    obtain ⟨c, before, hbefore⟩ := List.exists_cons_of_ne_nil hne
    rw [hreverse, List.takeWhile_append_of_pos hafter, List.dropWhile_append_of_pos hafter, hbefore]
    simp

/-- The extension that is found is the one that the path has. -/
theorem extension?_eq_some_iff :
    extension? path = some extension ↔ HasExtension path extension := by
  constructor
  · intro h
    obtain ⟨directory, name, rfl, hdirectory, hname⟩ := exists_name path
    obtain ⟨stem, hstem, rfl, hdot⟩ := (extension?_append hdirectory hname).1 h
    simp only [String.toList_append, List.mem_append, not_or] at hname
    exact ⟨directory, stem, rfl, hdirectory, hstem, hname.1.1, hname.2, hdot⟩
  · rintro ⟨directory, stem, rfl, hdirectory, hstem, hslash, hslash', hdot⟩
    have hname : '/' ∉ (stem ++ "." ++ extension).toList := by simp [hslash, hslash']
    exact (extension?_append hdirectory hname).2 ⟨stem, hstem, rfl, hdot⟩

end LayeredConfig.Files
