import LayeredConfig.Proofs.Files.Way

namespace LayeredConfig.Files.Tree

variable {tree held : Tree} {here directory : Location} {path name : String} {entry : Entry}
  {number : ℕ} {content : ByteArray} {follows last : Bool} {t : Target}

/-! ### Targets -/

def Passable (path : String) : Prop :=
  path.toList.contains '\x00' = false ∧ path ≠ "" ∧ path.utf8ByteSize ≤ maxPathBytes

theorem target_of_passable (h : Passable path) (tree : Tree) (follows : Bool) :
    tree.target follows path = tree.way follows maxLinks (endsInSlash path)
      (beginning tree.workingDirectory path) (steps path) := by
  obtain ⟨hnull, hempty, hshort⟩ := h
  rw [target, if_neg (Bool.eq_false_iff.1 hnull), if_neg hempty, if_neg (Nat.not_lt.2 hshort)]

theorem target_eq_ok_iff : tree.target follows path = .ok t ↔ Passable path ∧
    tree.Goes follows maxLinks (endsInSlash path) (beginning tree.workingDirectory path)
      (steps path) t := by
  rw [← way_eq_ok_iff]
  refine ⟨fun h => ?_, fun h => (target_of_passable h.1 tree follows).trans h.2⟩
  have hpassable : Passable path := by
    unfold target at h
    split at h
    · cases h
    next hnull =>
      split at h
      · cases h
      next hempty =>
        split at h
        · cases h
        next hlong => exact ⟨by simpa using hnull, hempty, Nat.not_lt.1 hlong⟩
  exact ⟨hpassable, (target_of_passable hpassable tree follows).symm.trans h⟩

theorem SameWays.target (hsame : SameWays tree held) (h : tree.target follows path = .ok t) :
    held.target follows path = .ok t := by
  rw [target_eq_ok_iff] at h ⊢
  rw [hsame.workingDirectory]
  exact ⟨h.1, h.2.sameWays hsame⟩

/-- A path leads to a name in a directory; a link there is followed if `follows` says so. -/
def Leads (tree : Tree) (follows : Bool) (path : String) (here : Location) : Prop :=
  ∃ directory name, tree.target follows path = .ok (.named directory name false) ∧
    here = directory ++ [name]

theorem Leads.unique (h : tree.Leads follows path here)
    (htarget : tree.target follows path = .ok (.named directory name last)) :
    here = directory ++ [name] := by
  obtain ⟨d, n, h, rfl⟩ := h
  rw [h] at htarget
  cases htarget
  rfl

end LayeredConfig.Files.Tree
