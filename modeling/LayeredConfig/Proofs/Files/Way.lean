import LayeredConfig.Proofs.Files.Tree

/-!
Where paths lead, as rules instead of a search with a budget of links. What a change of the tree
does to a path is then an induction on how the path goes.
-/

namespace LayeredConfig.Files.Tree

variable {tree tree' : Tree} {here : Location} {path name : String} {entry : Entry}

theorem step_eq_ok_iff {directory : Location} :
    tree.step directory name = .ok entry ↔
      name.utf8ByteSize ≤ maxNameBytes ∧ tree.lookup? (directory ++ [name]) = some entry := by
  unfold step
  split
  next hlong => simp [Nat.not_le.2 hlong]
  next hshort =>
    cases tree.lookup? (directory ++ [name]) with
    | none => simp
    | some e => simp [Nat.not_lt.1 hshort]

theorem step_eq_notFound_iff {directory : Location} :
    tree.step directory name = .error .notFound ↔
      name.utf8ByteSize ≤ maxNameBytes ∧ tree.lookup? (directory ++ [name]) = none := by
  unfold step
  split
  next hlong => simp [Nat.not_le.2 hlong]
  next hshort =>
    cases tree.lookup? (directory ++ [name]) with
    | none => simp [Nat.not_lt.1 hshort]
    | some e => simp

section Way

variable {follows slash : Bool} {links : ℕ} {names : List String} {t : Target} {e : Error}
  {onward : Bool → Location → List String → Except Error Target}

section

variable (hdot : name ≠ ".") (hdots : name ≠ "..")

include hdot hdots

theorem wayWith_link (hstep : tree.step here name = .ok (.link path)) :
    tree.wayWith follows onward slash here (name :: names) =
      if names = [] ∧ !follows then .ok (.named here name slash)
      else onward (slash || (names.isEmpty && endsInSlash path)) (beginning here path)
        (steps path ++ names) := by
  rw [wayWith, if_neg hdot, if_neg hdots, hstep]

theorem wayWith_last (hlink : ∀ path, tree.step here name ≠ .ok (.link path)) :
    tree.wayWith follows onward slash here [name] = .ok (.named here name slash) := by
  rw [wayWith, if_neg hdot, if_neg hdots]
  split
  next path hstep => exact absurd hstep (hlink path)
  next => exact if_pos rfl

theorem wayWith_through (hlink : ∀ path, tree.step here name ≠ .ok (.link path))
    (hnames : names ≠ []) :
    tree.wayWith follows onward slash here (name :: names) =
      match tree.step here name with
      | .ok .directory => tree.wayWith follows onward slash (here ++ [name]) names
      | .ok _ => .error .notADirectory
      | .error e => .error e := by
  rw [wayWith, if_neg hdot, if_neg hdots]
  split
  next path hstep => exact absurd hstep (hlink path)
  next => exact if_neg hnames

end

/-- How steps lead to a target: through directories, and along links, of which one at the end may
be the target itself. -/
inductive Goes (tree : Tree) (follows : Bool) : ℕ → Bool → Location → List String → Target → Prop
  | arrived {links : ℕ} {slash : Bool} {here : Location} :
    Goes tree follows links slash here [] (.directory here)
  | stay {links : ℕ} {slash : Bool} {here : Location} {names : List String} {t : Target}
    (h : Goes tree follows links slash here names t) :
    Goes tree follows links slash here ("." :: names) t
  | up {links : ℕ} {slash : Bool} {here : Location} {names : List String} {t : Target}
    (h : Goes tree follows links slash here.dropLast names t) :
    Goes tree follows links slash here (".." :: names) t
  | into {links : ℕ} {slash : Bool} {here : Location} {name : String} {names : List String}
    {t : Target} (hdot : name ≠ ".") (hdots : name ≠ "..")
    (hstep : tree.step here name = .ok .directory) (hnames : names ≠ [])
    (h : Goes tree follows links slash (here ++ [name]) names t) :
    Goes tree follows links slash here (name :: names) t
  | onward {links : ℕ} {slash : Bool} {here : Location} {name path : String} {names : List String}
    {t : Target} (hdot : name ≠ ".") (hdots : name ≠ "..")
    (hstep : tree.step here name = .ok (.link path)) (hfollows : names = [] → follows = true)
    (h : Goes tree follows links (slash || (names.isEmpty && endsInSlash path))
      (beginning here path) (steps path ++ names) t) :
    Goes tree follows (links + 1) slash here (name :: names) t
  | named {links : ℕ} {slash : Bool} {here : Location} {name : String} (hdot : name ≠ ".")
    (hdots : name ≠ "..")
    (hlink : ∀ path, tree.step here name = .ok (.link path) → follows = false) :
    Goes tree follows links slash here [name] (.named here name slash)

/-! The way as the rules of `Goes` have it. -/

theorem way_nil : tree.way follows links slash here [] = .ok (.directory here) := by
  cases links <;> rfl

theorem way_stay :
    tree.way follows links slash here ("." :: names) = tree.way follows links slash here names := by
  cases links <;> rfl

theorem way_up : tree.way follows links slash here (".." :: names) =
    tree.way follows links slash here.dropLast names := by
  cases links <;> rfl

theorem way_into (hdot : name ≠ ".") (hdots : name ≠ "..")
    (hstep : tree.step here name = .ok .directory) (hnames : names ≠ []) :
    tree.way follows links slash here (name :: names) =
      tree.way follows links slash (here ++ [name]) names := by
  have hlink : ∀ path, tree.step here name ≠ .ok (.link path) := by simp [hstep]
  cases links <;> rw [way, wayWith_through hdot hdots hlink hnames, hstep]

theorem way_error (hdot : name ≠ ".") (hdots : name ≠ "..")
    (hstep : tree.step here name = .error e) (hnames : names ≠ []) :
    tree.way follows links slash here (name :: names) = .error e := by
  have hlink : ∀ path, tree.step here name ≠ .ok (.link path) := by simp [hstep]
  cases links <;> rw [way, wayWith_through hdot hdots hlink hnames, hstep]

theorem way_onward (hdot : name ≠ ".") (hdots : name ≠ "..")
    (hstep : tree.step here name = .ok (.link path)) (hfollows : names = [] → follows = true) :
    tree.way follows (links + 1) slash here (name :: names) =
      tree.way follows links (slash || (names.isEmpty && endsInSlash path)) (beginning here path)
        (steps path ++ names) := by
  rw [way, wayWith_link hdot hdots hstep]
  exact if_neg fun hlast => by simp [hfollows hlast.1] at hlast

theorem way_named (hdot : name ≠ ".") (hdots : name ≠ "..")
    (hlink : ∀ path, tree.step here name = .ok (.link path) → follows = false) :
    tree.way follows links slash here [name] = .ok (.named here name slash) := by
  by_cases hstep : ∃ path, tree.step here name = .ok (.link path)
  · obtain ⟨path, hstep⟩ := hstep
    have hno := hlink path hstep
    cases links <;> rw [way, wayWith_link hdot hdots hstep] <;> exact if_pos ⟨rfl, by simp [hno]⟩
  · cases links <;> exact wayWith_last hdot hdots (not_exists.1 hstep)

theorem Goes.way (h : tree.Goes follows links slash here names t) :
    tree.way follows links slash here names = .ok t := by
  induction h with
  | arrived => exact way_nil
  | stay _ ih => exact way_stay.trans ih
  | up _ ih => exact way_up.trans ih
  | into hdot hdots hstep hnames _ ih => exact (way_into hdot hdots hstep hnames).trans ih
  | onward hdot hdots hstep hfollows _ ih => exact (way_onward hdot hdots hstep hfollows).trans ih
  | named hdot hdots hlink => exact way_named hdot hdots hlink

theorem goes_of_wayWith
    (honward : ∀ slash here names t, onward slash here names = .ok t →
      ∃ m, links = m + 1 ∧ tree.Goes follows m slash here names t)
    (h : tree.wayWith follows onward slash here names = .ok t) :
    tree.Goes follows links slash here names t := by
  induction names generalizing here with
  | nil =>
    cases h
    exact .arrived
  | cons name names ih =>
    by_cases hdot : name = "."
    · subst hdot
      exact .stay (ih h)
    by_cases hdots : name = ".."
    · subst hdots
      exact .up (ih h)
    by_cases hlink : ∃ path, tree.step here name = .ok (.link path)
    · obtain ⟨path, hstep⟩ := hlink
      rw [wayWith_link hdot hdots hstep] at h
      split at h
      next hlast =>
        obtain ⟨rfl, hfollows⟩ := hlast
        cases h
        exact .named hdot hdots fun _ _ => by simpa using hfollows
      next hlast =>
        obtain ⟨m, rfl, hgoes⟩ := honward _ _ _ _ h
        exact .onward hdot hdots hstep (fun hnames => by simpa [hnames] using hlast) hgoes
    · rw [not_exists] at hlink
      by_cases hnames : names = []
      · subst hnames
        rw [wayWith_last hdot hdots hlink] at h
        cases h
        exact .named hdot hdots fun path hstep => absurd hstep (hlink path)
      · rw [wayWith_through hdot hdots hlink hnames] at h
        split at h
        next hstep => exact .into hdot hdots hstep hnames (ih h)
        next => cases h
        next => cases h

theorem way_eq_ok_iff : tree.way follows links slash here names = .ok t ↔
    tree.Goes follows links slash here names t := by
  refine ⟨fun h => ?_, Goes.way⟩
  induction links generalizing slash here names t with
  | zero => exact goes_of_wayWith (fun _ _ _ _ h => by cases h) h
  | succ links ih => exact goes_of_wayWith (fun _ _ _ _ h => ⟨links, rfl, ih h⟩) h

/-- Directories and links are where they were, so that every path leads where it did. -/
structure SameWays (tree tree' : Tree) : Prop where
  workingDirectory : tree'.workingDirectory = tree.workingDirectory
  directory : ∀ here, tree'.lookup? here = some .directory ↔ tree.lookup? here = some .directory
  link : ∀ here path,
    tree'.lookup? here = some (.link path) ↔ tree.lookup? here = some (.link path)

theorem Goes.sameWays (h : tree.Goes follows links slash here names t)
    (hsame : SameWays tree tree') : tree'.Goes follows links slash here names t := by
  induction h with
  | arrived => exact .arrived
  | stay _ ih => exact .stay ih
  | up _ ih => exact .up ih
  | into hdot hdots hstep hnames _ ih =>
    rw [step_eq_ok_iff, ← hsame.directory, ← step_eq_ok_iff] at hstep
    exact .into hdot hdots hstep hnames ih
  | onward hdot hdots hstep hfollows _ ih =>
    rw [step_eq_ok_iff, ← hsame.link, ← step_eq_ok_iff] at hstep
    exact .onward hdot hdots hstep hfollows ih
  | named hdot hdots hlink =>
    refine .named hdot hdots fun path hstep => hlink path ?_
    rwa [step_eq_ok_iff, hsame.link, ← step_eq_ok_iff] at hstep

/-- Once the entry at the end of a way is gone, the way leads there as before, or a link on it was
that entry and the way is lost. -/
theorem Goes.erase {directory : Location} {name : String} {last : Bool}
    (h : tree.Goes false links slash here names (.named directory name last))
    (hentry : tree.lookup? (directory ++ [name]) ≠ some .directory) (follows : Bool) :
    let erased := tree.erase (directory ++ [name])
    erased.way follows links slash here names = .ok (.named directory name last) ∨
      erased.way follows links slash here names = .error .notFound := by
  intro erased
  have hgone : erased.lookup? (directory ++ [name]) = none := lookup?_erase_self (by simp)
  have hstays {here : Location} (h : here ≠ directory ++ [name]) :
      erased.lookup? here = tree.lookup? here := lookup?_erase_of_ne h
  generalize ht : Target.named directory name last = t at h
  induction h with
  | arrived => cases ht
  | stay _ ih =>
    rw [way_stay]
    exact ih ht
  | up _ ih =>
    rw [way_up]
    exact ih ht
  | @into _ _ here next _ _ hdot hdots hstep hnames _ ih =>
    have hne : here ++ [next] ≠ directory ++ [name] := by
      intro h
      rw [step_eq_ok_iff, h] at hstep
      exact hentry hstep.2
    have hstep' : erased.step here next = .ok .directory := by
      rwa [step_eq_ok_iff, hstays hne, ← step_eq_ok_iff]
    rw [way_into hdot hdots hstep' hnames]
    exact ih ht
  | @onward _ _ here next path _ _ hdot hdots hstep hfollows _ ih =>
    have hnames := fun h => Bool.false_ne_true (hfollows h)
    by_cases hhere : here ++ [next] = directory ++ [name]
    · right
      have hstep' : erased.step here next = .error .notFound :=
        step_eq_notFound_iff.2 ⟨(step_eq_ok_iff.1 hstep).1, by rw [hhere, hgone]⟩
      exact way_error hdot hdots hstep' hnames
    · have hstep' : erased.step here next = .ok (.link path) := by
        rwa [step_eq_ok_iff, hstays hhere, ← step_eq_ok_iff]
      rw [way_onward hdot hdots hstep' fun h => absurd h hnames]
      exact ih ht
  | named hdot hdots _ =>
    cases ht
    left
    refine way_named hdot hdots fun path hstep => ?_
    rw [step_eq_ok_iff, hgone] at hstep
    cases hstep.2

end Way

end LayeredConfig.Files.Tree
