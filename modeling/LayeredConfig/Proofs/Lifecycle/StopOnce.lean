import LayeredConfig.Proofs.Lifecycle.History
import Mathlib.Data.List.Nodup

namespace LayeredConfig.Lifecycle

/-- Events of components that were asked for with these numbers; none of them is stopped. -/
def Early (n m : ℕ) (own : List Event) : Prop :=
  ∀ e ∈ own, e.stopped? = none ∧ n ≤ e.handle.serial ∧ e.handle.serial < m

namespace Early

variable {n m : ℕ} {own : List Event} {live : List Member}

theorem nil (n m : ℕ) : Early n m [] := by
  intro e he
  cases he

theorem birth (c : Member) (dependencies : List Handle) :
    Early c.serial (c.serial + 1) (c.birth dependencies) := by
  intro e he
  have hhandle : e.stopped? = none ∧ e.handle = c.handle := by
    unfold Member.birth at he
    cases hstart : c.script.canStart <;> simp [hstart] at he
    · subst he
      exact ⟨rfl, rfl⟩
    · rcases he with rfl | rfl
      · exact ⟨rfl, rfl⟩
      · exact ⟨rfl, rfl⟩
  rw [hhandle.2]
  exact ⟨hhandle.1, Nat.le_refl _, Nat.lt_succ_self _⟩

theorem new {handle : Handle} {dependencies : List Handle} :
    Early handle.serial (handle.serial + 1) [.new handle dependencies] := by
  intro e he
  obtain rfl := List.mem_singleton.1 he
  exact ⟨rfl, Nat.le_refl _, Nat.lt_succ_self _⟩

/-- A constructor that fails wrote nothing down, or what it was called for. -/
theorem unbuilt {handle : Handle}
    (h : own = [] ∨ ∃ dependencies, own = [.new handle dependencies]) :
    Early handle.serial (handle.serial + 1) own := by
  rcases h with rfl | ⟨dependencies, rfl⟩
  · exact .nil _ _
  · exact .new

theorem stop_not_mem (h : Early n m own) (handle : Handle) : .stop handle ∉ own := by
  intro hmem
  cases (h _ hmem).1

theorem count_stop (h : Early n m own) (handle : Handle) : own.count (Event.stop handle) = 0 :=
  List.count_eq_zero_of_not_mem (h.stop_not_mem handle)

theorem serial_of_built (h : Early n m own) {handle : Handle}
    (hbuilt : handle ∈ (own ++ stops live).filterMap Event.built?) :
    n ≤ handle.serial ∧ handle.serial < m := by
  obtain ⟨e, hmem, hhandle⟩ := List.mem_filterMap.1 hbuilt
  rcases List.mem_append.1 hmem with hmem | hmem
  · cases e with
    | new built dependencies =>
      cases hhandle
      exact (h _ hmem).2
    | start started => cases hhandle
    | stop stopped => cases hhandle
  · obtain ⟨c, -, -, rfl⟩ := mem_stops_iff.1 hmem
    cases hhandle

end Early

/-! ### The order of stops -/

/-- An entry of two lists in a row is in the first or in the second. -/
theorem split_append {α : Type} {xs ys before after : List α} {x : α}
    (h : xs ++ ys = before ++ x :: after) :
    (∃ rest, xs = before ++ x :: rest) ∨
      ∃ front, before = xs ++ front ∧ ys = front ++ x :: after := by
  rcases List.append_eq_append_iff.1 h with ⟨front, hbefore, hys⟩ | ⟨rest, hxs, hrest⟩
  · exact .inr ⟨front, hbefore, hys⟩
  · cases rest with
    | nil => exact .inr ⟨[], by simpa using hxs.symm, by simpa using hrest.symm⟩
    | cons y rest =>
      obtain ⟨rfl, -⟩ := List.cons.inj hrest
      exact .inl ⟨rest, hxs⟩

/-- When a component is stopped, those that were constructed and added after it, and can be stopped,
have been stopped: those that run before the journal, and those that are added during it. -/
def Reversed (live added : List Member) (journal : List Event) : Prop :=
  ∀ c ∈ live ++ added, ∀ c' ∈ live ++ added, c.serial < c'.serial → c'.script.canStop →
    ∀ before after, journal = before ++ Event.stop c.handle :: after →
      (c' ∈ live ∨ ∃ dependencies, Event.new c'.handle dependencies ∈ before) →
      Event.stop c'.handle ∈ before

namespace Reversed

variable {n m : ℕ} {live added : List Member} {journal own : List Event}

theorem grown {c : Member} (dependencies : List Handle)
    (hfresh : ∀ c' ∈ added, c.serial < c'.serial) (h : Reversed (c :: live) added journal) :
    Reversed live (c :: added) (c.birth dependencies ++ journal) := by
  intro c₁ hc₁ c₂ hc₂ hlt hstop before after hsplit hborn
  have hearly := Early.birth c dependencies
  obtain ⟨rest, hbirth⟩ | ⟨front, rfl, hjournal⟩ := split_append hsplit
  · exact absurd (by simp [hbirth]) (hearly.stop_not_mem c₁.handle)
  have hc₁ : c₁ ∈ c :: live ++ added := List.perm_middle.subset hc₁
  have hc₂ : c₂ ∈ c :: live ++ added := List.perm_middle.subset hc₂
  refine List.mem_append_right _ (h c₁ hc₁ c₂ hc₂ hlt hstop front after hjournal ?_)
  rcases hborn with hc₂ | ⟨ds, hnew⟩
  · exact .inl (List.mem_cons_of_mem _ hc₂)
  · rcases List.mem_append.1 hnew with hnew | hnew
    · -- only the new component has its number
      have hserial : c₂.serial < c.serial + 1 := (hearly _ hnew).2.2
      refine .inl ((List.mem_append.1 hc₂).resolve_right fun hadded => ?_)
      exact absurd hserial (Nat.not_lt.2 (hfresh c₂ hadded))
    · exact .inr ⟨ds, hnew⟩

theorem popped (hlive : Descends n live) (hown : Early n m own) (hle : n ≤ m)
    (hfresh : ∀ c ∈ added, m ≤ c.serial) (hstopped : ∀ c ∈ live, .stop c.handle ∉ journal)
    (h : Reversed [] added journal) : Reversed live added (own ++ stops live ++ journal) := by
  intro c₁ hc₁ c₂ hc₂ hlt hstop before after hsplit hborn
  rw [List.append_assoc] at hsplit
  obtain ⟨rest, hrest⟩ | ⟨front, rfl, hfront⟩ := split_append hsplit
  · exact absurd (by simp [hrest]) (hown.stop_not_mem c₁.handle)
  have hfront_new (hadded : c₂ ∈ added) : ∃ ds, Event.new c₂.handle ds ∈ front := by
    have hge : m ≤ c₂.serial := hfresh c₂ hadded
    rcases hborn with hc₂ | ⟨ds, hnew⟩
    · have hlt₂ := hlive.lt c₂ hc₂
      omega
    · refine ⟨ds, (List.mem_append.1 hnew).resolve_left fun hnew => ?_⟩
      exact absurd (hown _ hnew).2.2 (Nat.not_lt.2 hge)
  have hstops_new (ds : List Handle) : Event.new c₂.handle ds ∉ stops live := by
    intro hnew
    obtain ⟨c, -, -, heq⟩ := mem_stops_iff.1 hnew
    cases heq
  refine List.mem_append_right _ ?_
  obtain ⟨rest, hstops⟩ | ⟨last, rfl, hjournal⟩ := split_append hfront
  · -- while what ran is stopped, what will be added is not constructed yet
    have hrunning : c₂ ∈ live := by
      refine (List.mem_append.1 hc₂).resolve_right fun hadded => ?_
      obtain ⟨ds, hnew⟩ := hfront_new hadded
      exact hstops_new ds (by simp [hstops, hnew])
    exact hlive.stop_mem_of_stops_eq hrunning hstop hlt hstops
  · rcases List.mem_append.1 hc₂ with hrunning | hadded
    · exact List.mem_append_left _ (mem_stops_iff.2 ⟨c₂, hrunning, hstop, rfl⟩)
    · obtain ⟨ds, hnew⟩ := hfront_new hadded
      have hlast := (List.mem_append.1 hnew).resolve_left (hstops_new ds)
      have hc₁ : c₁ ∈ added :=
        (List.mem_append.1 hc₁).resolve_left fun hrunning =>
          hstopped c₁ hrunning (by simp [hjournal])
      exact List.mem_append_right _
        (h c₁ hc₁ c₂ hadded hlt hstop last after hjournal (.inr ⟨ds, hlast⟩))

end Reversed

/-! ### What the rest of a journal owes -/

/-- What a journal owes the components that run before it, those that are added during it and those
that are constructed in vain, when so many were asked for before. -/
structure Settles (n : ℕ) (live added : List Member) (discarded : List Handle)
    (journal : List Event) : Prop where
  fresh : ∀ c ∈ added, n ≤ c.serial
  vain : ∀ handle ∈ discarded, n ≤ handle.serial
  ordered : added.Pairwise fun c c' => c.serial < c'.serial
  only : ∀ handle, Event.stop handle ∈ journal →
    ∃ c ∈ live ++ added, c.script.canStop ∧ c.handle = handle
  never : ∀ handle ∈ discarded, .stop handle ∉ journal
  once : ∀ c ∈ live ++ added, c.script.canStop → journal.count (Event.stop c.handle) = 1
  lived : ∀ c ∈ added, c.script.canStop →
    ∃ dependencies, (c.birth dependencies ++ [Event.stop c.handle]).Sublist journal
  reverse : Reversed live added journal

namespace Settles

variable {n m : ℕ} {live added : List Member} {discarded dead : List Handle}
  {journal own : List Event}

theorem nil (n : ℕ) : Settles n [] [] [] [] where
  fresh _ hc := by cases hc
  vain _ hmem := by cases hmem
  ordered := .nil
  only _ hmem := by cases hmem
  never _ hmem := by cases hmem
  once _ hc := by cases hc
  lived _ hc := by cases hc
  reverse _ hc := by cases hc

theorem mono (h : Settles m live added discarded journal) (hle : n ≤ m) :
    Settles n live added discarded journal :=
  { h with
    fresh := fun c hc => Nat.le_trans hle (h.fresh c hc)
    vain := fun handle hmem => Nat.le_trans hle (h.vain handle hmem) }

/-- What will be added is not what was asked for before. -/
theorem stop_not_mem (h : Settles m [] added discarded journal) {handle : Handle}
    (hlt : handle.serial < m) : .stop handle ∉ journal := by
  intro hmem
  obtain ⟨c, hc, -, rfl⟩ := h.only handle hmem
  have hfresh : m ≤ c.serial := h.fresh c (by simpa using hc)
  exact absurd hlt (Nat.not_lt.2 hfresh)

/-- A component is added. -/
theorem grown (c : Member) (dependencies : List Handle) (hlive : Descends c.serial live)
    (h : Settles (c.serial + 1) (c :: live) added discarded journal) :
    Settles c.serial live (c :: added) discarded (c.birth dependencies ++ journal) := by
  have hearly := Early.birth c dependencies
  have hmem {c' : Member} : c' ∈ live ++ c :: added ↔ c' ∈ c :: live ++ added := by
    simp only [List.cons_append, List.mem_append, List.mem_cons]
    tauto
  -- Nothing is stopped by an addition that succeeds.
  have hrest {handle : Handle} (hstop : .stop handle ∈ c.birth dependencies ++ journal) :
      .stop handle ∈ journal :=
    (List.mem_append.1 hstop).resolve_left (hearly.stop_not_mem handle)
  constructor
  case fresh =>
    intro c' hc'
    rcases List.mem_cons.1 hc' with rfl | hc'
    · exact Nat.le_refl _
    · exact Nat.le_of_succ_le (h.fresh c' hc')
  case vain => exact fun handle hdead => Nat.le_of_succ_le (h.vain handle hdead)
  case ordered => exact List.pairwise_cons.2 ⟨h.fresh, h.ordered⟩
  case only =>
    intro handle hstop
    obtain ⟨c', hc', hhook⟩ := h.only handle (hrest hstop)
    exact ⟨c', hmem.2 hc', hhook⟩
  case never => exact fun handle hdead hstop => h.never handle hdead (hrest hstop)
  case once =>
    intro c' hc' hstop
    rw [List.count_append, hearly.count_stop, Nat.zero_add]
    exact h.once c' (hmem.1 hc') hstop
  case lived =>
    intro c' hc' hstop
    rcases List.mem_cons.1 hc' with rfl | hc'
    · have hcount := h.once c' (by simp) hstop
      have hstopped : Event.stop c'.handle ∈ journal := by
        rw [← List.count_pos_iff, hcount]
        exact Nat.one_pos
      exact ⟨dependencies, (List.Sublist.refl _).append (List.singleton_sublist.2 hstopped)⟩
    · obtain ⟨ds, hsublist⟩ := h.lived c' hc' hstop
      exact ⟨ds, hsublist.trans (List.sublist_append_right _ _)⟩
  case reverse => exact .grown dependencies h.fresh h.reverse

/-- Everything that runs is stopped. -/
theorem popped (hlive : Descends n live) (hown : Early n m own) (hle : n ≤ m)
    (hdead : ∀ handle ∈ dead, n ≤ handle.serial ∧ handle.serial < m)
    (h : Settles m [] added discarded journal) :
    Settles n live added (dead ++ discarded) (own ++ stops live ++ journal) := by
  -- What is stopped now ran before; what is stopped later is added later.
  have hmem {e : Event} {handle : Handle} (he : e = .stop handle) :
      e ∈ own ++ stops live ++ journal ↔ e ∈ stops live ∨ e ∈ journal := by
    subst he
    simp [hown.stop_not_mem handle]
  constructor
  case fresh => exact fun c hc => Nat.le_trans hle (h.fresh c hc)
  case vain =>
    intro handle hdiscarded
    rcases List.mem_append.1 hdiscarded with hfailed | hfailed
    · exact (hdead handle hfailed).1
    · exact Nat.le_trans hle (h.vain handle hfailed)
  case ordered => exact h.ordered
  case only =>
    intro handle hstop
    rcases (hmem rfl).1 hstop with hstop | hstop
    · obtain ⟨c, hc, hhook, heq⟩ := mem_stops_iff.1 hstop
      cases heq
      exact ⟨c, List.mem_append_left _ hc, hhook, rfl⟩
    · obtain ⟨c, hc, hhook⟩ := h.only handle hstop
      exact ⟨c, List.mem_append_right _ hc, hhook⟩
  case never =>
    intro handle hdiscarded hstop
    rcases List.mem_append.1 hdiscarded with hfailed | hfailed
    · obtain ⟨hge, hlt⟩ := hdead handle hfailed
      rcases (hmem rfl).1 hstop with hstop | hstop
      · exact hlive.stop_not_mem_stops hge hstop
      · exact h.stop_not_mem hlt hstop
    · rcases (hmem rfl).1 hstop with hstop | hstop
      · exact hlive.stop_not_mem_stops (Nat.le_trans hle (h.vain handle hfailed)) hstop
      · exact h.never handle hfailed hstop
  case once =>
    intro c hc hstop
    rw [List.count_append, List.count_append, hown.count_stop, Nat.zero_add]
    rcases List.mem_append.1 hc with hc | hc
    · have hstops : (stops live).count (.stop c.handle) = 1 :=
        List.count_eq_one_of_mem hlive.nodup_stops (mem_stops_iff.2 ⟨c, hc, hstop, rfl⟩)
      have hlt : c.handle.serial < m := Nat.lt_of_lt_of_le (hlive.lt c hc) hle
      rw [hstops, List.count_eq_zero_of_not_mem (h.stop_not_mem hlt)]
    · have hge : n ≤ c.handle.serial := Nat.le_trans hle (h.fresh c hc)
      rw [List.count_eq_zero_of_not_mem (hlive.stop_not_mem_stops hge), Nat.zero_add]
      exact h.once c (List.mem_append_right _ hc) hstop
  case lived =>
    intro c hc hstop
    obtain ⟨ds, hsublist⟩ := h.lived c hc hstop
    exact ⟨ds, hsublist.trans (List.sublist_append_right _ _)⟩
  case reverse =>
    refine .popped hlive hown hle h.fresh (fun c hc => ?_) h.reverse
    have hlt : c.handle.serial < m := Nat.lt_of_lt_of_le (hlive.lt c hc) hle
    exact h.stop_not_mem hlt

theorem popped_only (hlive : Descends n live) (h : Settles n [] added discarded journal) :
    Settles n live added discarded (stops live ++ journal) := by
  have hdead (handle : Handle) (hmem : handle ∈ []) :
      n ≤ handle.serial ∧ handle.serial < n := by cases hmem
  exact popped hlive (.nil n n) (Nat.le_refl n) hdead h

end Settles

namespace Scenario

variable {scenario : Scenario} {live : List Member}

theorem Tracks.settles_nil (h : scenario.Tracks live) :
    Settles scenario.serial live [] [] (scenario.journal []) := by
  rw [h.runs.journal_nil h.gone, ← List.append_nil (stops live)]
  exact .popped_only h.descends (.nil scenario.serial)

theorem Tracks.settles (h : scenario.Tracks live) (steps : List Step) :
    Settles scenario.serial live (added (scenario.history steps))
      (discarded (scenario.history steps)) (scenario.journal steps) := by
  induction steps generalizing scenario live with
  | nil => exact h.settles_nil
  | cons s steps ih =>
    have houtcome := h.runs.outcome s
    have hrest := ih (h.next houtcome)
    rw [history_cons, journal_cons, added_cons, discarded_cons]
    generalize scenario.report s = r at houtcome hrest ⊢
    cases houtcome with
    | gone s hnone =>
      cases s <;> exact hrest
    | refused o script failed hsome hfailed =>
      exact hrest.mono (Nat.le_succ _)
    | unbuilt o script f own hsome hfailed hown =>
      have hearly := Early.unbuilt hown
      exact .popped h.descends hearly (Nat.le_succ _) (fun _ => hearly.serial_of_built) hrest
    | checked o script dependencies hsome hfailed hmode =>
      exact absurd ((h.mode o hsome).symm.trans hmode) (by decide)
    | unstarted o script dependencies f hsome hfailed hmode hstart =>
      have hearly := Early.birth (scenario.candidate script) dependencies
      exact .popped h.descends hearly (Nat.le_succ _) (fun _ => hearly.serial_of_built) hrest
    | added o script dependencies hsome hfailed hmode hstart =>
      exact .grown (scenario.candidate script) dependencies h.descends hrest
    | shutdown o hsome =>
      exact .popped_only h.descends hrest
    | ended s o hs hsome =>
      rcases hs with rfl | rfl
      · exact .popped_only h.descends hrest
      · exact .popped_only h.descends hrest

/-- Whatever is added in run mode is stopped once, after its start, before all that was added
earlier; and `running` names what was added since everything was stopped. -/
theorem added_stops_once (steps : List Step) :
    (∀ before e after, (begin .run).history steps = before ++ e :: after →
      e.2.scenario.running = (roster (before ++ [e])).map (·.script.name)) ∧
    ((added ((begin .run).history steps)).map Member.handle).Nodup ∧
    (∀ c ∈ added ((begin .run).history steps), c.script.canStop →
      ((begin .run).journal steps).count (Event.stop c.handle) = 1 ∧
      ∃ dependencies, (c.birth dependencies ++ [Event.stop c.handle]).Sublist
        ((begin .run).journal steps)) ∧
    (∀ handle, Event.stop handle ∈ (begin .run).journal steps →
      ∃ c ∈ added ((begin .run).history steps), c.script.canStop ∧ c.handle = handle) ∧
    (∀ handle ∈ discarded ((begin .run).history steps),
      Event.stop handle ∉ (begin .run).journal steps) ∧
    ∀ earlier later, [earlier, later].Sublist (added ((begin .run).history steps)) →
      later.script.canStop → ∀ before after,
        (begin .run).journal steps = before ++ Event.stop earlier.handle :: after →
          (∃ dependencies, Event.new later.handle dependencies ∈ before) →
            Event.stop later.handle ∈ before := by
  have hsettles := tracks_begin.settles steps
  refine ⟨?_, ?_, ?_, ?_, hsettles.never, ?_⟩
  · intro before e after hhistory
    exact tracks_begin.running_history steps hhistory
  · rw [List.Nodup, List.pairwise_map]
    refine hsettles.ordered.imp fun {c c'} hlt heq => ?_
    unfold Member.serial at hlt
    rw [heq] at hlt
    exact Nat.lt_irrefl _ hlt
  · exact fun c hc hstop => ⟨hsettles.once c hc hstop, hsettles.lived c hc hstop⟩
  · exact hsettles.only
  · intro earlier later hsublist hstop before after hjournal hnew
    have hpairwise := hsettles.ordered.sublist hsublist
    have hlt := (List.pairwise_cons.1 hpairwise).1 later (by simp)
    exact hsettles.reverse earlier (hsublist.subset (by simp)) later (hsublist.subset (by simp)) hlt
      hstop before after hjournal (.inr hnew)

end Scenario

end LayeredConfig.Lifecycle
