import LayeredConfig.Lifecycle.Orchestrator
import Mathlib.Data.List.Basic

namespace LayeredConfig.Lifecycle

variable {σ ε α β : Type}

/-- What follows an action goes on with its result and its state. -/
theorem run_bind_of_run {x : StateM σ α} {f : α → StateM σ β} {a : α} {s t : σ}
    (h : x.run s = (a, t)) : (x >>= f).run s = (f a).run t := by
  rw [StateT.run_bind, h]
  rfl

/-- Components without a stop hook need no stopping. -/
theorem stopEach_of_hookless {m : Type → Type} [Monad m] (tell : Notice ε → m Unit)
    {live : List (Running m ε)} (h : ∀ c ∈ live, c.stop = none) : stopEach tell live = pure [] := by
  induction live with
  | nil => rfl
  | cons c live ih =>
    obtain ⟨name, stop⟩ := c
    obtain rfl : stop = none := h ⟨name, stop⟩ (by simp)
    exact ih fun c hc => h c (by simp [hc])

namespace Orchestrator

variable {o o' : Orchestrator (StateM σ) ε} {d : Descriptor (StateM σ) ε α}
  {construct : StateM σ (Except ε α)} {component : α} {e : ε} {s t u v : σ}

def Hookless (o : Orchestrator (StateM σ) ε) : Prop := ∀ c ∈ o.started, c.stop = none

theorem hookless_of_nil (h : o.started = []) : o.Hookless := by simp [Hookless, h]

theorem Hookless.shutdown (h : o.Hookless) (s : σ) :
    o.shutdown.run s = (([], { o with started := [] }), s) := by
  rw [Orchestrator.shutdown, stopEach_of_hookless o.tell h]
  rfl

theorem Hookless.drop (h : o.Hookless) (s : σ) : o.drop.run s = ((), s) := by
  rw [Orchestrator.drop, run_bind_of_run (h.shutdown s)]
  rfl

theorem Hookless.fail (h : o.Hookless) (name : String) (s : σ) :
    (o.fail name).run s = ({ o with started := [], failed := some name }, s) := by
  have hfailed : Hookless { o with failed := some name } := h
  rw [Orchestrator.fail, run_bind_of_run (hfailed.shutdown s)]
  rfl

theorem add_unbuilt (hfailed : o.failed = none) (hconstruct : construct.run s = (.error e, t))
    (hfail : (o.fail d.name).run t = (o', u)) :
    (o.add d construct).run s = ((.error (.construction d.name e), o'), u) := by
  rw [add, hfailed]
  exact (run_bind_of_run hconstruct).trans (run_bind_of_run hfail)

/-- What telling a notice does to the state. -/
def Tells (o : Orchestrator (StateM σ) ε) (told : Notice ε → σ → σ) : Prop :=
  ∀ notice s, (o.tell notice).run s = ((), told notice s)

variable {told : Notice ε → σ → σ} {start : α → StateM σ (Except ε Unit)}

theorem Tells.add_check (h : o.Tells told) (hfailed : o.failed = none) (hmode : o.mode = .check)
    (hconstruct : construct.run s = (.ok component, t)) :
    (o.add d construct).run s =
      ((.ok component, { o with constructed := o.constructed ++ [d.name] }),
        told (.initialized d.name) t) := by
  rw [add, hfailed]
  refine (run_bind_of_run hconstruct).trans ((run_bind_of_run (h _ t)).trans ?_)
  simp only [hmode]
  rfl

theorem Tells.startHook_ok (h : o.Tells told) (hstart : d.start = some start)
    (hrun : (start component).run s = (.ok (), t)) :
    (o.startHook d component).run s = (.ok (), told (.started d.name) t) := by
  rw [Orchestrator.startHook, hstart]
  exact (run_bind_of_run hrun).trans (run_bind_of_run (h _ t))

theorem Tells.add_unstarted (h : o.Tells told) (hfailed : o.failed = none) (hmode : o.mode = .run)
    (hconstruct : construct.run s = (.ok component, t))
    (hhook : (o.startHook d component).run (told (.initialized d.name) t) = (.error e, u))
    (hfail : (fail { o with constructed := o.constructed ++ [d.name] } d.name).run u = (o', v)) :
    (o.add d construct).run s = ((.error (.start d.name e), o'), v) := by
  obtain ⟨mode, tell, started, constructed, failed⟩ := o
  obtain rfl : failed = none := hfailed
  obtain rfl : mode = .run := hmode
  rw [add]
  refine (run_bind_of_run hconstruct).trans ((run_bind_of_run (h _ t)).trans ?_)
  exact (run_bind_of_run hhook).trans (run_bind_of_run hfail)

theorem Tells.add_ok (h : o.Tells told) (hfailed : o.failed = none) (hmode : o.mode = .run)
    (hconstruct : construct.run s = (.ok component, t))
    (hhook : (o.startHook d component).run (told (.initialized d.name) t) = (.ok (), u)) :
    (o.add d construct).run s =
      ((.ok component,
        { o with
          started := ⟨d.name, d.stop.map fun stop => stop component⟩ :: o.started
          constructed := o.constructed ++ [d.name] }), u) := by
  obtain ⟨mode, tell, started, constructed, failed⟩ := o
  obtain rfl : failed = none := hfailed
  obtain rfl : mode = .run := hmode
  rw [add]
  refine (run_bind_of_run hconstruct).trans ((run_bind_of_run (h _ t)).trans ?_)
  exact run_bind_of_run hhook

end Orchestrator

end LayeredConfig.Lifecycle
