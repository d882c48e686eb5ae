import LayeredConfig.Outcome
import Mathlib.Data.List.Basic

namespace LayeredConfig.Outcome

variable {ε δ α β γ : Type}

@[simp] theorem value_done (a : α) : (done a : Outcome ε α).value = a := rfl

@[simp] theorem error_done (a : α) : (done a : Outcome ε α).error = none := rfl

@[simp] theorem value_failed (a : α) (e : ε) : (failed a e).value = a := rfl

@[simp] theorem error_failed (a : α) (e : ε) : (failed a e).error = some e := rfl

@[simp] theorem value_map (f : α → β) (o : Outcome ε α) : (o.map f).value = f o.value := rfl

@[simp] theorem error_map (f : α → β) (o : Outcome ε α) : (o.map f).error = o.error := rfl

@[simp] theorem value_mapError (f : ε → δ) (o : Outcome ε α) :
    (o.mapError f).value = o.value := rfl

@[simp] theorem map_done (f : α → β) (a : α) : (done a : Outcome ε α).map f = done (f a) := rfl

@[simp] theorem done_andThen (a : α) (next : α → Outcome ε α) :
    (done a).andThen next = next a := rfl

@[simp] theorem toExcept_done (a : α) : (done a : Outcome ε α).toExcept = .ok a := rfl

theorem eq_done_iff {o : Outcome ε α} {a : α} : o = done a ↔ o.error = none ∧ o.value = a := by
  cases o
  simp [done, and_comm]

theorem eq_failed_iff {o : Outcome ε α} {a : α} {e : ε} :
    o = failed a e ↔ o.error = some e ∧ o.value = a := by
  cases o
  simp [failed, and_comm]

theorem eq_failed_of_error {o : Outcome ε α} {e : ε} (h : o.error = some e) :
    o = failed o.value e :=
  eq_failed_iff.2 ⟨h, rfl⟩

@[simp] theorem done_inj {a b : α} : (done a : Outcome ε α) = done b ↔ a = b := by
  simp [eq_done_iff]

@[simp] theorem failed_ne_done {a b : α} {e : ε} : failed a e ≠ done b := by
  simp [eq_done_iff]

@[simp] theorem done_ne_failed {a b : α} {e : ε} : done a ≠ failed b e :=
  failed_ne_done.symm

@[simp] theorem failed_inj {a b : α} {e e' : ε} : failed a e = failed b e' ↔ a = b ∧ e = e' := by
  simp [eq_failed_iff, and_comm]

theorem map_eq_done_iff {f : α → β} {o : Outcome ε α} {b : β} :
    o.map f = done b ↔ ∃ a, o = done a ∧ f a = b := by
  simp [eq_done_iff]

theorem map_eq_failed_iff {f : α → β} {o : Outcome ε α} {b : β} {e : ε} :
    o.map f = failed b e ↔ ∃ a, o = failed a e ∧ f a = b := by
  simp [eq_failed_iff]

theorem mapError_eq_done_iff {f : ε → δ} {o : Outcome ε α} {a : α} :
    o.mapError f = done a ↔ o = done a := by
  simp [eq_done_iff, mapError]

theorem toExcept_eq_error_iff {o : Outcome ε α} {e : ε} :
    o.toExcept = .error e ↔ o = failed o.value e := by
  cases h : o.error <;> simp [toExcept, eq_failed_iff, h]

theorem toExcept_eq_ok_iff {o : Outcome ε α} {a : α} : o.toExcept = .ok a ↔ o = done a := by
  cases h : o.error <;> simp [toExcept, eq_done_iff, h]

theorem mapError_eq_failed_iff {f : ε → δ} {o : Outcome ε α} {a : α} {e : δ} :
    o.mapError f = failed a e ↔ ∃ e', o = failed a e' ∧ f e' = e := by
  simp only [eq_failed_iff, mapError, Option.map_eq_some_iff]
  constructor
  · rintro ⟨⟨e', he', rfl⟩, ha⟩
    exact ⟨e', ⟨he', ha⟩, rfl⟩
  · rintro ⟨e', ⟨he', ha⟩, rfl⟩
    exact ⟨⟨e', he', rfl⟩, ha⟩

theorem andThen_eq_done_iff {o : Outcome ε α} {next : α → Outcome ε α} {b : α} :
    o.andThen next = done b ↔ ∃ a, o = done a ∧ next a = done b := by
  unfold andThen
  cases h : o.error with
  | none => simp [eq_done_iff, h]
  | some e => simp [eq_done_iff, h]

/-! ### Rows of steps -/

variable {step : α → β → Outcome ε α}

@[simp] theorem each_nil (a : α) : each step a [] = done a := rfl

@[simp] theorem each_cons (a : α) (b : β) (bs : List β) :
    each step a (b :: bs) = (step a b).andThen fun a' => each step a' bs := rfl

@[simp] theorem andThen_done (o : Outcome ε α) : o.andThen done = o := by
  obtain ⟨a, e⟩ := o
  cases e <;> rfl

@[simp] theorem each_singleton (a : α) (b : β) : each step a [b] = step a b := andThen_done _

theorem andThen_assoc (o : Outcome ε α) (f g : α → Outcome ε α) :
    (o.andThen f).andThen g = o.andThen fun a => (f a).andThen g := by
  cases h : o.error <;> simp [andThen, h]

theorem each_append (a : α) (bs cs : List β) :
    each step a (bs ++ cs) = (each step a bs).andThen fun a' => each step a' cs := by
  induction bs generalizing a with
  | nil => rfl
  | cons b bs ih => simp [ih, andThen_assoc]

theorem each_map {g : γ → β} (a : α) (cs : List γ) :
    each step a (cs.map g) = each (fun a c => step a (g c)) a cs := by
  induction cs generalizing a with
  | nil => rfl
  | cons c cs ih => simp [ih]

theorem each_flatMap {g : γ → List β} (a : α) (cs : List γ) :
    each step a (cs.flatMap g) = each (fun a c => each step a (g c)) a cs := by
  induction cs generalizing a with
  | nil => rfl
  | cons c cs ih => simp [each_append, ih]

theorem each_cons_eq_done_iff {a b' : α} {b : β} {bs : List β} :
    each step a (b :: bs) = done b' ↔ ∃ a', step a b = done a' ∧ each step a' bs = done b' :=
  andThen_eq_done_iff

/-- In a row of steps that ends well every step does. -/
theorem exists_of_each_eq_done {bs : List β} {a a' : α} (h : each step a bs = done a') :
    ∀ b ∈ bs, ∃ w w', step w b = done w' := by
  induction bs generalizing a with
  | nil => simp
  | cons b bs ih =>
    obtain ⟨w, hb, hrest⟩ := each_cons_eq_done_iff.1 h
    exact List.forall_mem_cons.2 ⟨⟨a, w, hb⟩, ih hrest⟩

/-- A row of steps fails where its first step does that fails, and leaves what that step leaves. -/
theorem each_eq_failed_iff {bs : List β} {a a' : α} {e : ε} :
    each step a bs = failed a' e ↔ ∃ before b after w, bs = before ++ b :: after ∧
      each step a before = done w ∧ step w b = failed a' e := by
  constructor
  · intro h
    induction bs generalizing a with
    | nil => simp [eq_failed_iff] at h
    | cons b bs ih =>
      rw [each_cons, andThen] at h
      cases hb : (step a b).error with
      | some e' =>
        rw [hb] at h
        exact ⟨[], b, bs, a, rfl, rfl, h⟩
      | none =>
        rw [hb] at h
        obtain ⟨before, c, after, w, rfl, hbefore, hc⟩ := ih h
        have hfirst : step a b = done (step a b).value := eq_done_iff.2 ⟨hb, rfl⟩
        exact ⟨b :: before, c, after, w, rfl,
          each_cons_eq_done_iff.2 ⟨_, hfirst, hbefore⟩, hc⟩
  · rintro ⟨before, b, after, w, rfl, hbefore, hb⟩
    rw [each_append, hbefore, done_andThen, each_cons, hb]
    rfl

theorem error_each_eq_some_iff {bs : List β} {a : α} {e : ε} :
    (each step a bs).error = some e ↔ ∃ before b after w, bs = before ++ b :: after ∧
      each step a before = done w ∧ (step w b).error = some e := by
  constructor
  · intro h
    obtain ⟨before, b, after, w, rfl, hbefore, hb⟩ :=
      each_eq_failed_iff.1 (eq_failed_of_error h)
    exact ⟨before, b, after, w, rfl, hbefore, (eq_failed_iff.1 hb).1⟩
  · rintro ⟨before, b, after, w, rfl, hbefore, hb⟩
    have h : each step a (before ++ b :: after) = failed (step w b).value e :=
      each_eq_failed_iff.2 ⟨before, b, after, w, rfl, hbefore, eq_failed_of_error hb⟩
    rw [h, error_failed]

/-- What every step keeps, failed or not, a row of steps keeps. -/
theorem each_keeps {I : α → Prop} {bs : List β} {a : α} (ha : I a)
    (hstep : ∀ a, ∀ b ∈ bs, I a → I (step a b).value) : I (each step a bs).value := by
  induction bs generalizing a with
  | nil => exact ha
  | cons b bs ih =>
    have hb : I (step a b).value := hstep a b (by simp) ha
    rw [each_cons, andThen]
    cases (step a b).error with
    | none => exact ih hb fun a c hc => hstep a c (by simp [hc])
    | some e => exact hb

/-- It is enough that a step keeps it on what the steps before it leave where they end well. -/
theorem each_keeps_of_before {I : α → Prop} {bs : List β} {a : α} (ha : I a)
    (hstep : ∀ before b after w, bs = before ++ b :: after → each step a before = done w → I w →
      I (step w b).value) : I (each step a bs).value := by
  induction bs generalizing a with
  | nil => exact ha
  | cons b bs ih =>
    have hb : I (step a b).value := hstep [] b bs a rfl rfl ha
    rw [each_cons, andThen]
    cases hfirst : (step a b).error with
    | some e => exact hb
    | none =>
      refine ih hb fun before c after w hbs hbefore => ?_
      have hdone : step a b = done (step a b).value := eq_done_iff.2 ⟨hfirst, rfl⟩
      exact hstep (b :: before) c after w (by rw [hbs, List.cons_append])
        (each_cons_eq_done_iff.2 ⟨_, hdone, hbefore⟩)

theorem of_each_eq_done {I : α → Prop} {bs : List β} {a a' : α} (ha : I a)
    (hstep : ∀ a, ∀ b ∈ bs, I a → I (step a b).value) (h : each step a bs = done a') : I a' := by
  have hkeeps : I (each step a bs).value := each_keeps ha hstep
  rwa [h] at hkeeps

/-- Two runs of a row of steps fail alike where every step does, as long as the states and the steps
that are left have something in common that each step keeps. -/
theorem error_each_eq {I : List β → α → α → Prop} {bs : List β} {a a' : α} (h : I bs a a')
    (hstep : ∀ b bs a a', I (b :: bs) a a' → (step a b).error = (step a' b).error ∧
      I bs (step a b).value (step a' b).value) :
    (each step a bs).error = (each step a' bs).error := by
  induction bs generalizing a a' with
  | nil => rfl
  | cons b bs ih =>
    obtain ⟨herror, hrest⟩ := hstep b bs a a' h
    rw [each_cons, each_cons, andThen, andThen, ← herror]
    cases hb : (step a b).error with
    | none => exact ih hrest
    | some e => rw [hb, ← herror, hb]

/-- A row of steps that ends well also ends well, and alike, where every step can be replaced. -/
theorem each_eq_done_of_forall {step' : α → β → Outcome δ α} {bs : List β} {a a' : α}
    (hstep : ∀ b ∈ bs, ∀ a a', step a b = done a' → step' a b = done a')
    (h : each step a bs = done a') : each step' a bs = done a' := by
  induction bs generalizing a with
  | nil => simpa using h
  | cons b bs ih =>
    obtain ⟨a₁, h₁, h₂⟩ := each_cons_eq_done_iff.1 h
    exact each_cons_eq_done_iff.2
      ⟨a₁, hstep b (by simp) a a₁ h₁, ih (fun c hc => hstep c (by simp [hc])) h₂⟩

/-- A row of steps that ends well leaves what the steps leave where they end well. -/
theorem eq_foldl_of_each_eq_done {merge : α → β → α} {bs : List β} {a a' : α}
    (hstep : ∀ b ∈ bs, ∀ a a', step a b = done a' → a' = merge a b)
    (h : each step a bs = done a') : a' = bs.foldl merge a := by
  induction bs generalizing a with
  | nil => exact (done_inj.1 h).symm
  | cons b bs ih =>
    obtain ⟨a₁, h₁, h₂⟩ := each_cons_eq_done_iff.1 h
    obtain rfl := hstep b (by simp) a a₁ h₁
    exact ih (fun c hc => hstep c (by simp [hc])) h₂

/-- A step that ends well and changes nothing still does after steps that leave this so. -/
theorem eq_done_of_each_eq_done {b : β} {cs : List β} {a a' : α}
    (hkeep : ∀ c ∈ cs, ∀ w w', step w b = done w → step w c = done w' → step w' b = done w')
    (hb : step a b = done a) (h : each step a cs = done a') : step a' b = done a' := by
  induction cs generalizing a with
  | nil => rwa [← done_inj.1 h]
  | cons c cs ih =>
    obtain ⟨a₁, h₁, h₂⟩ := each_cons_eq_done_iff.1 h
    exact ih (fun c' hc' => hkeep c' (by simp [hc'])) (hkeep c (by simp) a a₁ hb h₁) h₂

/-- A row of steps that ends well does so again and changes nothing more, where every step does and
the later ones leave that so. -/
theorem each_again {R : β → β → Prop} {bs : List β} {a a' : α} (hrow : bs.Pairwise R)
    (htwice : ∀ b ∈ bs, ∀ a a', step a b = done a' → step a' b = done a')
    (hkeep : ∀ b c, R b c → ∀ a a', step a b = done a → step a c = done a' → step a' b = done a')
    (h : each step a bs = done a') : each step a' bs = done a' := by
  induction hrow generalizing a with
  | nil => rfl
  | @cons b bs hb _ ih =>
    obtain ⟨a₁, h₁, h₂⟩ := each_cons_eq_done_iff.1 h
    have hfirst : step a' b = done a' := eq_done_of_each_eq_done
      (fun c hc => hkeep b c (hb c hc)) (htwice b (by simp) a a₁ h₁) h₂
    exact each_cons_eq_done_iff.2 ⟨a', hfirst, ih (fun c hc => htwice c (by simp [hc])) h₂⟩

/-- Steps that act on a part of the whole. -/
theorem each_map_part {put : γ → α} {step' : γ → β → Outcome ε γ} {bs : List β} {c : γ}
    (hstep : ∀ c, ∀ b ∈ bs, step (put c) b = (step' c b).map put) :
    each step (put c) bs = (each step' c bs).map put := by
  induction bs generalizing c with
  | nil => rfl
  | cons b bs ih =>
    rw [each_cons, hstep c b (by simp), each_cons, andThen, andThen, error_map]
    cases (step' c b).error with
    | none => exact ih fun c d hd => hstep c d (by simp [hd])
    | some e => rfl

/-- Steps that act on a part of the whole as soon as one was taken. -/
theorem each_enter_part {put : γ → α} {step' : γ → β → Outcome ε γ} {bs : List β} (hne : bs ≠ [])
    {a : α} {c : γ} (hfirst : ∀ b ∈ bs, step a b = (step' c b).map put)
    (hstep : ∀ c, ∀ b ∈ bs, step (put c) b = (step' c b).map put) :
    each step a bs = (each step' c bs).map put := by
  cases bs with
  | nil => exact absurd rfl hne
  | cons b bs =>
    have hrest (c : γ) : each step (put c) bs = (each step' c bs).map put :=
      each_map_part fun c d hd => hstep c d (List.mem_cons_of_mem b hd)
    rw [each_cons, hfirst b (by simp), each_cons, andThen, andThen, error_map]
    cases (step' c b).error with
    | none => exact hrest _
    | some e => rfl

end LayeredConfig.Outcome
