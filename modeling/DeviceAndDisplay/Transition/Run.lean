import Mathlib.Data.List.Basic
import Mathlib.Data.Option.Basic

/-! Partial deterministic machines: execution of action lists, steps that meet a side
condition, invariants along such runs, and refinement of one machine by another. -/

namespace DeviceAndDisplay.Transition

variable {σ α β : Type*}

/-- Perform the actions from left to right; the result is `none` once an action is disabled. -/
def run (step : σ → α → Option σ) : σ → List α → Option σ
  | s, [] => some s
  | s, a :: as => (step s a).bind fun t => run step t as

/-- Every action of the list that is performed from `s` on meets `C` in the state it is
performed in. -/
def Along (step : σ → α → Option σ) (C : σ → α → Prop) : σ → List α → Prop
  | _, [] => True
  | s, a :: as => C s a ∧ ∀ t, step s a = some t → Along step C t as

/-- Along a given list, a decidable condition can be checked by execution. -/
instance decidableAlong {step : σ → α → Option σ} {C : σ → α → Prop}
    [∀ s a, Decidable (C s a)] : ∀ s as, Decidable (Along step C s as)
  | _, [] => isTrue trivial
  | s, a :: as =>
      match h : step s a with
      | none => decidable_of_iff (C s a) (by simp [Along, h])
      | some t =>
          have := @decidableAlong step C _ t as
          decidable_of_iff (C s a ∧ Along step C t as) (by simp [Along, h])

/-- The states reached from `s₀`. -/
def Reachable (step : σ → α → Option σ) (s₀ s : σ) : Prop :=
  ∃ as, run step s₀ as = some s

/-- The states reached from `s₀` by steps that all meet `C`. -/
def ReachableBy (step : σ → α → Option σ) (C : σ → α → Prop) (s₀ s : σ) : Prop :=
  ∃ as, run step s₀ as = some s ∧ Along step C s₀ as

variable {step : σ → α → Option σ} {C : σ → α → Prop}

@[simp] theorem run_nil (s : σ) : run step s [] = some s := rfl

@[simp] theorem run_cons (s : σ) (a : α) (as : List α) :
    run step s (a :: as) = (step s a).bind fun t => run step t as := rfl

theorem run_singleton (s : σ) (a : α) : run step s [a] = step s a := by
  simp

theorem run_cons_eq_some {s t : σ} {a : α} {as : List α} :
    run step s (a :: as) = some t ↔ ∃ u, step s a = some u ∧ run step u as = some t := by
  simp [Option.bind_eq_some_iff]

theorem run_append (s : σ) (as bs : List α) :
    run step s (as ++ bs) = (run step s as).bind fun t => run step t bs := by
  induction as generalizing s with
  | nil => rfl
  | cons a as ih =>
      simp only [List.cons_append, run_cons, Option.bind_assoc]
      congr 1
      funext t
      exact ih t

theorem along_true (s : σ) (as : List α) : Along step (fun _ _ => True) s as := by
  induction as generalizing s with
  | nil => trivial
  | cons a as ih => exact ⟨trivial, fun t _ => ih t⟩

theorem along_append {s : σ} {as bs : List α} :
    Along step C s (as ++ bs) ↔
      Along step C s as ∧ ∀ t, run step s as = some t → Along step C t bs := by
  induction as generalizing s with
  | nil => simp [Along]
  | cons a as ih =>
      simp only [List.cons_append, Along, and_assoc, run_cons_eq_some]
      constructor
      · rintro ⟨ha, h⟩
        refine ⟨ha, fun u hu => (ih.mp (h u hu)).1, ?_⟩
        rintro t ⟨u, hu, ht⟩
        exact (ih.mp (h u hu)).2 t ht
      · rintro ⟨ha, has, hbs⟩
        exact ⟨ha, fun u hu => ih.mpr ⟨has u hu, fun t ht => hbs t ⟨u, hu, ht⟩⟩⟩

theorem along_of_forall {s : σ} {as : List α} (h : ∀ a ∈ as, ∀ s, C s a) :
    Along step C s as := by
  induction as generalizing s with
  | nil => trivial
  | cons a as ih =>
      refine ⟨h a List.mem_cons_self s, fun t _ => ih fun b hb => ?_⟩
      exact h b (List.mem_cons_of_mem a hb)

theorem Along.and {D : σ → α → Prop} {s : σ} {as : List α} (hC : Along step C s as)
    (hD : Along step D s as) : Along step (fun s a => C s a ∧ D s a) s as := by
  induction as generalizing s with
  | nil => trivial
  | cons a as ih => exact ⟨⟨hC.1, hD.1⟩, fun t ht => ih (hC.2 t ht) (hD.2 t ht)⟩

/-- A condition that steps meet as long as an invariant of `C` holds is met along a run. -/
theorem Along.imp {D : σ → α → Prop} {I : σ → Prop} {s : σ} {as : List α}
    (h : Along step C s as) (hI : ∀ s a t, I s → C s a → step s a = some t → I t)
    (hD : ∀ s a, I s → C s a → D s a) (hs : I s) : Along step D s as := by
  induction as generalizing s with
  | nil => trivial
  | cons a as ih =>
      obtain ⟨hC, hrest⟩ := h
      exact ⟨hD s a hs hC, fun t ht => ih (hrest t ht) (hI s a t hs hC ht)⟩

/-- A property that every step meeting `C` preserves holds at the end of every run whose
steps all meet `C`. -/
theorem run_invariant {I : σ → Prop}
    (hstep : ∀ s a t, I s → C s a → step s a = some t → I t)
    {s t : σ} {as : List α} (hs : I s) (hC : Along step C s as)
    (hr : run step s as = some t) : I t := by
  induction as generalizing s with
  | nil =>
      cases hr
      exact hs
  | cons a as ih =>
      obtain ⟨u, hu, hr⟩ := run_cons_eq_some.mp hr
      exact ih (hstep s a u hs hC.1 hu) (hC.2 u hu) hr

theorem Reachable.invariant {I : σ → Prop} (hstep : ∀ s a t, I s → step s a = some t → I t)
    {s₀ s : σ} (h₀ : I s₀) (h : Reachable step s₀ s) : I s := by
  obtain ⟨as, hr⟩ := h
  exact run_invariant (C := fun _ _ => True) (fun s a t hs _ ht => hstep s a t hs ht) h₀
    (along_true s₀ as) hr

theorem ReachableBy.invariant {I : σ → Prop}
    (hstep : ∀ s a t, I s → C s a → step s a = some t → I t)
    {s₀ s : σ} (h₀ : I s₀) (h : ReachableBy step C s₀ s) : I s := by
  obtain ⟨as, hr, hC⟩ := h
  exact run_invariant hstep h₀ hC hr

/-- If a step by an action of `D` keeps `P` exactly when it meets `C`, a run of such actions
keeps `P` exactly when all its steps meet `C`. -/
theorem run_iff_along {D : α → Prop} {I P : σ → Prop}
    (hI : ∀ s a t, I s → D a → step s a = some t → I t)
    (hP : ∀ s a t, I s → D a → step s a = some t → (P t ↔ P s ∧ C s a))
    {s t : σ} {as : List α} (hs : I s) (hD : ∀ a ∈ as, D a) (hr : run step s as = some t) :
    P t ↔ P s ∧ Along step C s as := by
  induction as generalizing s with
  | nil =>
      cases hr
      simp [Along]
  | cons a as ih =>
      obtain ⟨u, hu, hr⟩ := run_cons_eq_some.mp hr
      have ha : D a := hD a List.mem_cons_self
      have hrest : Along step C s (a :: as) ↔ C s a ∧ Along step C u as := by
        simp [Along, hu]
      rw [ih (hI s a u hs ha hu) (fun b hb => hD b (List.mem_cons_of_mem a hb)) hr,
        hP s a u hs ha hu, hrest, and_assoc]

/-- If, as long as all steps meet `C`, a step leads to `P` exactly when it meets `C`, then `P`
holds throughout a run exactly when all its steps meet `C`. -/
theorem always_iff_along {I P : σ → Prop} (hI : ∀ s a t, I s → C s a → step s a = some t → I t)
    (hP : ∀ s a t, I s → step s a = some t → (P t ↔ C s a))
    {s t : σ} {as : List α} (hs : I s) (hr : run step s as = some t) :
    (∀ bs u, bs <+: as → bs ≠ [] → run step s bs = some u → P u) ↔ Along step C s as := by
  induction as generalizing s with
  | nil =>
      simp only [Along, iff_true]
      intro bs u hbs hne _
      exact absurd (List.prefix_nil.mp hbs) hne
  | cons a as ih =>
      obtain ⟨u, hu, hrest⟩ := run_cons_eq_some.mp hr
      constructor
      · intro h
        have hC : C s a := by
          refine (hP s a u hs hu).mp (h [a] u ?_ (by simp) ?_)
          · exact ⟨as, rfl⟩
          · rw [run_singleton, hu]
        refine ⟨hC, fun v hv => ?_⟩
        rw [← Option.some.inj (hu.symm.trans hv)]
        refine (ih (hI s a u hs hC hu) hrest).mp fun bs w hbs _ hw => ?_
        refine h (a :: bs) w (List.cons_prefix_cons.mpr ⟨rfl, hbs⟩) (by simp) ?_
        rw [run_cons, hu]
        exact hw
      · rintro ⟨hC, hCs⟩ bs w hbs hne hw
        cases bs with
        | nil => exact absurd rfl hne
        | cons b bs =>
            obtain ⟨rfl, htail⟩ := List.cons_prefix_cons.mp hbs
            obtain ⟨v, hv, hw⟩ := run_cons_eq_some.mp hw
            rw [Option.some.inj (hv.symm.trans hu)] at hw
            by_cases hnil : bs = []
            · rw [hnil] at hw
              cases hw
              exact (hP s b _ hs hu).mpr hC
            · exact (ih (hI s b u hs hC hu) hrest).mpr (hCs u hu) bs w htail hnil hw

/-- If the invariant `I`, kept by steps that meet `C`, gives `P`, and a step to `P` meets `C`, then
`P` holds throughout a run, its start included, exactly when all its steps meet `C`. -/
theorem throughout_iff_along {I P : σ → Prop}
    (hI : ∀ s a t, I s → C s a → step s a = some t → I t) (hIP : ∀ s, I s → P s)
    (hC : ∀ s a t, I s → step s a = some t → P t → C s a)
    {s t : σ} {as : List α} (hs : I s) (hr : run step s as = some t) :
    (∀ bs u, bs <+: as → run step s bs = some u → P u) ↔ Along step C s as := by
  have hP : ∀ s a t, I s → step s a = some t → (P t ↔ C s a) := fun s a t hs h =>
    ⟨hC s a t hs h, fun ha => hIP t (hI s a t hs ha h)⟩
  rw [← always_iff_along hI hP hs hr]
  constructor
  · intro h bs u hbs _ hu
    exact h bs u hbs hu
  · intro h bs u hbs hu
    by_cases hnil : bs = []
    · rw [hnil] at hu
      cases hu
      exact hIP s hs
    · exact h bs u hbs hnil hu

/-- Two conditions that agree for the actions of `A` as long as an invariant holds agree along a run
of such actions. -/
theorem along_iff_along_of_forall {A : α → Prop} {D : σ → α → Prop} {I : σ → Prop}
    (hI : ∀ s a t, I s → A a → C s a → step s a = some t → I t)
    (hD : ∀ s a, I s → A a → (D s a ↔ C s a)) {s : σ} (hs : I s) {as : List α}
    (hA : ∀ a ∈ as, A a) : Along step D s as ↔ Along step C s as := by
  induction as generalizing s with
  | nil => exact Iff.rfl
  | cons a as ih =>
      have ha : A a := hA a List.mem_cons_self
      simp only [Along, hD s a hs ha]
      apply and_congr_right
      intro hC
      apply forall_congr'
      intro t
      apply imp_congr_right
      intro ht
      exact ih (hI s a t hs ha hC ht) fun b hb => hA b (List.mem_cons_of_mem a hb)

/-- Two conditions that agree as long as an invariant holds agree along a run. -/
theorem along_iff_along {D : σ → α → Prop} {I : σ → Prop}
    (hI : ∀ s a t, I s → C s a → step s a = some t → I t)
    (hD : ∀ s a, I s → (D s a ↔ C s a)) {s : σ} (hs : I s) (as : List α) :
    Along step D s as ↔ Along step C s as :=
  along_iff_along_of_forall (A := fun _ => True) (fun s a t hs _ hC ht => hI s a t hs hC ht)
    (fun s a hs _ => hD s a hs) hs fun _ _ => trivial

/-! ### The most recent action of a kind -/

/-- The most recent performed action that `f` selects, with the state it was performed in. -/
def latest (step : σ → α → Option σ) (f : σ → α → Option β) :
    Option (σ × β) → σ → List α → Option (σ × β)
  | found, _, [] => found
  | found, s, a :: as =>
      match step s a with
      | none => found
      | some t => latest step f (((f s a).map fun b => (s, b)).or found) t as

/-- The invariant rule for a property that also depends on the most recent selected action. -/
theorem run_latest_invariant {f : σ → α → Option β} {I : Option (σ × β) → σ → Prop}
    (hstep : ∀ found s a t, I found s → C s a → step s a = some t →
      I (((f s a).map fun b => (s, b)).or found) t)
    {s t : σ} {as : List α} {found : Option (σ × β)} (hs : I found s)
    (hC : Along step C s as) (hr : run step s as = some t) :
    I (latest step f found s as) t := by
  induction as generalizing s found with
  | nil =>
      cases hr
      exact hs
  | cons a as ih =>
      obtain ⟨u, hu, hr⟩ := run_cons_eq_some.mp hr
      simp only [latest, hu]
      exact ih (hstep found s a u hs hC.1 hu) (hC.2 u hu) hr

/-! ### What the actions of a run put out -/

/-- The values that `f` selects from the performed actions, in their order. -/
def outputs (step : σ → α → Option σ) (f : σ → α → Option β) : σ → List α → List β
  | _, [] => []
  | s, a :: as =>
      match step s a with
      | none => []
      | some t => (f s a).toList ++ outputs step f t as

theorem outputs_cons {f : σ → α → Option β} {s t : σ} {a : α} {as : List α}
    (h : step s a = some t) :
    outputs step f s (a :: as) = (f s a).toList ++ outputs step f t as := by
  simp only [outputs, h]

theorem outputs_append {f : σ → α → Option β} {s t : σ} {as bs : List α}
    (h : run step s as = some t) :
    outputs step f s (as ++ bs) = outputs step f s as ++ outputs step f t bs := by
  induction as generalizing s with
  | nil =>
      cases h
      rfl
  | cons a as ih =>
      obtain ⟨u, hu, h⟩ := run_cons_eq_some.mp h
      rw [List.cons_append, outputs_cons hu, outputs_cons hu, ih h, List.append_assoc]

/-- The invariant rule for a property that also depends on what was put out so far. -/
theorem run_outputs_invariant {f : σ → α → Option β} {I : List β → σ → Prop}
    (hstep : ∀ done s a t, I done s → step s a = some t → I (done ++ (f s a).toList) t)
    {s t : σ} {as : List α} {done : List β} (hs : I done s) (hr : run step s as = some t) :
    I (done ++ outputs step f s as) t := by
  induction as generalizing s done with
  | nil =>
      cases hr
      simpa [outputs] using hs
  | cons a as ih =>
      obtain ⟨u, hu, hr⟩ := run_cons_eq_some.mp hr
      rw [outputs_cons hu, ← List.append_assoc]
      exact ih (hstep done s a u hs hu) hr

/-- The invariant rule for a property that also depends on the actions performed so far. -/
theorem run_history_invariant {I : List α → σ → Prop}
    (hstep : ∀ done s a t, I done s → C s a → step s a = some t → I (done ++ [a]) t)
    {s t : σ} {as done : List α} (hs : I done s) (hC : Along step C s as)
    (hr : run step s as = some t) : I (done ++ as) t := by
  induction as generalizing s done with
  | nil =>
      cases hr
      simpa using hs
  | cons a as ih =>
      obtain ⟨u, hu, hr⟩ := run_cons_eq_some.mp hr
      have h := ih (hstep done s a u hs hC.1 hu) (hC.2 u hu) hr
      rwa [List.append_assoc, List.singleton_append] at h

/-! ### Refinement -/

/-- If every step of a coarse machine is a run of a fine one, so is every run. -/
theorem run_refines {fine : σ → β → Option σ}
    (h : ∀ s a t, step s a = some t → ∃ bs, run fine s bs = some t)
    {s t : σ} {as : List α} (hr : run step s as = some t) : ∃ bs, run fine s bs = some t := by
  induction as generalizing s with
  | nil => exact ⟨[], hr⟩
  | cons a as ih =>
      obtain ⟨u, hu, hr⟩ := run_cons_eq_some.mp hr
      obtain ⟨first, hfirst⟩ := h s a u hu
      obtain ⟨rest, hrest⟩ := ih hr
      exact ⟨first ++ rest, by rw [run_append, hfirst]; exact hrest⟩

end DeviceAndDisplay.Transition

/-! ## Refinement mappings

A machine refines a function on abstract states if each of its steps is, under the mapping, an
abstract step or none. Then every run is an abstract one, and what the abstract run did can be
traced back to the steps that did it. -/

namespace DeviceAndDisplay.Transition

variable {σ τ α β : Type*} {step : σ → α → Option σ} {label : σ → α → Option β}

/-- Along steps that meet `C`, as long as an invariant holds: a step that has a label is the abstract
step of it, and any other changes nothing in the abstract. -/
theorem run_mapped {I : σ → Prop} {C : σ → α → Prop} {f : σ → τ} {astep : τ → β → τ}
    (hI : ∀ s a t, I s → C s a → step s a = some t → I t)
    (hstep : ∀ s a t, I s → C s a → step s a = some t →
      f t = (label s a).toList.foldl astep (f s))
    {s t : σ} {as : List α} (hs : I s) (hC : Along step C s as) (hr : run step s as = some t) :
    f t = (outputs step label s as).foldl astep (f s) := by
  induction as generalizing s with
  | nil =>
      cases hr
      rfl
  | cons a as ih =>
      obtain ⟨u, hu, hr⟩ := run_cons_eq_some.mp hr
      rw [outputs_cons hu, List.foldl_append, ← hstep s a u hs hC.1 hu]
      exact ih (hI s a u hs hC.1 hu) (hC.2 u hu) hr

/-- The action that put out a given value, and the runs before and after it. -/
theorem exists_of_outputs_eq {s t : σ} {as : List α} {bs cs : List β} {b : β}
    (hr : run step s as = some t) (h : outputs step label s as = bs ++ b :: cs) :
    ∃ as₁ a as₂ s₁ t₁, as = as₁ ++ a :: as₂ ∧ run step s as₁ = some s₁ ∧
      step s₁ a = some t₁ ∧ run step t₁ as₂ = some t ∧ label s₁ a = some b ∧
      outputs step label s as₁ = bs ∧ outputs step label t₁ as₂ = cs := by
  induction as generalizing s bs with
  | nil => simp [outputs] at h
  | cons a as ih =>
      obtain ⟨u, hu, hr⟩ := run_cons_eq_some.mp hr
      rw [outputs_cons hu] at h
      have later : ∀ bs', outputs step label u as = bs' ++ b :: cs →
          bs = (label s a).toList ++ bs' →
          ∃ as₁ a' as₂ s₁ t₁, a :: as = as₁ ++ a' :: as₂ ∧ run step s as₁ = some s₁ ∧
            step s₁ a' = some t₁ ∧ run step t₁ as₂ = some t ∧ label s₁ a' = some b ∧
            outputs step label s as₁ = bs ∧ outputs step label t₁ as₂ = cs := by
        intro bs' hbs' hbs
        obtain ⟨as₁, a', as₂, s₁, t₁, has, hr₁, hs₁, hr₂, hb, hbefore, hafter⟩ := ih hr hbs'
        refine ⟨a :: as₁, a', as₂, s₁, t₁, by rw [has]; rfl, ?_, hs₁, hr₂, hb, ?_, hafter⟩
        · rw [run_cons, hu]
          exact hr₁
        · rw [outputs_cons hu, hbefore, hbs]
      cases hl : label s a with
      | none =>
          rw [hl] at h later
          exact later bs h rfl
      | some first =>
          rw [hl, Option.toList_some, List.singleton_append] at h
          rw [hl] at later
          cases bs with
          | nil =>
              obtain ⟨rfl, rfl⟩ := List.cons.inj h
              exact ⟨[], a, as, s, u, rfl, rfl, hu, hr, hl, rfl, rfl⟩
          | cons first' bs =>
              obtain ⟨rfl, htail⟩ := List.cons.inj h
              exact later bs htail rfl

theorem exists_of_mem_outputs {s t : σ} {as : List α} {b : β} (hr : run step s as = some t)
    (h : b ∈ outputs step label s as) : ∃ a ∈ as, ∃ s₁, label s₁ a = some b := by
  obtain ⟨bs, cs, hb⟩ := List.append_of_mem h
  obtain ⟨as₁, a, as₂, s₁, t₁, rfl, _, _, _, hl, _, _⟩ := exists_of_outputs_eq hr hb
  exact ⟨a, by simp, s₁, hl⟩

/-! ### What goes in and what comes out

Each step takes something in or gives something out, and the rest is held, in the order in which it
came. -/

theorem run_held {γ δ : Type*} {input : σ → α → Option β} {output : σ → α → Option δ}
    {held : σ → List γ} {into : β → List γ} {out : δ → List γ}
    (hstep : ∀ s a t, step s a = some t → held s ++ (input s a).toList.flatMap into =
      (output s a).toList.flatMap out ++ held t)
    {s t : σ} {as : List α} (hr : run step s as = some t) :
    held s ++ (outputs step input s as).flatMap into =
      (outputs step output s as).flatMap out ++ held t := by
  induction as generalizing s with
  | nil =>
      cases hr
      simp [outputs]
  | cons a as ih =>
      obtain ⟨u, hu, hr⟩ := run_cons_eq_some.mp hr
      rw [outputs_cons hu, outputs_cons hu, List.flatMap_append, List.flatMap_append,
        ← List.append_assoc, hstep s a u hu, List.append_assoc, List.append_assoc, ih hr]

end DeviceAndDisplay.Transition
