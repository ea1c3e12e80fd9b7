import Mathlib.Data.Fintype.Card
import Mathlib.Data.Set.Finite.Basic

/-! Steps without cycles. If the steps lead into a finite set, every path is finite exactly if no
state that is reached leads back to itself. -/

namespace DeviceAndDisplay.Transition

open Relation

variable {α : Type*} {r : α → α → Prop} {a b : α}

/-- No state that is reached leads back to itself. -/
def Acyclic (r : α → α → Prop) (a : α) : Prop :=
  ∀ b, ReflTransGen r a b → ¬ TransGen r b b

theorem Acyclic.step (h : Acyclic r a) (hab : r a b) : Acyclic r b :=
  fun c hbc => h c (hbc.head hab)

theorem acc_irrefl (h : Acc r a) : ¬ r a a := by
  induction h with
  | intro a _ ih => exact fun haa => ih a haa haa

theorem acyclic_of_acc (h : Acc (flip r) a) : Acyclic r a := by
  have hreach : ∀ b, ReflTransGen r a b → Acc (flip r) b := by
    intro b hab
    induction hab with
    | refl => exact h
    | tail _ hbc ih => exact ih.inv hbc
  intro b hab hbb
  have hswap : TransGen (flip r) b b := transGen_swap.mpr hbb
  exact acc_irrefl (hreach b hab).transGen hswap

/-- Within a finite set, a relation without cycles is well-founded. -/
theorem wellFounded_of_acyclic [Finite α] (h : ∀ a, ¬ TransGen r a a) :
    WellFounded (flip r) := by
  have htrans : IsTrans α (TransGen (flip r)) := ⟨fun _ _ _ => TransGen.trans⟩
  have hirrefl : Std.Irrefl (TransGen (flip r)) := ⟨fun a ha => h a (transGen_swap.mp ha)⟩
  exact Subrelation.wf TransGen.single (Finite.wellFounded_of_trans_of_irrefl _)

theorem acc_of_acyclic {s : Set α} (hs : s.Finite) (hr : ∀ a b, r a b → b ∈ s)
    (h : Acyclic r a) : Acc (flip r) a := by
  let reached : Set α := {b | b ∈ s ∧ ReflTransGen r a b}
  have hfinite : Finite reached := (hs.subset fun b hb => hb.1).to_subtype
  let step : reached → reached → Prop := fun b c => r b c
  have hwf : WellFounded (flip step) := by
    apply wellFounded_of_acyclic
    rintro ⟨b, hb⟩ hbb
    exact h b hb.2 (hbb.lift Subtype.val fun _ _ hcd => hcd)
  have hacc : ∀ b : reached, Acc (flip r) b := by
    intro b
    induction b using hwf.induction with
    | _ b ih =>
        refine Acc.intro _ fun c hbc => ?_
        exact ih ⟨c, hr b c hbc, b.2.2.tail hbc⟩ hbc
  refine Acc.intro _ fun b hab => ?_
  exact hacc ⟨b, hr a b hab, ReflTransGen.single hab⟩

theorem acc_iff_acyclic {s : Set α} (hs : s.Finite) (hr : ∀ a b, r a b → b ∈ s) :
    Acc (flip r) a ↔ Acyclic r a :=
  ⟨acyclic_of_acc, acc_of_acyclic hs hr⟩

end DeviceAndDisplay.Transition
