import DeviceAndDisplay.Verification.DisplaySettings.ArcDescriptors

/-! # The answers of the audio device

The list that is applied is the last answer as long as the answer found the list empty and the
device was not lost since. -/

namespace DeviceAndDisplay.DisplaySettings

open Helpers Transition

theorem toInt_eq_self_iff (n : ℤ) : Arc.toInt n = n ↔ -2147483648 ≤ n ∧ n < 2147483648 := by
  simp only [Arc.toInt, Int.bmod]
  split <;> omega

/-- The state with the last answer that was accepted since the device was lost, and what the list
held when it came. -/
structure TrackedAnswer where
  arc : Arc
  answer : Option (List ℤ × List ℤ) := none

namespace TrackedAnswer

def removes : ArcEvent → Bool
  | .audioDeviceConnectedStatus connected => connected ≠ some "true".toList
  | _ => false

/-- The device is disconnected or removed, or its descriptors are cleared. -/
def loses (event : ArcEvent) (s t : Arc) : Bool :=
  s.link.hdmiInAudioDeviceConnected && !t.link.hdmiInAudioDeviceConnected || removes event ||
    t.sad.audioDeviceSADState = .cleared

def step (p : TrackedAnswer) (a : ArcEnv × ArcEvent) : Option TrackedAnswer :=
  (arcStep p.arc a).map fun t =>
    ⟨t, if loses a.2 p.arc t then none else (p.arc.accepted a).or p.answer⟩

def create (received : Bool) : TrackedAnswer where
  arc := Arc.create received

/-- What a step applies is the last answer. -/
def AppliesAnswer (p q : TrackedAnswer) : Prop :=
  ∃ new, q.arc.core.applied = new ++ p.arc.core.applied ∧
    ∀ list ∈ new, ∃ held, q.answer = some (list, held)

/-- A step that applies the list does so after an answer that found the list empty, and whose
numbers fit an `int`. -/
def AnswerFits (p : TrackedAnswer) (a : ArcEnv × ArcEvent) : Prop :=
  p.arc.SetsSAD a → ∃ list, (p.arc.accepted a).or p.answer = some (list, []) ∧
    ∀ n ∈ list, -2147483648 ≤ n ∧ n < 2147483648

/-! ### The invariant -/

/-- A list that counts as received holds the answer behind what it held before. -/
def HoldsAnswer (p : TrackedAnswer) : Prop :=
  p.arc.sad.audioDeviceSADState = .received → ∀ list held, p.answer = some (list, held) →
    p.arc.sad.sadList = held ++ list.map Arc.toInt

variable {p q : TrackedAnswer} {a : ArcEnv × ArcEvent}

theorem holdsAnswer_step (hp : p.HoldsAnswer) (hcalm : a.1.Calm) (hq : p.step a = some q) :
    q.HoldsAnswer := by
  obtain ⟨t, ht, rfl⟩ := Option.map_eq_some_iff.mp hq
  intro hreceived list held hanswer
  change t.sad.audioDeviceSADState = .received at hreceived
  change t.sad.sadList = held ++ list.map Arc.toInt
  change (if loses a.2 p.arc t then none else (p.arc.accepted a).or p.answer) =
    some (list, held) at hanswer
  obtain ⟨_, hanswer⟩ := Option.ite_none_left_eq_some.mp hanswer
  rcases Arc.descriptors_step hcalm ht with ⟨_, happlies⟩ |
    ⟨_, _, ⟨answer, haccepted, hlist⟩ | ⟨hnone, hkeeps⟩⟩
  · cases hreceived.symm.trans happlies.updated
  · rw [haccepted] at hanswer
    cases hanswer
    rw [hlist, Arc.appliedList_of_accepted haccepted]
  · rw [hnone] at hanswer
    obtain ⟨hbefore, hlist⟩ := hkeeps.received hreceived
    exact hlist.trans (hp hbefore list held hanswer)

/-! ### The list that is applied -/

theorem arcStep_of_setsSAD {s : Arc} (h : s.SetsSAD a) : ∃ t, arcStep s a = some t := by
  obtain ⟨env, event⟩ := a
  apply Arc.exists_arcStep
  · rintro port mode rfl
    exact h
  · rintro expiring rfl
    cases expiring with
    | sadDetectionTimer => exact h.1
    | _ => exact h.elim

/-- A step that applies the list does not lose the device. -/
theorem loses_of_applies {s t : Arc} {list : List ℤ} (hsets : s.SetsSAD a)
    (h : s.Applies list t) : loses a.2 s t = false := by
  have hremoves : removes a.2 = false := by
    obtain ⟨env, event⟩ := a
    cases event with
    | audioDeviceConnectedStatus connected => exact hsets.elim
    | _ => rfl
  simp [loses, h.connected, h.updated, hremoves]

/-- An answer that is not new was received before. -/
theorem received_of_setsSAD {s : Arc} (hsets : s.SetsSAD a) (hnone : s.accepted a = none) :
    s.sad.audioDeviceSADState = .received := by
  obtain ⟨env, event⟩ := a
  cases event with
  | shortAudioDescriptor list =>
      cases list with
      | none => exact hsets.elim
      | some list => cases (if_pos hsets.1).symm.trans hnone
  | expired expiring =>
      cases expiring with
      | sadDetectionTimer => exact hsets.2.2.2
      | _ => exact hsets.elim
  | setEnableAudioPort port enable =>
      cases port with
      | none => cases enable <;> exact hsets.elim
      | some port =>
          cases enable with
          | none => exact hsets.elim
          | some enable =>
              cases enable with
              | true => exact hsets.2.2.2.2
              | false => exact hsets.elim
  | _ => exact hsets.elim

theorem appliedList_eq (hp : p.HoldsAnswer) (hsets : p.arc.SetsSAD a) {list held : List ℤ}
    (hanswer : (p.arc.accepted a).or p.answer = some (list, held)) :
    p.arc.appliedList a = held ++ list.map Arc.toInt := by
  cases haccepted : p.arc.accepted a with
  | some answer =>
      rw [haccepted] at hanswer
      cases hanswer
      exact Arc.appliedList_of_accepted haccepted
  | none =>
      rw [haccepted] at hanswer
      rw [Arc.appliedList_of_not_accepted haccepted]
      exact hp (received_of_setsSAD hsets haccepted) list held hanswer

/-- The list with the answer is the answer exactly if it was empty and the numbers fit. -/
theorem append_toInt_eq_iff (held list : List ℤ) :
    held ++ list.map Arc.toInt = list ↔
      held = [] ∧ ∀ n ∈ list, -2147483648 ≤ n ∧ n < 2147483648 := by
  constructor
  · intro h
    have hlength := congrArg List.length h
    rw [List.length_append, List.length_map] at hlength
    have hempty : held = [] := List.length_eq_zero_iff.mp (by omega)
    refine ⟨hempty, fun n hn => (toInt_eq_self_iff n).mp ?_⟩
    rw [hempty, List.nil_append] at h
    exact List.map_inj_left.mp (h.trans (List.map_id list).symm) n hn
  · rintro ⟨hempty, hfits⟩
    rw [hempty, List.nil_append]
    refine (List.map_inj_left.mpr fun n hn => ?_).trans (List.map_id list)
    exact (toInt_eq_self_iff n).mpr (hfits n hn)

theorem appliesAnswer_iff (hp : p.HoldsAnswer) (hcalm : a.1.Calm) :
    (∀ q, p.step a = some q → p.AppliesAnswer q) ↔ p.AnswerFits a := by
  constructor
  · intro h hsets
    obtain ⟨t, ht⟩ := arcStep_of_setsSAD hsets
    rcases Arc.descriptors_step hcalm ht with ⟨_, happlies⟩ | ⟨hnot, _⟩
    · have hq : p.step a = some ⟨t, (p.arc.accepted a).or p.answer⟩ := by
        rw [step, ht, Option.map_some, loses_of_applies hsets happlies]
        rfl
      obtain ⟨new, hnew, hanswer⟩ := h _ hq
      have hone : [p.arc.appliedList a] = new :=
        List.append_cancel_right (happlies.applied.symm.trans hnew)
      obtain ⟨held, hlast⟩ := hanswer (p.arc.appliedList a) (by simp [← hone])
      obtain ⟨hempty, hfits⟩ := (append_toInt_eq_iff held _).mp (appliedList_eq hp hsets hlast).symm
      exact ⟨_, hempty ▸ hlast, hfits⟩
    · exact absurd hsets hnot
  · intro hc q hq
    obtain ⟨t, ht, rfl⟩ := Option.map_eq_some_iff.mp hq
    rcases Arc.descriptors_step hcalm ht with ⟨hsets, happlies⟩ | ⟨_, hnothing, _⟩
    · obtain ⟨list, hlast, hfits⟩ := hc hsets
      refine ⟨[p.arc.appliedList a], happlies.applied, fun other hother => ⟨[], ?_⟩⟩
      change (if loses a.2 p.arc t then none else (p.arc.accepted a).or p.answer) = some (other, [])
      rw [loses_of_applies hsets happlies, if_neg Bool.false_ne_true, hlast,
        List.mem_singleton.mp hother, appliedList_eq hp hsets hlast,
        (append_toInt_eq_iff [] list).mpr ⟨rfl, hfits⟩]
    · exact ⟨[], hnothing, by simp⟩

/-! ### Runs -/

/-- A device answers before its audio is routed. -/
def oneAnswer : List (ArcEnv × ArcEvent) :=
  atHome .passThru
    [.initAudioPorts, .arcInitiation (some Arc.success), .shortAudioDescriptor (some [1]),
      .setEnableAudioPort (some hdmiArc0) (some true)]

/-- The port is asked for before the hot-plug, and the device initiates ARC and answers again. -/
def twoAnswers : List (ArcEnv × ArcEvent) :=
  atHome .passThru
    [.initAudioPorts, .arcInitiation (some Arc.success), .shortAudioDescriptor (some [1]),
      .getConnectedAudioPorts, .arcInitiation (some Arc.success),
      .shortAudioDescriptor (some [2])]

end TrackedAnswer

end DeviceAndDisplay.DisplaySettings
