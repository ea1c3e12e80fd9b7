import DeviceAndDisplay.Model.DisplaySettings.Arc
import DeviceAndDisplay.Transition.Exception
import DeviceAndDisplay.Transition.Run

/-! # Events about enabled ports

The event is sent for what was asked, whether or not the port could be set. -/

namespace DeviceAndDisplay.DisplaySettings

open Helpers Transition

/-! ### What one call does -/

/-- No call of the library fails. -/
structure ArcEnv.Completes (env : ArcEnv) : Prop where
  sets : env.setsPort = true
  mutes : env.throws .isMuted = false ∧ (env.isMuted = true → env.throws .setMuted = false)

instance (env : ArcEnv) : Decidable env.Completes :=
  decidable_of_iff
    (env.setsPort = true ∧ env.throws .isMuted = false ∧
      (env.isMuted = true → env.throws .setMuted = false))
    ⟨fun h => ⟨h.1, h.2⟩, fun h => ⟨h.sets, h.mutes⟩⟩

/-- What is put out by a call that is not refused, the newest first. -/
def answerCalls (s : Arc) (audioPort : Text) (pEnable : Bool) (env : ArcEnv) : List ArcCall :=
  .returnResponse (decide env.Completes) ::
    if s.ports.audioPortEnableStatusMap audioPort = pEnable then []
    else [.audioPortEnableStatusChanged audioPort pEnable]

variable {s : Arc} {audioPort : Text} {pEnable : Bool} {env : ArcEnv}

theorem setEnableAudioPort_of_refuses (h : s.refuses pEnable env = true) :
    s.setEnableAudioPort (some audioPort) (some pEnable) env =
      (s.checkPowerState pEnable env).returnResponse false := by
  simp only [Arc.refuses, Bool.and_eq_true, beq_iff_eq] at h
  simp [Arc.setEnableAudioPort, Arc.checkPowerState, Arc.updateDevice, h.1, h.2]

/-- A call of the library fails, or all that were made so far did not. -/
theorem ends_call {P : Arc → Prop} {Q : Unit → Prop} {c : HalCall}
    (hthrows : env.throws c = true → P s) (hreturns : env.throws c = false → Q ()) :
    Ends P Q (env.call c s) := by
  unfold ArcEnv.call
  split
  · rename_i h
    exact hthrows h
  · rename_i h
    exact hreturns (Bool.eq_false_iff.mpr h)

/-- The result of the calls for another port tells whether all of them succeed. -/
theorem setEnableOtherPort_ends (hport : env.throws .getAudioOutputPort = false)
    (hpersist : env.throws .setEnablePersist = false) (s : Arc) :
    Ends (fun t => t = s ∧ ¬ env.Completes) (fun r => r = (s, decide env.Completes))
      (s.setEnableOtherPort env) := by
  unfold Arc.setEnableOtherPort
  refine Ends.bind (Q := fun _ => env.throws .setEnablePort = false) (ends_call ?_ id) ?_
  · intro hthrows
    refine ⟨rfl, fun h => ?_⟩
    simpa [ArcEnv.setsPort, hthrows] using h.sets
  · intro _ hset
    by_cases henables : env.enablesPort = true
    · have hsets : env.setsPort = true := by
        simp [ArcEnv.setsPort, hport, hpersist, hset, henables]
      rw [if_pos henables]
      refine Ends.bind (Q := fun _ => env.throws .isMuted = false) (ends_call ?_ id) ?_
      · intro hthrows
        refine ⟨rfl, fun h => ?_⟩
        simpa [hthrows] using h.mutes.1
      · intro _ hmuted
        by_cases hmute : env.isMuted = true
        · rw [if_pos hmute]
          refine Ends.bind (Q := fun _ => env.throws .setMuted = false) (ends_call ?_ id) ?_
          · intro hthrows
            refine ⟨rfl, fun h => ?_⟩
            rw [h.mutes.2 hmute] at hthrows
            cases hthrows
          · intro _ hset
            have hcompletes : env.Completes := ⟨hsets, hmuted, fun _ => hset⟩
            exact Prod.ext rfl (henables.trans (decide_eq_true hcompletes).symm)
        · rw [if_neg hmute]
          have hcompletes : env.Completes := ⟨hsets, hmuted, fun h => absurd h hmute⟩
          exact Prod.ext rfl (henables.trans (decide_eq_true hcompletes).symm)
    · rw [if_neg henables]
      have hincomplete : ¬ env.Completes := by
        intro h
        simpa [ArcEnv.setsPort, henables] using h.sets
      exact Prod.ext rfl ((Bool.eq_false_iff.mpr henables).trans
        (decide_eq_false hincomplete).symm)

/-- What a request leaves that is not refused. -/
structure Answered (s t : Arc) (audioPort : Text) (pEnable : Bool) (env : ArcEnv) : Prop where
  calls : t.calls = answerCalls s audioPort pEnable env ++ s.calls
  status : t.ports.audioPortEnableStatusMap =
    Function.update s.ports.audioPortEnableStatusMap audioPort pEnable

/-- The status is set after the calls, whatever came of them. -/
theorem answered_of_same {t : Arc} (hcalls : t.calls = s.calls)
    (hstatus : t.ports.audioPortEnableStatusMap = s.ports.audioPortEnableStatusMap) :
    Answered s ((t.setAudioPortEnableStatus audioPort pEnable).returnResponse
      (decide env.Completes)) audioPort pEnable env := by
  unfold Arc.setAudioPortEnableStatus
  by_cases h : s.ports.audioPortEnableStatusMap audioPort = pEnable
  · rw [if_pos (hstatus ▸ h)]
    constructor
    · simp [answerCalls, Arc.call, h, hcalls]
    · have hsame : Function.update s.ports.audioPortEnableStatusMap audioPort pEnable =
          s.ports.audioPortEnableStatusMap := by
        rw [← h, Function.update_eq_self]
      simp [Arc.call, hstatus, hsame]
  · rw [if_neg (hstatus ▸ h)]
    constructor
    · simp [answerCalls, Arc.call, Arc.updatePorts, h, hcalls]
    · simp [Arc.call, Arc.updatePorts, hstatus]

/-- The calls for another port, with the result that is reported. -/
theorem portCalls_ends (env : ArcEnv) (s : Arc) (audioPort : Text) (pEnable : Bool) :
    Ends (fun t => (t = s ∨ t = s.setEnablePersist audioPort pEnable) ∧ ¬ env.Completes)
      (fun r => r = (s.setEnablePersist audioPort pEnable, decide env.Completes))
      (do
        env.call .getAudioOutputPort s
        env.call .setEnablePersist s
        (s.setEnablePersist audioPort pEnable).setEnableOtherPort env) := by
  have hincomplete : env.setsPort = false → ¬ env.Completes := by
    intro hsets h
    rw [h.sets] at hsets
    cases hsets
  refine Ends.bind (Q := fun _ => env.throws .getAudioOutputPort = false) (ends_call ?_ id) ?_
  · intro hthrows
    exact ⟨Or.inl rfl, hincomplete (by simp [ArcEnv.setsPort, hthrows])⟩
  · intro _ hport
    refine Ends.bind (Q := fun _ => env.throws .setEnablePersist = false) (ends_call ?_ id) ?_
    · intro hthrows
      exact ⟨Or.inl rfl, hincomplete (by simp [ArcEnv.setsPort, hthrows])⟩
    · intro _ hpersist
      have hends := setEnableOtherPort_ends hport hpersist (s.setEnablePersist audioPort pEnable)
      exact hends.imp (fun t h => ⟨Or.inr h.1, h.2⟩) fun r h => h

theorem checkPowerState_powerState (h : s.refuses pEnable env = false) :
    ¬ (pEnable = true ∧ (s.checkPowerState pEnable env).device.powerState = .standby) := by
  rintro ⟨henable, hstandby⟩
  simp only [Arc.checkPowerState, henable, if_true, Arc.updateDevice] at hstandby
  simp [Arc.refuses, henable, hstandby] at h

theorem checkPowerState_same (s : Arc) (pEnable : Bool) (env : ArcEnv) :
    (s.checkPowerState pEnable env).calls = s.calls ∧
      (s.checkPowerState pEnable env).ports = s.ports := by
  cases pEnable <;> exact ⟨rfl, rfl⟩

theorem setEnableAudioPort_answered (hrefuses : s.refuses pEnable env = false)
    (hother : audioPort ≠ hdmiArc0) :
    Answered s (s.setEnableAudioPort (some audioPort) (some pEnable) env) audioPort pEnable
      env := by
  obtain ⟨hcalls, hports⟩ := checkPowerState_same s pEnable env
  have hstatus := congrArg ArcPorts.audioPortEnableStatusMap hports
  have hends := portCalls_ends env (s.checkPowerState pEnable env) audioPort pEnable
  unfold Arc.setEnableAudioPort
  simp only [if_neg (checkPowerState_powerState hrefuses), if_neg hother]
  split
  · rename_i r hr
    have hr := hends.of_ok hr
    subst hr
    apply answered_of_same
    · exact hcalls
    · exact hstatus
  · rename_i t ht
    obtain ⟨hsame, hincomplete⟩ := hends.of_error ht
    rw [← decide_eq_false hincomplete]
    rcases hsame with rfl | rfl
    · apply answered_of_same
      · exact hcalls
      · exact hstatus
    · apply answered_of_same
      · exact hcalls
      · exact hstatus

/-! ### Truthful events -/

/-- What an event says of a port. -/
def statusEvent (audioPort : Text) : ArcCall → Option Bool
  | .audioPortEnableStatusChanged port enable => if port = audioPort then some enable else none
  | _ => none

/-- The last event for a port; the newest call is the first. -/
def lastEvent (calls : List ArcCall) (audioPort : Text) : Option Bool :=
  calls.findSome? (statusEvent audioPort)

/-- An event for each port that was changed, none if a failure is reported, and what the last event
says is what can be asked for. -/
structure TruthfulCalls (s t : AudioPorts) (new : List ArcCall) : Prop where
  sent : t.arc.calls = new ++ s.arc.calls
  changed : ∀ port enable, new.count (.audioPortEnableStatusChanged port enable) =
    if s.isEnabled port ≠ enable ∧ t.isEnabled port = enable then 1 else 0
  silent : .returnResponse false ∈ new → ∀ port enable,
    .audioPortEnableStatusChanged port enable ∉ new
  last : ∀ port enable, lastEvent t.arc.calls port = some enable →
    t.getEnableAudioPort (some port) false = some enable

def Truthful (s t : AudioPorts) : Prop := ∃ new, TruthfulCalls s t new

/-- A request that is to change a port and is not refused makes no call that fails. -/
def ChangesCompletely (s : AudioPorts) (a : ArcEnv × PortRequest) : Prop :=
  ∀ audioPort pEnable, a.2.audioPort = some audioPort → a.2.enable = some pEnable →
    s.arc.refuses pEnable a.1 = false → s.isEnabled audioPort ≠ pEnable → a.1.Completes

/-- The map is what the library has, and so is what the last events say. -/
structure Mirrors (s : AudioPorts) : Prop where
  status : s.arc.ports.audioPortEnableStatusMap = s.isEnabled
  last : ∀ port enable, lastEvent s.arc.calls port = some enable → s.isEnabled port = enable

theorem mirrors_create (received : Bool) : Mirrors (AudioPorts.create received) :=
  ⟨rfl, fun _ _ h => by cases h⟩

/-- A call that changes nothing and only answers. -/
structure Quiet (s t : AudioPorts) : Prop where
  calls : ∃ success, t.arc.calls = .returnResponse success :: s.arc.calls
  status : t.arc.ports.audioPortEnableStatusMap = s.arc.ports.audioPortEnableStatusMap
  isEnabled : t.isEnabled = s.isEnabled

theorem Quiet.mirrors {s t : AudioPorts} (h : Quiet s t) (hs : Mirrors s) : Mirrors t := by
  obtain ⟨success, hcalls⟩ := h.calls
  constructor
  · rw [h.status, h.isEnabled, hs.status]
  · intro port enable hlast
    rw [hcalls] at hlast
    rw [h.isEnabled]
    exact hs.last port enable hlast

theorem Quiet.truthful {s t : AudioPorts} (h : Quiet s t) (hs : Mirrors s) : Truthful s t := by
  have ht := h.mirrors hs
  obtain ⟨success, hcalls⟩ := h.calls
  refine ⟨[.returnResponse success], hcalls, ?_, ?_, ?_⟩
  · intro port enable
    rw [h.isEnabled, if_neg (fun hboth => hboth.1 hboth.2)]
    simp
  · intro _ port enable hmem
    simp at hmem
  · intro port enable hlast
    exact congrArg some (ht.last port enable hlast)

/-- A call that announces a change. -/
structure Announces (s t : AudioPorts) (audioPort : Text) (pEnable success : Bool) : Prop where
  calls : t.arc.calls = .returnResponse success ::
    .audioPortEnableStatusChanged audioPort pEnable :: s.arc.calls
  status : t.arc.ports.audioPortEnableStatusMap =
    Function.update s.arc.ports.audioPortEnableStatusMap audioPort pEnable

theorem Announces.not_truthful {s t : AudioPorts} {audioPort : Text} {pEnable : Bool}
    (h : Announces s t audioPort pEnable false) : ¬ Truthful s t := by
  rintro ⟨new, hnew⟩
  have hcalls := hnew.sent
  rw [h.calls, ← List.singleton_append, ← List.singleton_append (l := s.arc.calls),
    ← List.append_assoc] at hcalls
  have hsame := List.append_cancel_right hcalls
  exact hnew.silent (by simp [← hsame]) audioPort pEnable (by simp [← hsame])

theorem Announces.mirrors {s t : AudioPorts} {audioPort : Text} {pEnable success : Bool}
    (h : Announces s t audioPort pEnable success) (hs : Mirrors s)
    (hset : t.isEnabled = Function.update s.isEnabled audioPort pEnable) : Mirrors t := by
  constructor
  · rw [h.status, hset, hs.status]
  · intro port enable hlast
    rw [h.calls, lastEvent, List.findSome?_cons, List.findSome?_cons] at hlast
    rw [hset]
    by_cases hport : audioPort = port
    · subst hport
      simpa [statusEvent] using hlast
    · rw [Function.update_of_ne (Ne.symm hport)]
      simp only [statusEvent, if_neg hport] at hlast
      exact hs.last port enable hlast

theorem Announces.truthful {s t : AudioPorts} {audioPort : Text} {pEnable : Bool}
    (h : Announces s t audioPort pEnable true) (hs : Mirrors s)
    (hset : t.isEnabled = Function.update s.isEnabled audioPort pEnable)
    (hchange : s.isEnabled audioPort ≠ pEnable) : Truthful s t := by
  have ht := h.mirrors hs hset
  refine ⟨[.returnResponse true, .audioPortEnableStatusChanged audioPort pEnable], h.calls,
    ?_, ?_, ?_⟩
  · intro port enable
    by_cases hport : audioPort = port
    · subst hport
      by_cases henable : pEnable = enable
      · subst henable
        simp [hset, hchange]
      · simp [hset, henable]
    · have hsame : t.isEnabled port = s.isEnabled port := by
        rw [hset, Function.update_of_ne (Ne.symm hport)]
      rw [hsame, if_neg (fun hboth => hboth.1 hboth.2)]
      simp [hport]
  · intro hmem
    simp at hmem
  · intro port enable hlast
    exact congrArg some (ht.last port enable hlast)

section Steps

variable {ports : AudioPorts} {request : PortRequest}

theorem quiet_of_missing (h : request.audioPort = none ∨ request.enable = none) :
    Quiet ports (ports.setEnableAudioPort request env) := by
  have harc : (ports.setEnableAudioPort request env).arc = ports.arc.returnResponse false := by
    obtain ⟨audioPort, enable, hother⟩ := request
    rcases h with h | h
    · simp only at h
      subst h
      rfl
    · simp only at h
      subst h
      cases audioPort <;> rfl
  refine ⟨⟨false, by rw [harc]; rfl⟩, by rw [harc]; rfl, ?_⟩
  unfold AudioPorts.setEnableAudioPort
  rcases h with h | h
  · simp [h]
  · cases hport : request.audioPort <;> simp [h]

theorem quiet_of_refuses (hport : request.audioPort = some audioPort)
    (henable : request.enable = some pEnable) (h : ports.arc.refuses pEnable env = true) :
    Quiet ports (ports.setEnableAudioPort request env) := by
  obtain ⟨hcalls, hports⟩ := checkPowerState_same ports.arc pEnable env
  have harc : (ports.setEnableAudioPort request env).arc =
      (ports.arc.checkPowerState pEnable env).returnResponse false := by
    unfold AudioPorts.setEnableAudioPort
    rw [hport, henable]
    exact setEnableAudioPort_of_refuses h
  constructor
  · exact ⟨false, by rw [harc, ← hcalls]; rfl⟩
  · rw [harc, ← hports]
    rfl
  · simp [AudioPorts.setEnableAudioPort, hport, henable, h]

theorem isEnabled_of_answered (hport : request.audioPort = some audioPort)
    (henable : request.enable = some pEnable) (h : ports.arc.refuses pEnable env = false) :
    (ports.setEnableAudioPort request env).isEnabled =
      if env.setsPort then Function.update ports.isEnabled audioPort pEnable
      else ports.isEnabled := by
  simp [AudioPorts.setEnableAudioPort, hport, henable, h]

theorem answered_of_request (hport : request.audioPort = some audioPort)
    (henable : request.enable = some pEnable) (h : ports.arc.refuses pEnable env = false) :
    Answered ports.arc (ports.setEnableAudioPort request env).arc audioPort pEnable env := by
  have hother : audioPort ≠ hdmiArc0 := by
    intro harc
    exact request.other (hport.trans (congrArg some harc))
  have harc : (ports.setEnableAudioPort request env).arc =
      ports.arc.setEnableAudioPort (some audioPort) (some pEnable) env := by
    rw [AudioPorts.setEnableAudioPort, hport, henable]
  rw [harc]
  exact setEnableAudioPort_answered h hother

/-- A port that is as asked for stays so. -/
theorem quiet_of_same (hs : Mirrors ports) (hport : request.audioPort = some audioPort)
    (henable : request.enable = some pEnable) (h : ports.arc.refuses pEnable env = false)
    (hsame : ports.isEnabled audioPort = pEnable) :
    Quiet ports (ports.setEnableAudioPort request env) := by
  have hanswered := answered_of_request hport henable h
  have hmap : ports.arc.ports.audioPortEnableStatusMap audioPort = pEnable := by
    rw [hs.status, hsame]
  constructor
  · exact ⟨decide env.Completes, by rw [hanswered.calls, answerCalls, if_pos hmap]; rfl⟩
  · rw [hanswered.status, ← hmap, Function.update_eq_self]
  · rw [isEnabled_of_answered hport henable h, ← hsame, Function.update_eq_self, ite_self]

theorem announces_of_change (hs : Mirrors ports) (hport : request.audioPort = some audioPort)
    (henable : request.enable = some pEnable) (h : ports.arc.refuses pEnable env = false)
    (hchange : ports.isEnabled audioPort ≠ pEnable) :
    Announces ports (ports.setEnableAudioPort request env) audioPort pEnable
      (decide env.Completes) := by
  have hanswered := answered_of_request hport henable h
  have hmap : ports.arc.ports.audioPortEnableStatusMap audioPort ≠ pEnable := by
    rw [hs.status]
    exact hchange
  refine ⟨?_, hanswered.status⟩
  rw [hanswered.calls, answerCalls, if_neg hmap]
  rfl

end Steps

/-- What a request can be, seen from a state in which the map is right. -/
theorem setEnableAudioPort_cases {ports : AudioPorts} (hs : Mirrors ports)
    (request : PortRequest) (env : ArcEnv) :
    (Quiet ports (ports.setEnableAudioPort request env) ∧
      ChangesCompletely ports (env, request)) ∨
    ∃ audioPort pEnable, ports.isEnabled audioPort ≠ pEnable ∧
      Announces ports (ports.setEnableAudioPort request env) audioPort pEnable
        (decide env.Completes) ∧
      (ports.setEnableAudioPort request env).isEnabled =
        (if env.setsPort then Function.update ports.isEnabled audioPort pEnable
          else ports.isEnabled) ∧
      (ChangesCompletely ports (env, request) ↔ env.Completes) := by
  cases hport : request.audioPort with
  | none =>
      refine Or.inl ⟨quiet_of_missing (Or.inl hport), ?_⟩
      intro audioPort _ hother
      rw [hport] at hother
      cases hother
  | some audioPort =>
      cases henable : request.enable with
      | none =>
          refine Or.inl ⟨quiet_of_missing (Or.inr henable), ?_⟩
          intro _ pEnable _ hother
          rw [henable] at hother
          cases hother
      | some pEnable =>
          cases hrefuses : ports.arc.refuses pEnable env with
          | true =>
              refine Or.inl ⟨quiet_of_refuses hport henable hrefuses, ?_⟩
              intro _ other _ hother hkept
              rw [henable] at hother
              cases hother
              rw [hrefuses] at hkept
              cases hkept
          | false =>
              by_cases hsame : ports.isEnabled audioPort = pEnable
              · refine Or.inl ⟨quiet_of_same hs hport henable hrefuses hsame, ?_⟩
                intro port enable hport' henable' _ hchange
                simp only [hport, henable, Option.some.injEq] at hport' henable'
                subst hport' henable'
                exact absurd hsame hchange
              · refine Or.inr ⟨audioPort, pEnable, hsame,
                  announces_of_change hs hport henable hrefuses hsame,
                  isEnabled_of_answered hport henable hrefuses, ?_⟩
                constructor
                · intro h
                  exact h audioPort pEnable hport henable hrefuses hsame
                · intro h _ _ _ _ _ _
                  exact h

theorem truthful_iff {ports : AudioPorts} (hs : Mirrors ports) (request : PortRequest)
    (env : ArcEnv) :
    Truthful ports (ports.setEnableAudioPort request env) ↔
      ChangesCompletely ports (env, request) := by
  rcases setEnableAudioPort_cases hs request env with ⟨hquiet, hcompletely⟩ |
    ⟨audioPort, pEnable, hchange, hannounces, hset, hcompletely⟩
  · exact ⟨fun _ => hcompletely, fun _ => hquiet.truthful hs⟩
  · rw [hcompletely]
    constructor
    · intro h
      by_contra hincomplete
      rw [decide_eq_false hincomplete] at hannounces
      exact hannounces.not_truthful h
    · intro h
      rw [decide_eq_true h] at hannounces
      rw [if_pos h.sets] at hset
      exact hannounces.truthful hs hset hchange

theorem mirrors_setEnableAudioPort {ports : AudioPorts} (hs : Mirrors ports)
    (request : PortRequest) (env : ArcEnv) (h : ChangesCompletely ports (env, request)) :
    Mirrors (ports.setEnableAudioPort request env) := by
  rcases setEnableAudioPort_cases hs request env with ⟨hquiet, _⟩ |
    ⟨audioPort, pEnable, _, hannounces, hset, hcompletely⟩
  · exact hquiet.mirrors hs
  · rw [if_pos (hcompletely.mp h).sets] at hset
    exact hannounces.mirrors hs hset

/-! ### Runs -/

/-- The step performed is a truthful one. -/
def TruthfulStep (s : AudioPorts) (a : ArcEnv × PortRequest) : Prop :=
  ∀ t, portStep s a = some t → Truthful s t

theorem truthful_along_iff (received : Bool) (as : List (ArcEnv × PortRequest)) :
    Along portStep TruthfulStep (AudioPorts.create received) as ↔
      Along portStep ChangesCompletely (AudioPorts.create received) as := by
  apply along_iff_along (I := Mirrors)
  · intro s a t hs ha ht
    cases ht
    exact mirrors_setEnableAudioPort hs a.2 a.1 ha
  · intro s a hs
    rw [TruthfulStep, ← truthful_iff hs a.2 a.1]
    constructor
    · intro h
      exact h _ rfl
    · intro h t ht
      cases ht
      exact h
  · exact mirrors_create received

def spdif0 : PortRequest where
  audioPort := some "SPDIF0".toList
  enable := some true
  other := by decide

/-- `setEnablePort` fails. -/
def failingPort : ArcEnv where
  enablesPort := false
  powerState := some .on

/-- The failing request is announced as if the port were enabled. -/
theorem not_truthful_failingPort :
    ¬ Along portStep TruthfulStep (AudioPorts.create false) [(failingPort, spdif0)] := by
  intro h
  have htruthful := (truthful_iff (mirrors_create false) spdif0 failingPort).mp (h.1 _ rfl)
  have hcompletes := htruthful _ true rfl rfl (by decide) (by decide)
  exact absurd hcompletes (by decide)

end DeviceAndDisplay.DisplaySettings
