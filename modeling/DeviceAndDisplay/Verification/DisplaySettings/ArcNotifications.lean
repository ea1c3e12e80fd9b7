import DeviceAndDisplay.Verification.DisplaySettings.ArcConnection
import DeviceAndDisplay.Transition.Run

/-! # Connecting and notifying

The events of `HDMI_ARC0` alternate. After the end of CEC the device is disconnected, but its ARC
still counts as initiated, and then the next initiation is ignored. -/

namespace DeviceAndDisplay.DisplaySettings

open Helpers Transition

/-! ### Alternating events -/

/-- `true`, `false`, `true` and so on. -/
def Alternates (events : List Bool) : Prop :=
  ∀ i (h : i < events.length), events[i] = decide (i % 2 = 0)

theorem alternates_concat {events : List Bool} (h : Alternates events) :
    Alternates (events ++ [decide (events.length % 2 = 0)]) := by
  intro i hi
  by_cases hlt : i < events.length
  · rw [List.getElem_append_left hlt]
    exact h i hlt
  · have heq : i = events.length := by
      rw [List.length_append, List.length_singleton] at hi
      omega
    rw [List.getElem_append_right (Nat.not_lt.mp hlt)]
    simp [heq]

/-- The last of the events says whether their number is odd. -/
theorem Alternates.getLast? {events : List Bool} (h : Alternates events) :
    events.getLast?.getD false = decide (events.length % 2 = 1) := by
  rw [List.getLast?_eq_getElem?]
  cases hlen : events.length with
  | zero => simp_all
  | succ n =>
      have hlt : n < events.length := by omega
      rw [Nat.add_sub_cancel, List.getElem?_eq_getElem hlt, Option.getD_some, h n hlt]
      apply decide_eq_decide.mpr
      omega

namespace Connection

/-! ### Notifications -/

/-- What was told, the oldest first, alternates and agrees with both flags. -/
structure Agrees (l : Connection) : Prop where
  notified : l.arcEarcConnectionNotifiedToUI = .connected ↔ l.hdmiInAudioDeviceConnected = true
  parity : l.hdmiInAudioDeviceConnected = decide (l.told.length % 2 = 1)
  alternates : Alternates l.told.reverse

variable {l k : Connection}

theorem Agrees.route (h : l.Agrees) (state : ArcState) : (l.route state).Agrees :=
  ⟨h.notified, h.parity, h.alternates⟩

/-- The UI is told the other value, with the flag. -/
theorem Agrees.notify (h : l.Agrees) {connected : Bool}
    (hother : l.hdmiInAudioDeviceConnected = !connected) :
    ((l.setConnected connected).notify connected).Agrees where
  notified := by cases connected <;> simp [Connection.notify, setConnected]
  parity := by
    have hparity := h.parity
    rw [hother] at hparity
    change connected = decide ((l.told.length + 1) % 2 = 1)
    cases connected <;> simp at hparity ⊢ <;> omega
  alternates := by
    have hparity := h.parity
    rw [hother] at hparity
    have hvalue : connected = decide (l.told.reverse.length % 2 = 0) := by
      rw [List.length_reverse]
      cases connected <;> simp at hparity ⊢ <;> omega
    change Alternates (connected :: l.told).reverse
    rw [List.reverse_cons, hvalue]
    exact alternates_concat h.alternates

theorem Agrees.connect (h : l.Agrees) : l.connect.Agrees := by
  unfold Connection.connect
  split
  · exact h
  · rename_i hc
    split
    · exact h.notify (eq_false_of_ne_true hc)
    · rename_i hn
      refine absurd (h.notified.mp ?_) hc
      cases hl : l.arcEarcConnectionNotifiedToUI with
      | disconnected => exact absurd hl hn
      | connected => rfl

theorem Agrees.disconnect (h : l.Agrees) : l.disconnect.Agrees := by
  unfold Connection.disconnect
  split
  · rename_i hc
    exact h.notify hc
  · exact h

theorem Agrees.release (h : l.Agrees) : l.release.Agrees := by
  unfold Connection.release
  split
  · rename_i hc
    rw [if_pos (h.notified.mpr hc)]
    exact h.notify hc
  · exact h

theorem Agrees.move (h : l.Agrees) (hmove : l.Move k) : k.Agrees := by
  cases hmove with
  | stay => exact h
  | initiated => exact (h.route _).connect
  | terminated => exact h.route _
  | requested => exact h.route _
  | detected => exact h.connect
  | released => exact (h.route _).release
  | disconnected => exact (h.route _).disconnect

/-! ### Initiations -/

/-- An initiation is ignored only while the device is connected; the UI knows what the flag says. -/
structure Open (l : Connection) : Prop where
  routing : l.hdmiInAudioDeviceConnected = false → l.currentArcRoutingState ≠ .arcInitiated
  notified : l.arcEarcConnectionNotifiedToUI = .connected ↔ l.told.head? = some true

theorem notify_notified (l : Connection) (connected : Bool) :
    (l.notify connected).arcEarcConnectionNotifiedToUI = .connected ↔
      (l.notify connected).told.head? = some true := by
  cases connected <;> simp [notify]

theorem connect_connected (l : Connection) : l.connect.hdmiInAudioDeviceConnected = true := by
  unfold connect
  split
  · assumption
  · split <;> rfl

theorem connect_told (h : l.hdmiInAudioDeviceConnected = false) :
    l.connect.told = true :: l.told ∨
      l.connect.told = l.told ∧ l.arcEarcConnectionNotifiedToUI = .connected := by
  unfold connect
  rw [if_neg (by simp [h])]
  split
  · exact .inl rfl
  · rename_i hn
    right
    cases hl : l.arcEarcConnectionNotifiedToUI with
    | disconnected => exact absurd hl hn
    | connected => exact ⟨rfl, rfl⟩

theorem connect_notified (h : l.Open) :
    l.connect.arcEarcConnectionNotifiedToUI = .connected ↔ l.connect.told.head? = some true := by
  unfold connect
  split
  · exact h.notified
  · split
    · exact notify_notified ..
    · exact h.notified

theorem Open.connect (h : l.Open) : l.connect.Open where
  routing hc := by
    rw [connect_connected] at hc
    cases hc
  notified := connect_notified h

theorem Open.initiated (h : l.Open) : (l.route .arcInitiated).connect.Open where
  routing hc := by
    rw [connect_connected] at hc
    cases hc
  notified := by
    unfold Connection.connect
    split
    · exact h.notified
    · split
      · exact notify_notified ..
      · exact h.notified

theorem Open.route (h : l.Open) {state : ArcState} (hstate : state ≠ .arcInitiated) :
    (l.route state).Open :=
  ⟨fun _ => hstate, h.notified⟩

theorem Open.notify (h : l.Open) (connected : Bool) : (l.notify connected).Open :=
  ⟨h.routing, notify_notified ..⟩

theorem Open.release (h : l.Open) (hrouting : l.currentArcRoutingState ≠ .arcInitiated) :
    l.release.Open := by
  unfold Connection.release
  split
  · split
    · exact ⟨fun _ => hrouting, notify_notified ..⟩
    · exact ⟨fun _ => hrouting, h.notified⟩
  · exact h

theorem Open.disconnect (h : l.Open) (hrouting : l.hdmiInAudioDeviceConnected = true →
    l.currentArcRoutingState ≠ .arcInitiated) : l.disconnect.Open := by
  unfold Connection.disconnect
  split
  · rename_i hc
    exact ⟨fun _ => hrouting hc, notify_notified ..⟩
  · exact h

theorem Open.move (h : l.Open) (hmove : l.Move k) : k.Open := by
  cases hmove with
  | stay => exact h
  | initiated => exact h.initiated
  | terminated => exact h.route (by simp)
  | requested => exact h.route (by simp)
  | detected => exact h.connect
  | released => exact (h.route (by simp)).release (by simp [Connection.route])
  | disconnected => exact (h.route (by simp)).disconnect fun _ => by simp [Connection.route]

end Connection

namespace Arc

variable {s t : Arc}

/-! ### Runs -/

/-- What the UI was told of `HDMI_ARC0`, in its order. -/
def events (s : Arc) : List Bool := s.core.told.reverse

/-- Without hot-plugs of the output, the UI is told of every change once. -/
theorem notifications_alternate (received : Bool) (as : List (ArcEnv × ArcEvent))
    (hcalm : ∀ a ∈ as, a.1.Calm)
    (hplug : ∀ a ∈ as, ∀ connected, a.2 ≠ .audioOutHotPlug .hdmiArc connected)
    (hr : run arcStep (create received) as = some s) :
    (s.link.arcEarcConnectionNotifiedToUI = .connected ↔
      s.link.hdmiInAudioDeviceConnected = true) ∧
    Alternates s.events ∧ s.events.getLast?.getD false = s.link.hdmiInAudioDeviceConnected := by
  have hC : Along arcStep (fun _ a => a.1.Calm ∧
      ∀ connected, a.2 ≠ .audioOutHotPlug .hdmiArc connected) (create received) as :=
    along_of_forall fun a ha _ => ⟨hcalm a ha, hplug a ha⟩
  have hinit : (create received).connection.Agrees := by
    constructor
    · simp
    · rfl
    · intro i hi
      exact absurd hi (Nat.not_lt_zero i)
  have hagrees : s.connection.Agrees := by
    refine run_invariant (I := fun s => s.connection.Agrees) ?_ hinit hC hr
    intro s a t hs hc ht
    rcases connection_step hc.1 ht with hmove | ⟨connected, ha, _⟩ | ⟨_, _, _, heq⟩
    · exact hs.move hmove
    · exact absurd ha (hc.2 connected)
    · rw [heq]
      exact hs.disconnect
  refine ⟨hagrees.notified, hagrees.alternates, ?_⟩
  have hparity := hagrees.parity
  have hlast := Alternates.getLast? hagrees.alternates
  rw [List.length_reverse] at hlast
  exact hlast.trans hparity.symm

/-- ARC is initiated, then CEC is disabled. -/
def cecEnds : List (ArcEnv × ArcEvent) :=
  atHome .stereo
    [.initAudioPorts, .arcInitiation (some success), .cecEnabled (some "false".toList)]

theorem notifications_alternate_cecEnds :
    ∃ s, run arcStep (create false) cecEnds = some s ∧
      (s.link.arcEarcConnectionNotifiedToUI = .connected ↔
        s.link.hdmiInAudioDeviceConnected = true) ∧
      Alternates s.events ∧ s.events.getLast?.getD false = s.link.hdmiInAudioDeviceConnected ∧
      s.events = [true, false] := by
  have hplug : ∀ a ∈ cecEnds, ∀ connected, a.2 ≠ .audioOutHotPlug .hdmiArc connected := by
    simp [cecEnds, atHome]
  obtain ⟨hnotified, halternates, hlast⟩ :=
    notifications_alternate (s := _) false cecEnds (calm_atHome _ _) hplug rfl
  exact ⟨_, rfl, hnotified, halternates, hlast, rfl⟩

/-! ### Reconnecting -/

/-- If no device is connected, the next successful initiation connects one, and the UI is told
unless the last it was told is that a device is connected. -/
def Reconnects (s : Arc) : Prop :=
  s.link.hdmiInAudioDeviceConnected = false →
    s.link.currentArcRoutingState ≠ .arcInitiated ∧
    (s.device.systemAudioModePowerRequestedAndReceived = true → ∀ env : ArcEnv, env.Calm →
      ∃ t, arcStep s (env, .arcInitiation (some success)) = some t ∧
        t.link.hdmiInAudioDeviceConnected = true ∧
        (t.core.told = true :: s.core.told ∨
          t.core.told = s.core.told ∧ s.core.told.head? = some true))

/-- The end of CEC does not find ARC initiated by a connected device. -/
def LeavesNoInitiation (s : Arc) (a : ArcEnv × ArcEvent) : Prop :=
  ∀ enable, a.2 = .cecEnabled enable → enable ≠ some "true".toList →
    s.link.hdmiInAudioDeviceConnected = true → s.link.currentArcRoutingState ≠ .arcInitiated

theorem connection_arcInitiation {env : ArcEnv} (h : env.Calm)
    (hrouting : s.link.currentArcRoutingState ≠ .arcInitiated)
    (hreceived : s.device.systemAudioModePowerRequestedAndReceived = true) :
    (settled (s.onARCInitiation (some success) env)).connection =
      (s.connection.route .arcInitiated).connect := by
  unfold onARCInitiation
  simp [h.call, h.wantsSAD, ok_bind, hrouting, hreceived]

theorem reconnects_of_open (h : s.connection.Open) : s.Reconnects := by
  intro hdown
  refine ⟨h.routing hdown, fun hreceived env hcalm => ⟨_, rfl, ?_⟩⟩
  have hresult := connection_arcInitiation hcalm (h.routing hdown) hreceived
  generalize settled (s.onARCInitiation (some success) env) = t at hresult
  constructor
  · have hconnected := Connection.connect_connected (s.connection.route .arcInitiated)
    rw [← hresult] at hconnected
    exact hconnected
  · have htold : t.core.told = (s.connection.route .arcInitiated).connect.told := by
      rw [← hresult]
      rfl
    have hdown' : (s.connection.route .arcInitiated).hdmiInAudioDeviceConnected = false := hdown
    rw [htold]
    rcases Connection.connect_told hdown' with hnew | ⟨hsame, hnotified⟩
    · exact .inl hnew
    · exact .inr ⟨hsame, h.notified.mp hnotified⟩

theorem open_step {a : ArcEnv × ArcEvent} (hs : s.connection.Open) (hcalm : a.1.Calm)
    (hc : s.LeavesNoInitiation a) (ht : arcStep s a = some t) : t.connection.Open := by
  rcases connection_step hcalm ht with hmove | ⟨connected, _, heq⟩ | ⟨enable, ha, hoff, heq⟩
  · exact hs.move hmove
  · rw [heq]
    exact hs.notify connected
  · rw [heq]
    exact hs.disconnect (hc enable ha hoff)

/-- ARC can be established again in every state of a run exactly if CEC does not end while a
connected device has initiated ARC. -/
theorem arc_reestablished_iff (received : Bool) (as : List (ArcEnv × ArcEvent))
    (hcalm : ∀ a ∈ as, a.1.Calm) :
    Along arcStep (fun s a => ∀ t, arcStep s a = some t → t.Reconnects) (create received) as ↔
      Along arcStep LeavesNoInitiation (create received) as := by
  refine along_iff_along_of_forall (I := fun s => s.connection.Open)
    (fun s a t hs ha hc ht => open_step hs ha hc ht) ?_ ?_ hcalm
  · intro s a hs ha
    constructor
    · intro h enable henable hoff hup hrouting
      have hstep : arcStep s a = some (s.onCecEnabled enable) := by
        rw [arcStep, henable]
      have hup' : s.connection.hdmiInAudioDeviceConnected = true := hup
      have hdown : (s.onCecEnabled enable).connection.hdmiInAudioDeviceConnected = false ∧
          (s.onCecEnabled enable).connection.currentArcRoutingState = .arcInitiated := by
        rw [connection_onCecEnabled hoff, Connection.disconnect, if_pos hup']
        exact ⟨rfl, hrouting⟩
      exact (h _ hstep hdown.1).1 hdown.2
    · intro hc t ht
      exact reconnects_of_open (open_step hs ha hc ht)
  · exact ⟨fun _ => by simp, by simp⟩

/-- ARC is initiated, then terminated. -/
def terminates : List (ArcEnv × ArcEvent) :=
  atHome .stereo
    [.initAudioPorts, .arcInitiation (some success), .arcTermination (some success)]

theorem arc_reestablished_terminates :
    Along arcStep (fun s a => ∀ t, arcStep s a = some t → t.Reconnects) (create false)
      terminates := by
  have hcec : ∀ a ∈ terminates, ∀ enable, a.2 ≠ .cecEnabled enable := by
    simp [terminates, atHome]
  have hC : Along arcStep LeavesNoInitiation (create false) terminates :=
    along_of_forall fun a ha s enable henable => absurd henable (hcec a ha enable)
  exact (arc_reestablished_iff false terminates (calm_atHome _ _)).mpr hC

/-- After CEC ended, the device initiates ARC again and stays disconnected. -/
theorem initiation_ignored :
    ∃ s t, run arcStep (create false) cecEnds = some s ∧
      s.link.hdmiInAudioDeviceConnected = false ∧
      s.device.systemAudioModePowerRequestedAndReceived = true ∧
      s.link.currentArcRoutingState = .arcInitiated ∧
      arcStep s (.atHome .stereo, .arcInitiation (some success)) = some t ∧
      t.link.hdmiInAudioDeviceConnected = false ∧ t.events = s.events :=
  ⟨_, _, rfl, rfl, rfl, rfl, rfl, rfl, rfl⟩

end Arc

end DeviceAndDisplay.DisplaySettings
