import DeviceAndDisplay.Model.DisplaySettings.Allm
import DeviceAndDisplay.Transition.Run
import DeviceAndDisplay.Verification.SystemMode.Clients

/-! # ALLM follows the system mode

`SystemMode` and `DisplaySettings` together. Once a state was requested and as long as
`DisplaySettings` is a client, the display signals the state that `SystemMode` reports, also when
another display is connected. -/

namespace DeviceAndDisplay.DisplaySettings

open Helpers Transition

namespace VideoPorts

variable {d : VideoPorts} {port : VideoPort} {newState : Text} {calls : Text → ℕ}

/-! ### One port -/

/-- What `isDisplayConnected` returns for the port. -/
def seen (c : DisplayCache) (port : VideoPort) : Bool :=
  if c.isDisplayConnectedCacheUpdated then c.isHdmiDisplayConnected else port.isDisplayConnected

/-- The cache after the call. -/
def filled (c : DisplayCache) (port : VideoPort) : DisplayCache :=
  { c with isHdmiDisplayConnected := seen c port, isDisplayConnectedCacheUpdated := true }

@[simp] theorem seen_filled (c : DisplayCache) (port : VideoPort) :
    seen (filled c port) port = seen c port := rfl

@[simp] theorem filled_filled (c : DisplayCache) (port : VideoPort) :
    filled (filled c port) port = filled c port := rfl

theorem isDisplayConnected_single (hport : port.name = hdmi0) (c : DisplayCache) :
    c.isDisplayConnected (reported [port]) hdmi0 = (some (seen c port), filled c port) := by
  have hcontains : ¬ stringContains hdmi0 hdmi0 = false := by decide
  have hfound : (reported [port]).isDisplayConnected hdmi0 = some port.isDisplayConnected := by
    simp [reported, hport]
  rw [DisplayCache.isDisplayConnected]
  cases hupdated : c.isDisplayConnectedCacheUpdated with
  | false =>
      rw [if_pos (.inl rfl), hfound]
      simp [seen, filled, hupdated]
  | true =>
      have hfilled : filled c port = c := by
        cases c
        cases hupdated
        rfl
      rw [if_neg (by simp [hcontains]), hfilled, seen, if_pos hupdated]

/-- A query for another name leaves the cache alone. -/
theorem isDisplayConnected_other {name : Text} (hport : port.name = hdmi0) (hname : name ≠ hdmi0)
    (c : DisplayCache) : (c.isDisplayConnected (reported [port]) name).2 = c := by
  have hmissing : (reported [port]).isDisplayConnected name = none := by
    simp [reported, hport, Ne.symm hname]
  rw [DisplayCache.isDisplayConnected, hmissing]
  split <;> rfl

theorem connectedDisplays_single (hport : port.name = hdmi0) (c : DisplayCache) :
    connectedDisplays (reported [port]) [port] [] c =
      (if seen c port then [hdmi0] else [], filled c port) := by
  have hhdmi : isHdmi hdmi0 = true := by decide
  rw [connectedDisplays, hport, isDisplayConnected_single hport]
  cases seen c port
  · rfl
  · rw [if_pos rfl]
    simp [hhdmi]

/-- The port after `Request`. -/
def answered (newState : Text) (calls : Text → ℕ) (c : DisplayCache) (port : VideoPort) :
    VideoPort :=
  if seen c port then { port with display := port.display.signal newState (calls hdmi0) }
  else port

theorem request_single (hd : d.ports = [port]) (hport : port.name = hdmi0) (newState : Text)
    (calls : Text → ℕ) :
    (d.request newState calls).2 = { d with
      ports := [answered newState calls d.cache port]
      cache := filled d.cache port } := by
  rw [request, getConnectedVideoDisplaysHelper, hd, connectedDisplays_single hport]
  cases hseen : seen d.cache port with
  | false => simp [answered, hseen, ← hd]
  | true =>
      have hat : requestAt newState calls { d with ports := [port], cache := filled d.cache port }
          hdmi0 = { d with
            ports := [{ port with display := port.display.signal newState (calls hdmi0) }]
            cache := filled d.cache port } := by
        rw [requestAt, if_pos ⟨port, List.mem_singleton_self _, hport⟩]
        dsimp only
        rw [isDisplayConnected_single hport, seen_filled, hseen, filled_filled]
        simp [hport]
      simp only [answered, hseen, if_true, List.foldl_cons, List.foldl_nil]
      exact hat

/-! ### What is signalled -/

/-- What the displays are to signal in a state. -/
def signalled : SystemMode.State → VideoDisplay
  | .game => ⟨.game, .underscan, true⟩
  | _ => ⟨.notSignalled, .noData, false⟩

/-- The only port is `HDMI0`. -/
def Single (d : VideoPorts) : Prop := ∃ port, d.ports = [port] ∧ port.name = hdmi0

/-- The cached connection is the one of the port. -/
def Truthful (d : VideoPorts) : Prop :=
  d.cache.isDisplayConnectedCacheUpdated = true →
    ∀ port ∈ d.ports, d.cache.isHdmiDisplayConnected = port.isDisplayConnected

/-- Every display that is connected signals the state. -/
def Signals (state : SystemMode.State) (d : VideoPorts) : Prop :=
  ∀ port ∈ d.ports, port.isDisplayConnected = true → port.display = signalled state

variable {state : SystemMode.State} {name : Text}

theorem signal_of_complete (hname : (state, name) ∈ SystemMode.SystemModeImplementation.stateNames)
    {n : ℕ} (hcalls : 3 ≤ n) (display : VideoDisplay) :
    display.signal name n = signalled state := by
  have hone : 1 ≤ n := by omega
  have htwo : 2 ≤ n := by omega
  have hvideo : SystemMode.video ≠ SystemMode.game := by decide
  rcases SystemMode.SystemModeImplementation.mem_stateNames.mp hname with ⟨rfl, rfl⟩ | ⟨rfl, rfl⟩
  · simp [VideoDisplay.signal, hone, htwo, hcalls, hvideo, signalled]
  · simp [VideoDisplay.signal, hone, htwo, hcalls, signalled]

@[simp] theorem answered_isDisplayConnected (newState : Text) (calls : Text → ℕ) (c : DisplayCache)
    (port : VideoPort) :
    (answered newState calls c port).isDisplayConnected = port.isDisplayConnected := by
  unfold answered
  split <;> rfl

@[simp] theorem answered_name (newState : Text) (calls : Text → ℕ) (c : DisplayCache)
    (port : VideoPort) : (answered newState calls c port).name = port.name := by
  unfold answered
  split <;> rfl

theorem seen_of_truthful (hd : d.ports = [port]) (h : d.Truthful) :
    seen d.cache port = port.isDisplayConnected := by
  unfold seen
  split
  · rename_i hupdated
    exact h hupdated port (by simp [hd])
  · rfl

theorem Single.request (h : d.Single) (newState : Text) (calls : Text → ℕ) :
    (d.request newState calls).2.Single := by
  obtain ⟨port, hd, hport⟩ := h
  rw [request_single hd hport]
  exact ⟨_, rfl, by rw [answered_name, hport]⟩

theorem Truthful.request (h : d.Truthful) (hd : d.Single) (newState : Text) (calls : Text → ℕ) :
    (d.request newState calls).2.Truthful := by
  obtain ⟨port, hd, hport⟩ := hd
  rw [request_single hd hport]
  intro _ other hother
  rw [List.mem_singleton.mp hother, answered_isDisplayConnected]
  exact seen_of_truthful hd h

/-- If the cache is right and no call throws, `Request` reaches the connected display. -/
theorem signals_request (h : d.Truthful) (hd : d.Single)
    (hname : (state, name) ∈ SystemMode.SystemModeImplementation.stateNames)
    (hcalls : 3 ≤ calls hdmi0) : (d.request name calls).2.Signals state := by
  obtain ⟨port, hd, hport⟩ := hd
  rw [request_single hd hport]
  intro other hother hconnected
  rw [List.mem_singleton.mp hother] at hconnected ⊢
  rw [answered_isDisplayConnected] at hconnected
  rw [answered, seen_of_truthful hd h, if_pos hconnected]
  exact signal_of_complete hname hcalls _

/-! ### Several requests -/

def requests (names : List Text) (calls : Text → ℕ) (d : VideoPorts) : VideoPorts :=
  names.foldl (fun d name => (d.request name calls).2) d

theorem Single.requests (h : d.Single) (names : List Text) (calls : Text → ℕ) :
    (d.requests names calls).Single := by
  induction names generalizing d with
  | nil => exact h
  | cons name names ih => exact ih (h.request name calls)

theorem Truthful.requests (h : d.Truthful) (hd : d.Single) (names : List Text)
    (calls : Text → ℕ) : (d.requests names calls).Truthful := by
  induction names generalizing d with
  | nil => exact h
  | cons name names ih => exact ih (h.request hd name calls) (hd.request name calls)

/-- Requests of one state. -/
theorem signals_requests (h : d.Truthful) (hd : d.Single)
    (hname : (state, name) ∈ SystemMode.SystemModeImplementation.stateNames)
    (hcalls : 3 ≤ calls hdmi0) {names : List Text} (hne : names ≠ [])
    (hall : ∀ other ∈ names, other = name) : (d.requests names calls).Signals state := by
  induction names generalizing d with
  | nil => exact absurd rfl hne
  | cons other names ih =>
      obtain rfl := hall other List.mem_cons_self
      by_cases hnil : names = []
      · subst hnil
        exact signals_request h hd hname hcalls
      · exact ih (h.request hd _ calls) (hd.request _ calls) hnil
          fun name' hmem => hall name' (List.mem_cons_of_mem _ hmem)

/-! ### A hot plug -/

/-- The notification of a hot plug. -/
def told (hdmiHotPlugEvent : ℤ) (d : VideoPorts) : VideoPorts :=
  { d with
    firstTime := false
    previousStatus := hdmiHotPlugEvent
    notified := if d.firstTime = true ∨ d.previousStatus ≠ hdmiHotPlugEvent then
        d.notified ++ [if hdmiHotPlugEvent = 0 then [hdmi0] else []]
      else d.notified }

/-- A hot plug asks the port anew, and signals the state that the file has. -/
theorem onDisplayHDMIHotPlug_eq {file : Option Text}
    (hfile : SystemMode.getSystemModePropertyValue SystemMode.deviceOptimize
      SystemMode.currentstate file = some name)
    (hname : (state, name) ∈ SystemMode.SystemModeImplementation.stateNames) (event : ℤ) :
    d.onDisplayHDMIHotPlug file calls event =
      ({ d.told event with cache := d.cache.invalidate }.request name calls).2 := by
  have hknown : name = SystemMode.video ∨ name = SystemMode.game :=
    (SystemMode.SystemModeImplementation.mem_stateNames.mp hname).imp And.right And.right
  rw [onDisplayHDMIHotPlug, connectedVideoDisplaysUpdated, hfile, Option.getD_some]
  dsimp only
  rw [if_pos hknown]
  by_cases hnew : d.firstTime = true ∨ d.previousStatus ≠ event
  · rw [if_pos hnew, told, if_pos hnew]
  · have hfirst : d.firstTime = false := by
      rw [not_or] at hnew
      simpa using hnew.1
    rw [if_neg hnew, told, if_neg hnew, hfirst]

end VideoPorts

end DeviceAndDisplay.DisplaySettings

/-! ### Requests to one plugin -/

namespace DeviceAndDisplay.SystemMode.Tracked

open SystemModeImplementation

variable {s t : Tracked} {state : State} {name c : Text}

/-- The requests that an action makes. -/
def requests (s : Tracked) : Action → List Request
  | .clientActivated env callsign systemMode => (s.plugin.clientActivated env callsign systemMode).1
  | .clientDeactivated .. => []
  | .requestState io mode state => (s.plugin.requestState io mode state).1.getD []
  | .restart io activations => (construct io activations s.plugin.file).asked

/-- What the activators of one plugin are asked for. -/
def requestsTo (c : Text) (requests : List Request) : List Text :=
  (requests.filter fun request => request.1.plugin = c).map Prod.snd

theorem reports_unique {state' : State} {name' : Text} (h : s.plugin.Reports state name)
    (h' : s.plugin.Reports state' name') : state = state' ∧ name = name' := by
  have hstate := h.getState
  rw [h'.getState] at hstate
  cases hstate
  exact ⟨rfl, name_eq_of_state h.named h'.named⟩

theorem mem_plugins_replaceActivator {activator : Activator} {activators : List Activator}
    (h : c ∈ plugins (replaceActivator activator activators)) :
    c = activator.plugin ∨ c ∈ plugins activators := by
  rw [plugins_replaceActivator] at h
  rcases List.mem_append.mp h with h | h
  · exact .inr (List.mem_filter.mp h).1
  · exact .inl (List.mem_singleton.mp h)

/-- After an action, a client either was asked for the state that is reported, or the state and the
client are as they were. -/
theorem asked_or_kept (hs : s.Sound) {a : Action} (hC : s.Current a) (h : s.step a = some t)
    (hrequested : t.requested = true) (hactive : c ∈ plugins t.active)
    (hreports : t.plugin.Reports state name) :
    (requestsTo c (s.requests a) = [] ∧ s.requested = true ∧ c ∈ plugins s.active ∧
      s.plugin.Reports state name) ∨
    (requestsTo c (s.requests a) ≠ [] ∧ ∀ other ∈ requestsTo c (s.requests a), other = name) := by
  obtain ⟨state₀, name₀, hreports₀⟩ := hs.reports
  cases a with
  | clientActivated env callsign systemMode =>
      cases h
      cases hobtained : obtained env callsign systemMode with
      | none =>
          rw [clientActivated_of_none hobtained] at hrequested hactive hreports
          rw [requests, SystemModeImplementation.clientActivated_of_none hobtained]
          exact .inl ⟨rfl, hrequested, hactive, hreports⟩
      | some activator =>
          rw [clientActivated_of_some hreports₀ hobtained] at hrequested hactive hreports
          obtain ⟨rfl, rfl⟩ := reports_unique hreports (hreports₀.withClient env activator)
          have hstate : s.plugin.stateRequested = true := hs.requested ▸ hrequested
          rw [requests, hreports₀.clientActivated hobtained, if_pos hstate]
          by_cases hc : activator.plugin = c
          · right
            simp [requestsTo, hc]
          · left
            refine ⟨by simp [requestsTo, hc], hrequested, ?_, hreports₀⟩
            exact (mem_plugins_replaceActivator hactive).resolve_left (Ne.symm hc)
  | clientDeactivated io callsign systemMode =>
      cases h
      left
      have hkept : (s.clientDeactivated io callsign systemMode).plugin.Reports state₀ name₀ := by
        simp only [Tracked.clientDeactivated, SystemModeImplementation.clientDeactivated]
        split
        · exact hreports₀
        · split
          · exact ⟨hreports₀.map, hreports₀.named,
              hreports₀.file.update_callsign io callsign .delete⟩
          · exact hreports₀
      obtain ⟨rfl, rfl⟩ := reports_unique hreports hkept
      refine ⟨rfl, hrequested, ?_, hreports₀⟩
      simp only [Tracked.clientDeactivated] at hactive
      split at hactive
      · rw [plugins_withoutPlugin] at hactive
        exact (List.mem_filter.mp hactive).1
      · exact hactive
  | requestState io mode asked =>
      cases h
      by_cases hnamed : mode = .deviceOptimize ∧ ∃ name', (asked, name') ∈ stateNames
      · obtain ⟨rfl, name', hname'⟩ := hnamed
        obtain ⟨hcurrent, hfile⟩ := hC rfl name' hname'
        obtain ⟨hrequests, hstep⟩ := requestState_of_named hs io hname'
        rw [hstep] at hactive hreports
        have hsame : name' = name := by
          rcases hfile with hwrites | hnil | hread
          · exact (reports_unique (hreports₀.withState_of_writes hwrites hname') hreports).2
          · have hnone : c ∈ plugins s.active := hactive
            rw [hnil] at hnone
            cases hnone
          · by_cases hwrites : io.writes = true
            · exact (reports_unique (hreports₀.withState_of_writes hwrites hname') hreports).2
            · have hfails := hreports₀.withState_of_fails hwrites hname'
              have hname₀ := (reports_unique hfails hreports).2
              rw [hreports₀.file.read] at hread
              exact (Option.some.inj hread).symm.trans hname₀
        right
        rw [requests, hrequests, Option.getD_some]
        have hclient : c ∈ plugins s.plugin.clients := (hs.same c).mpr hactive
        obtain ⟨client, hmem, rfl⟩ := List.mem_map.mp hclient
        constructor
        · apply List.ne_nil_of_mem
          apply List.mem_map_of_mem
          exact List.mem_filter.mpr ⟨List.mem_map_of_mem hmem, by simp⟩
        · intro other hother
          obtain ⟨request, hrequest, rfl⟩ := List.mem_map.mp hother
          obtain ⟨_, -, rfl⟩ := List.mem_map.mp (List.mem_filter.mp hrequest).1
          exact hsame
      · obtain ⟨hnone, hstep⟩ :=
          requestState_of_refused hs io (not_and_or.mp hnamed |>.imp_right not_exists.mp)
        rw [hstep] at hrequested hactive hreports
        rw [requests, hnone]
        exact .inl ⟨rfl, hrequested, hactive, hreports⟩
  | restart io activations =>
      cases h
      rw [construct_requested] at hrequested
      cases hrequested

end DeviceAndDisplay.SystemMode.Tracked

/-! ### The two plugins -/

namespace DeviceAndDisplay.DisplaySettings

open Helpers Transition

/-- `"org.rdk.DisplaySettings"` -/
def displaySettings : Text := "org.rdk.DisplaySettings".toList

/-- `SystemMode` and `DisplaySettings`, with the changes of the connection that the latter has not
been told yet. -/
structure AllmSystem where
  mode : SystemMode.Tracked
  displays : VideoPorts
  unannounced : ℕ := 0

/-- The number of calls for a display that do not throw belongs to the actions that make them. -/
inductive AllmAction where
  | systemMode (action : SystemMode.Action) (calls : Text → ℕ)
  /-- A query of any other method. -/
  | isDisplayConnected (port : Text)
  | changeConnection (isConnected : Bool) (display : VideoDisplay)
  | onDisplayHDMIHotPlug (displayEvent : ℤ) (calls : Text → ℕ)

namespace AllmSystem

def step (s : AllmSystem) : AllmAction → Option AllmSystem
  | .systemMode action calls =>
      (s.mode.step action).map fun mode =>
        { s with
          mode := mode
          displays := s.displays.requests
            (SystemMode.Tracked.requestsTo displaySettings (s.mode.requests action)) calls }
  | .isDisplayConnected port =>
      some { s with displays := { s.displays with
        cache := (s.displays.cache.isDisplayConnected (reported s.displays.ports) port).2 } }
  | .changeConnection isConnected display =>
      some { s with
        displays := { s.displays with
          ports := s.displays.ports.map fun port =>
            if port.name = hdmi0 then
              { port with isDisplayConnected := isConnected, display := display }
            else port }
        unannounced := s.unannounced + 1 }
  | .onDisplayHDMIHotPlug displayEvent calls =>
      some { s with
        displays := s.displays.onDisplayHDMIHotPlug s.mode.plugin.file calls displayEvent
        unannounced := s.unannounced - 1 }

/-- Both plugins have just been started. -/
def start (ports : List VideoPort) : AllmSystem where
  mode := .start
  displays := { ports := ports }

/-- A state is requested while the clients of `SystemMode` are current, and the calls for displays
do not throw. -/
def Answered (s : AllmSystem) : AllmAction → Prop
  | .systemMode action calls => s.mode.Current action ∧ 3 ≤ calls hdmi0
  | .onDisplayHDMIHotPlug _ calls => 3 ≤ calls hdmi0
  | _ => True

structure Follows (s : AllmSystem) : Prop where
  sound : s.mode.Sound
  single : s.displays.Single
  truthful : s.unannounced = 0 → s.displays.Truthful
  signals : s.mode.requested = true → displaySettings ∈ SystemMode.plugins s.mode.active →
    s.unannounced = 0 → ∀ state name, s.mode.plugin.Reports state name → s.displays.Signals state

variable {s t : AllmSystem}

theorem Follows.systemMode (hs : s.Follows) {action : SystemMode.Action} {calls : Text → ℕ}
    (hC : s.mode.Current action) (hcalls : 3 ≤ calls hdmi0)
    (h : s.step (.systemMode action calls) = some t) : t.Follows := by
  obtain ⟨mode, hmode, rfl⟩ := Option.map_eq_some_iff.mp h
  refine ⟨hs.sound.step hmode, hs.single.requests _ _,
    fun hzero => (hs.truthful hzero).requests hs.single _ _, ?_⟩
  intro hrequested hactive hzero state name hreports
  rcases SystemMode.Tracked.asked_or_kept hs.sound hC hmode hrequested hactive hreports with
    ⟨hnone, hrequested, hactive, hreports⟩ | ⟨hne, hall⟩
  · have hsame := hs.signals hrequested hactive hzero state name hreports
    rw [hnone]
    exact hsame
  · exact VideoPorts.signals_requests (hs.truthful hzero) hs.single hreports.named hcalls hne hall

theorem Follows.isDisplayConnected (hs : s.Follows) {port : Text}
    (h : s.step (.isDisplayConnected port) = some t) : t.Follows := by
  cases h
  obtain ⟨only, hports, hname⟩ := hs.single
  by_cases hport : port = hdmi0
  · subst hport
    refine ⟨hs.sound, ⟨only, hports, hname⟩, ?_, hs.signals⟩
    intro hzero _ other hother
    have hseen := VideoPorts.seen_of_truthful hports (hs.truthful hzero)
    rw [hports] at hother ⊢
    rw [List.mem_singleton.mp hother, VideoPorts.isDisplayConnected_single hname]
    exact hseen
  · rw [hports, VideoPorts.isDisplayConnected_other hname hport]
    exact hs

theorem Follows.changeConnection (hs : s.Follows) {isConnected : Bool} {display : VideoDisplay}
    (h : s.step (.changeConnection isConnected display) = some t) : t.Follows := by
  cases h
  obtain ⟨only, hports, hname⟩ := hs.single
  refine ⟨hs.sound, ⟨_, by rw [hports]; rfl, ?_⟩, fun hzero => ?_, fun _ _ hzero => ?_⟩
  · dsimp only
    rw [if_pos hname]
    exact hname
  · exact absurd hzero (Nat.succ_ne_zero _)
  · exact absurd hzero (Nat.succ_ne_zero _)

/-- A hot plug makes up for what was missed. -/
theorem Follows.onDisplayHDMIHotPlug (hs : s.Follows) {displayEvent : ℤ} {calls : Text → ℕ}
    (hcalls : 3 ≤ calls hdmi0) (h : s.step (.onDisplayHDMIHotPlug displayEvent calls) = some t) :
    t.Follows := by
  cases h
  obtain ⟨state, name, hreports⟩ := hs.sound.reports
  have heq : s.displays.onDisplayHDMIHotPlug s.mode.plugin.file calls displayEvent = _ :=
    VideoPorts.onDisplayHDMIHotPlug_eq hreports.file.read hreports.named displayEvent
  rw [heq]
  have hsingle : VideoPorts.Single { s.displays.told displayEvent with
      cache := s.displays.cache.invalidate } := hs.single
  have htruthful : VideoPorts.Truthful { s.displays.told displayEvent with
      cache := s.displays.cache.invalidate } := fun hupdated => nomatch hupdated
  refine ⟨hs.sound, hsingle.request _ _, fun _ => htruthful.request hsingle _ _, ?_⟩
  intro _ _ _ state' name' hreports'
  obtain ⟨rfl, rfl⟩ := SystemMode.Tracked.reports_unique hreports hreports'
  exact VideoPorts.signals_request htruthful hsingle hreports.named hcalls

theorem Follows.step (hs : s.Follows) {a : AllmAction} (hC : s.Answered a)
    (h : s.step a = some t) : t.Follows := by
  cases a with
  | systemMode action calls => exact hs.systemMode hC.1 hC.2 h
  | isDisplayConnected port => exact hs.isDisplayConnected h
  | changeConnection isConnected display => exact hs.changeConnection h
  | onDisplayHDMIHotPlug displayEvent calls => exact hs.onDisplayHDMIHotPlug hC h

/-- The game mode is requested, and then another display is connected. -/
def newDisplay : List AllmAction :=
  [.systemMode (.clientActivated { activator := some 1 } displaySettings SystemMode.deviceOptimize)
      fun _ => 3,
    .systemMode (.requestState {} .deviceOptimize .game) fun _ => 3,
    .changeConnection true ⟨.other 1, .other 1, false⟩, .onDisplayHDMIHotPlug 0 fun _ => 3]

end AllmSystem

end DeviceAndDisplay.DisplaySettings
