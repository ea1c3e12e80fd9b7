import DeviceAndDisplay.Model.SystemMode.SystemModeImplementation
import DeviceAndDisplay.Transition.Run
import DeviceAndDisplay.Verification.SystemMode.StateLine

/-! # Clients that follow the system mode

The map of clients keeps the activator of the first activation, so the clients follow the system
mode as long as no state is requested while another one is current. -/

namespace DeviceAndDisplay.SystemMode

open Storage Transition

namespace SystemModeImplementation

variable {s : SystemModeImplementation} {state state' : State} {name name' : Text}

/-! ### The state that is reported -/

/-- The states and their names. -/
def stateNames : List (State × Text) := [(.video, video), (.game, game)]

theorem mem_stateNames : (state, name) ∈ stateNames ↔
    (state = .video ∧ name = video) ∨ (state = .game ∧ name = game) := by
  simp [stateNames]

theorem lookup_stateNames : stateNames.lookup state = some name ↔ (state, name) ∈ stateNames := by
  rw [mem_stateNames]
  cases state with
  | video => simp [stateNames, eq_comm]
  | game =>
      have hvideo : (State.game == State.video) = false := by decide
      simp [stateNames, List.lookup_cons, hvideo, eq_comm]
  | other value =>
      have hvideo : (State.other value == State.video) = false := by simp
      have hgame : (State.other value == State.game) = false := by simp
      simp [stateNames, List.lookup_cons, hvideo, hgame]

theorem name_eq_of_state (h : (state, name) ∈ stateNames) (h' : (state, name') ∈ stateNames) :
    name = name' :=
  Option.some.inj ((lookup_stateNames.mpr h).symm.trans (lookup_stateNames.mpr h'))

theorem newline_not_mem_of_mem_stateNames (h : (state, name) ∈ stateNames) : '\n' ∉ name := by
  rcases mem_stateNames.mp h with ⟨-, rfl⟩ | ⟨-, rfl⟩ <;> decide

theorem ne_nil_of_mem_stateNames (h : (state, name) ∈ stateNames) : name ≠ [] := by
  rcases mem_stateNames.mp h with ⟨-, rfl⟩ | ⟨-, rfl⟩ <;> decide

/-- The map of states is as the constructor made it, and the file has the name of the state. -/
structure Reports (state : State) (name : Text) (s : SystemModeImplementation) : Prop where
  map : s.deviceOptimizeStateMap = stateNames
  named : (state, name) ∈ stateNames
  file : StateFirst name s.file

theorem Reports.getState (h : s.Reports state name) :
    s.getState .deviceOptimize = some (some state) := by
  have hread : getSystemModePropertyValue deviceOptimize currentstate s.file = some name :=
    h.file.read
  have hfind : (stateNames.find? fun pair => pair.2 = name).map Prod.fst = some state := by
    rcases mem_stateNames.mp h.named with ⟨rfl, rfl⟩ | ⟨rfl, rfl⟩ <;> decide
  simp [SystemModeImplementation.getState, systemModeMap, hread, h.map, hfind]

/-! ### One call -/

/-- The activator that a call of `ClientActivated` obtains. -/
def obtained (env : Activation) (callsign systemMode : Text) : Option Activator :=
  if systemMode = deviceOptimize ∧ callsign ≠ [] then env.activator.map (Activator.mk callsign)
  else none

theorem Reports.lateRequest (h : s.Reports state name) (activator : Activator) (unset : State) :
    s.lateRequest activator unset = (if s.stateRequested then [(activator, name)] else [], s) := by
  have hname : s.stateName state = (name, s) := by
    rw [stateName, h.map, lookup_stateNames.mpr h.named]
  rw [SystemModeImplementation.lateRequest, h.getState]
  cases s.stateRequested <;> simp [hname]

/-- The plugin with another client and its callsign in the file. -/
def withClient (env : Activation) (activator : Activator) (s : SystemModeImplementation) :
    SystemModeImplementation :=
  { s with
    clients := insertClient activator s.clients
    file := updateSystemModeFile env.io deviceOptimize callsign activator.plugin (some .add)
      s.file }

theorem Reports.withClient (h : s.Reports state name) (env : Activation) (activator : Activator) :
    (s.withClient env activator).Reports state name :=
  ⟨h.map, h.named, h.file.update_callsign env.io activator.plugin .add⟩

theorem clientActivated_of_none {env : Activation} {c systemMode : Text}
    (h : obtained env c systemMode = none) : s.clientActivated env c systemMode = ([], s) := by
  rw [clientActivated, systemModeInterfaceMap]
  by_cases hmode : systemMode = deviceOptimize
  · by_cases hc : c = []
    · simp [hmode, hc]
    · rw [obtained, if_pos ⟨hmode, hc⟩, Option.map_eq_none_iff] at h
      simp [hmode, hc, h]
  · simp [hmode]

theorem Reports.clientActivated (h : s.Reports state name) {env : Activation} {c systemMode : Text}
    {activator : Activator} (hobtained : obtained env c systemMode = some activator) :
    s.clientActivated env c systemMode =
      (if s.stateRequested then [(activator, name)] else [], s.withClient env activator) := by
  rw [obtained] at hobtained
  split_ifs at hobtained with hboth
  obtain ⟨id, hid, rfl⟩ := Option.map_eq_some_iff.mp hobtained
  have hlate := (h.withClient env ⟨c, id⟩).lateRequest ⟨c, id⟩ env.unset
  simp only [SystemModeImplementation.clientActivated, systemModeInterfaceMap, hboth.1, hboth.2,
    hid, if_true, ne_eq, not_false_eq_true]
  exact hlate

theorem requestState_of_none (io : FileIo) {mode : Mode}
    (h : mode ≠ .deviceOptimize ∨ s.deviceOptimizeStateMap.lookup state = none) :
    s.requestState io mode state = (none, s) := by
  cases mode with
  | deviceOptimize =>
      have hlookup : s.deviceOptimizeStateMap.lookup state = none := by simpa using h
      simp [requestState, systemModeMap, hlookup]
  | other value => rfl

/-- The plugin once a state was requested. -/
def withState (io : FileIo) (name : Text) (s : SystemModeImplementation) :
    SystemModeImplementation :=
  { s with
    file := updateSystemModeFile io deviceOptimize currentstate name (some .add) s.file
    stateRequested := true }

theorem Reports.requestState (h : s.Reports state name) (io : FileIo)
    (hname : (state', name') ∈ stateNames) :
    s.requestState io .deviceOptimize state' =
      (some (s.clients.map fun client => (client, name')), s.withState io name') := by
  have hlookup : s.deviceOptimizeStateMap.lookup state' = some name' := by
    rw [h.map]
    exact lookup_stateNames.mpr hname
  simp [SystemModeImplementation.requestState, systemModeMap, hlookup, withState]

theorem Reports.withState_of_writes (h : s.Reports state name) {io : FileIo}
    (hio : io.writes = true) (hname : (state', name') ∈ stateNames) :
    (s.withState io name').Reports state' name' := by
  refine ⟨h.map, hname, ?_⟩
  have hfile := h.file.update_state io (newline_not_mem_of_mem_stateNames hname)
  rwa [if_pos hio] at hfile

theorem Reports.withState_of_fails (h : s.Reports state name) {io : FileIo}
    (hio : ¬ io.writes = true) (hname : (state', name') ∈ stateNames) :
    (s.withState io name').Reports state name := by
  refine ⟨h.map, h.named, ?_⟩
  have hfile := h.file.update_state io (newline_not_mem_of_mem_stateNames hname)
  rwa [if_neg hio] at hfile

/-! ### The constructor -/

theorem stateFirst_startFile (h : StateFirst name s.file) (hname : name ≠ []) (io : FileIo) :
    StateFirst name (startFile io s.file).2 := by
  obtain ⟨text, htext⟩ := h.exists_text
  have hdefault : defaultState io s.file = s.file := by
    have hread := h.read
    rw [htext] at hread ⊢
    simp [defaultState, hread, hname]
  rw [startFile, hdefault, takeCallsigns]
  split
  · exact h.update_callsign io [] .deleteall
  · exact h

end SystemModeImplementation

open SystemModeImplementation

/-! ### Which activator is current -/

/-- The callsigns of a list of activators. -/
def plugins (activators : List Activator) : List Text := activators.map Activator.plugin

def withoutPlugin (c : Text) (activators : List Activator) : List Activator :=
  activators.filter fun activator => activator.plugin ≠ c

/-- The activator replaces the one of the same plugin. -/
def replaceActivator (activator : Activator) (activators : List Activator) : List Activator :=
  withoutPlugin activator.plugin activators ++ [activator]

theorem plugins_withoutPlugin (c : Text) (activators : List Activator) :
    plugins (withoutPlugin c activators) = (plugins activators).filter (· ≠ c) := by
  rw [plugins, plugins, List.filter_map]
  rfl

theorem plugins_replaceActivator (activator : Activator) (activators : List Activator) :
    plugins (replaceActivator activator activators) =
      (plugins activators).filter (· ≠ activator.plugin) ++ [activator.plugin] := by
  rw [← plugins_withoutPlugin, replaceActivator, plugins, List.map_append]
  rfl

theorem plugins_insertClient (activator : Activator) (clients : List Activator) :
    plugins (insertClient activator clients) =
      if activator.plugin ∈ plugins clients then plugins clients
      else plugins clients ++ [activator.plugin] := by
  simp only [insertClient, plugins, List.mem_map]
  split <;> simp

theorem nodup_snoc_filter {c : Text} {cs : List Text} (h : cs.Nodup) :
    (cs.filter (· ≠ c) ++ [c]).Nodup := by
  rw [List.nodup_append]
  refine ⟨h.filter _, by simp, ?_⟩
  intro d hd e he
  rw [List.mem_singleton.mp he]
  simpa using (List.mem_filter.mp hd).2

/-- The last request to an activator. -/
def lastAsked (activator : Activator) (asked : List Request) : Option Text :=
  ((asked.filter fun request => request.1 = activator).getLast?).map Prod.snd

theorem lastAsked_append_of_other {activator : Activator} {asked new : List Request}
    (h : ∀ request ∈ new, request.1 ≠ activator) :
    lastAsked activator (asked ++ new) = lastAsked activator asked := by
  have hnew : new.filter (fun request => request.1 = activator) = [] := by
    rw [List.filter_eq_nil_iff]
    intro request hrequest
    simpa using h request hrequest
  rw [lastAsked, List.filter_append, hnew, List.append_nil, lastAsked]

theorem lastAsked_append {activator : Activator} {name : Text} {asked new : List Request}
    (hmem : (activator, name) ∈ new)
    (h : ∀ request ∈ new, request.1 = activator → request.2 = name) :
    lastAsked activator (asked ++ new) = some name := by
  have hmem' : (activator, name) ∈ new.filter fun request => request.1 = activator := by
    simp [hmem]
  have hne := List.ne_nil_of_mem hmem'
  rw [lastAsked, List.filter_append, List.getLast?_append_of_ne_nil _ hne,
    List.getLast?_eq_some_getLast hne, Option.map_some]
  have hlast := List.mem_filter.mp (List.getLast_mem hne)
  rw [h _ hlast.1 (by simpa using hlast.2)]

/-! ### The plugin and what was asked -/

structure Tracked where
  plugin : SystemModeImplementation
  /-- The activator most recently obtained for each active callsign. -/
  active : List Activator := []
  requested : Bool := false
  /-- All requests, the latest one last. -/
  asked : List Request := []

inductive Action where
  | clientActivated (env : Activation) (callsign systemMode : Text)
  | clientDeactivated (io : FileIo) (callsign systemMode : Text)
  | requestState (io : FileIo) (mode : Mode) (state : State)
  /-- The plugin is destroyed and constructed again. -/
  | restart (io : FileIo) (activations : ℕ → Activation)

namespace Tracked

def clientActivated (env : Activation) (callsign systemMode : Text) (s : Tracked) : Tracked where
  plugin := (s.plugin.clientActivated env callsign systemMode).2
  active := (obtained env callsign systemMode).elim s.active (replaceActivator · s.active)
  requested := s.requested
  asked := s.asked ++ (s.plugin.clientActivated env callsign systemMode).1

def clientDeactivated (io : FileIo) (callsign systemMode : Text) (s : Tracked) : Tracked where
  plugin := s.plugin.clientDeactivated io callsign systemMode
  active := if systemMode = deviceOptimize then withoutPlugin callsign s.active else s.active
  requested := s.requested
  asked := s.asked

def requestState (io : FileIo) (mode : Mode) (state : State) (s : Tracked) : Tracked where
  plugin := (s.plugin.requestState io mode state).2
  active := s.active
  requested := s.requested || (s.plugin.requestState io mode state).1.isSome
  asked := s.asked ++ (s.plugin.requestState io mode state).1.getD []

/-- The constructor with its calls of `ClientActivated`. -/
def construct (io : FileIo) (activations : ℕ → Activation) (file : Option Text) : Tracked :=
  (startFile io file).1.zipIdx.foldl
    (fun s token => s.clientActivated (activations token.2) token.1 deviceOptimize)
    { plugin := { file := (startFile io file).2 } }

def step (s : Tracked) : Action → Option Tracked
  | .clientActivated env callsign systemMode => some (s.clientActivated env callsign systemMode)
  | .clientDeactivated io callsign systemMode =>
      some (s.clientDeactivated io callsign systemMode)
  | .requestState io mode state => some (s.requestState io mode state)
  | .restart io activations => some (construct io activations s.plugin.file)

/-- The plugin after its first start, which creates the file. -/
def start : Tracked := construct {} (fun _ => { activator := none }) none

/-- Its plugin is the one that the constructor makes. -/
theorem construct_plugin (io : FileIo) (activations : ℕ → Activation) (file : Option Text) :
    (construct io activations file).plugin =
      SystemModeImplementation.construct io activations file := by
  have hfold : ∀ (tokens : List (Text × ℕ)) (s : Tracked),
      (tokens.foldl (fun s token => s.clientActivated (activations token.2) token.1
        deviceOptimize) s).plugin =
      tokens.foldl (fun s token => (s.clientActivated (activations token.2) token.1
        deviceOptimize).2) s.plugin := by
    intro tokens
    induction tokens with
    | nil => exact fun s => rfl
    | cons token tokens ih => exact fun s => ih _
  exact hfold _ _

variable {s t : Tracked} {state : State} {name : Text}

/-- What holds of a fresh plugin and is kept by each activation holds after the constructor. -/
theorem construct_induction {P : Tracked → Prop} {io : FileIo} {file : Option Text}
    (hfresh : P { plugin := { file := (startFile io file).2 } })
    (hactivated : ∀ s env c systemMode, P s → P (s.clientActivated env c systemMode))
    (activations : ℕ → Activation) : P (construct io activations file) := by
  rw [construct]
  induction (startFile io file).1.zipIdx using List.reverseRecOn with
  | nil => exact hfresh
  | append_singleton tokens token ih =>
      rw [List.foldl_append]
      exact hactivated _ _ _ _ ih

theorem construct_requested (io : FileIo) (activations : ℕ → Activation) (file : Option Text) :
    (construct io activations file).requested = false :=
  construct_induction (P := fun s => s.requested = false) rfl (fun _ _ _ _ h => h) activations

/-! ### The invariant of every run -/

structure Sound (s : Tracked) : Prop where
  reports : ∃ state name, s.plugin.Reports state name
  requested : s.requested = s.plugin.stateRequested
  clients_nodup : (plugins s.plugin.clients).Nodup
  active_nodup : (plugins s.active).Nodup
  same : ∀ c, c ∈ plugins s.plugin.clients ↔ c ∈ plugins s.active

theorem clientActivated_of_none {env : Activation} {c systemMode : Text}
    (h : obtained env c systemMode = none) : s.clientActivated env c systemMode = s := by
  simp [Tracked.clientActivated, SystemModeImplementation.clientActivated_of_none h, h]

/-- What a call that obtains an activator does. -/
def activated (env : Activation) (activator : Activator) (name : Text) (s : Tracked) :
    Tracked where
  plugin := s.plugin.withClient env activator
  active := replaceActivator activator s.active
  requested := s.requested
  asked := s.asked ++ if s.plugin.stateRequested then [(activator, name)] else []

theorem clientActivated_of_some (h : s.plugin.Reports state name) {env : Activation}
    {c systemMode : Text} {activator : Activator}
    (hobtained : obtained env c systemMode = some activator) :
    s.clientActivated env c systemMode = s.activated env activator name := by
  rw [Tracked.clientActivated, h.clientActivated hobtained, hobtained]
  rfl

theorem Sound.clientActivated (hs : s.Sound) (env : Activation) (c systemMode : Text) :
    (s.clientActivated env c systemMode).Sound := by
  obtain ⟨state, name, hreports⟩ := hs.reports
  cases hobtained : obtained env c systemMode with
  | none =>
      rw [clientActivated_of_none hobtained]
      exact hs
  | some activator =>
      rw [clientActivated_of_some hreports hobtained]
      have hinsert : plugins (s.activated env activator name).plugin.clients = _ :=
        plugins_insertClient activator s.plugin.clients
      have hreplace : plugins (s.activated env activator name).active = _ :=
        plugins_replaceActivator activator s.active
      refine ⟨⟨state, name, hreports.withClient env activator⟩, hs.requested, ?_, ?_, ?_⟩
      · rw [hinsert]
        split_ifs with hmem
        · exact hs.clients_nodup
        · rw [← List.concat_eq_append]
          exact hs.clients_nodup.concat hmem
      · rw [hreplace]
        exact nodup_snoc_filter hs.active_nodup
      · intro d
        rw [hinsert, hreplace]
        by_cases hd : d = activator.plugin
        · simp only [hd, List.mem_append, List.mem_singleton, or_true, iff_true]
          split_ifs with hmem
          · exact hmem
          · simp
        · have hsame := hs.same d
          split_ifs <;> simp [hd, hsame]

theorem Sound.clientDeactivated (hs : s.Sound) (io : FileIo) (c systemMode : Text) :
    (s.clientDeactivated io c systemMode).Sound := by
  obtain ⟨state, name, hreports⟩ := hs.reports
  simp only [Tracked.clientDeactivated, SystemModeImplementation.clientDeactivated,
    systemModeInterfaceMap]
  by_cases hmode : systemMode = deviceOptimize
  · rw [if_pos hmode, if_pos hmode]
    have hactive : (plugins (withoutPlugin c s.active)).Nodup := by
      rw [plugins_withoutPlugin]
      exact hs.active_nodup.filter _
    by_cases hmem : ∃ client ∈ s.plugin.clients, client.plugin = c
    · have hclients : plugins (s.plugin.clients.filter fun client => client.plugin ≠ c) = _ :=
        plugins_withoutPlugin c s.plugin.clients
      simp only [if_pos hmem]
      refine ⟨⟨state, name, hreports.map, hreports.named,
        hreports.file.update_callsign io c .delete⟩, hs.requested, ?_, hactive, ?_⟩
      · rw [hclients]
        exact hs.clients_nodup.filter _
      · intro d
        rw [hclients, plugins_withoutPlugin, List.mem_filter, List.mem_filter, hs.same]
    · simp only [if_neg hmem]
      have hnot : c ∉ plugins s.active := by
        rw [← hs.same, plugins, List.mem_map]
        exact hmem
      refine ⟨hs.reports, hs.requested, hs.clients_nodup, hactive, ?_⟩
      intro d
      rw [plugins_withoutPlugin, List.mem_filter, hs.same]
      constructor
      · intro hd
        refine ⟨hd, ?_⟩
        have hne : d ≠ c := fun heq => hnot (heq ▸ hd)
        simpa using hne
      · exact And.left
  · rw [if_neg hmode, if_neg hmode]
    exact hs

/-- What a call that is accepted does. -/
def stateRequested (io : FileIo) (name : Text) (s : Tracked) : Tracked where
  plugin := s.plugin.withState io name
  active := s.active
  requested := true
  asked := s.asked ++ s.plugin.clients.map fun client => (client, name)

theorem requestState_of_named (hs : s.Sound) (io : FileIo) (h : (state, name) ∈ stateNames) :
    (s.plugin.requestState io .deviceOptimize state).1 =
        some (s.plugin.clients.map fun client => (client, name)) ∧
      s.requestState io .deviceOptimize state = s.stateRequested io name := by
  obtain ⟨state', name', hreports⟩ := hs.reports
  have hrequest := hreports.requestState io h
  refine ⟨by rw [hrequest], ?_⟩
  simp [Tracked.requestState, hrequest, Tracked.stateRequested]

theorem requestState_of_refused (hs : s.Sound) (io : FileIo) {mode : Mode}
    (h : mode ≠ .deviceOptimize ∨ ∀ name, (state, name) ∉ stateNames) :
    (s.plugin.requestState io mode state).1 = none ∧ s.requestState io mode state = s := by
  obtain ⟨state', name', hreports⟩ := hs.reports
  have hnone : s.plugin.requestState io mode state = (none, s.plugin) := by
    apply requestState_of_none
    refine h.imp_right fun h => ?_
    rw [hreports.map]
    cases hlookup : stateNames.lookup state with
    | none => rfl
    | some name => exact absurd (lookup_stateNames.mp hlookup) (h name)
  refine ⟨by rw [hnone], ?_⟩
  simp [Tracked.requestState, hnone]

theorem Sound.requestState (hs : s.Sound) (io : FileIo) (mode : Mode) (state : State) :
    (s.requestState io mode state).Sound := by
  by_cases h : mode = .deviceOptimize ∧ ∃ name, (state, name) ∈ stateNames
  · obtain ⟨rfl, name, hname⟩ := h
    obtain ⟨state', name', hreports⟩ := hs.reports
    rw [(requestState_of_named hs io hname).2]
    refine ⟨?_, rfl, hs.clients_nodup, hs.active_nodup, hs.same⟩
    by_cases hio : io.writes = true
    · exact ⟨state, name, hreports.withState_of_writes hio hname⟩
    · exact ⟨state', name', hreports.withState_of_fails hio hname⟩
  · rw [not_and_or, not_exists] at h
    rw [(requestState_of_refused hs io h).2]
    exact hs

theorem Sound.construct (hs : s.Sound) (io : FileIo) (activations : ℕ → Activation) :
    (construct io activations s.plugin.file).Sound := by
  obtain ⟨state, name, hreports⟩ := hs.reports
  have hfresh : Sound { plugin := { file := (startFile io s.plugin.file).2 } } := by
    refine ⟨⟨state, name, rfl, hreports.named, ?_⟩, rfl, List.nodup_nil, List.nodup_nil,
      fun c => Iff.rfl⟩
    exact stateFirst_startFile hreports.file (ne_nil_of_mem_stateNames hreports.named) io
  exact construct_induction hfresh (fun s env c mode h => h.clientActivated env c mode) activations

theorem Sound.step (hs : s.Sound) {a : Action} (h : s.step a = some t) : t.Sound := by
  cases a with
  | clientActivated env c systemMode =>
      cases h
      exact hs.clientActivated env c systemMode
  | clientDeactivated io c systemMode =>
      cases h
      exact hs.clientDeactivated io c systemMode
  | requestState io mode state =>
      cases h
      exact hs.requestState io mode state
  | restart io activations =>
      cases h
      exact hs.construct io activations

theorem sound_start : start.Sound := by
  have hfile : startFile {} none = ([], some (stateLine video ++ ['\n'])) := by decide
  have hstart : start = { plugin := { file := some (stateLine video ++ ['\n']) } } := by
    rw [start, Tracked.construct, hfile]
    rfl
  rw [hstart]
  refine ⟨⟨.video, video, rfl, by decide, [], [], by decide, ?_⟩, rfl, List.nodup_nil,
    List.nodup_nil, fun c => Iff.rfl⟩
  intro line hline
  cases hline

/-! ### Clients that follow -/

/-- Once a state was requested, every current activator was last asked for the one that `GetState`
reports. -/
def Follows (s : Tracked) : Prop :=
  s.requested = true → ∀ activator ∈ s.active, ∃ state name,
    s.plugin.getState .deviceOptimize = some (some state) ∧ (state, name) ∈ stateNames ∧
      lastAsked activator s.asked = some name

theorem follows_iff (hreports : s.plugin.Reports state name) :
    s.Follows ↔ (s.requested = true →
      ∀ activator ∈ s.active, lastAsked activator s.asked = some name) := by
  rw [Follows, hreports.getState]
  apply imp_congr_right
  intro _
  apply forall₂_congr
  intro activator _
  constructor
  · rintro ⟨state', name', hstate, hname', hasked⟩
    cases hstate
    rw [hasked, name_eq_of_state hname' hreports.named]
  · exact fun hasked => ⟨state, name, rfl, hreports.named, hasked⟩

theorem Follows.clientActivated (hs : s.Sound) (hf : s.Follows) (env : Activation)
    (c systemMode : Text) : (s.clientActivated env c systemMode).Follows := by
  obtain ⟨state, name, hreports⟩ := hs.reports
  cases hobtained : obtained env c systemMode with
  | none =>
      rw [clientActivated_of_none hobtained]
      exact hf
  | some activator =>
      rw [clientActivated_of_some hreports hobtained]
      rw [follows_iff hreports] at hf
      have hreports' : (s.activated env activator name).plugin.Reports state name :=
        hreports.withClient env activator
      rw [follows_iff hreports']
      intro hrequested other hother
      have hstateRequested : s.plugin.stateRequested = true := by
        rw [← hs.requested]
        exact hrequested
      rw [activated, if_pos hstateRequested]
      rcases List.mem_append.mp hother with hother | hother
      · have hmem := List.mem_filter.mp hother
        have hne : activator ≠ other := by
          rintro rfl
          simp at hmem
        rw [lastAsked_append_of_other (by simpa using hne)]
        exact hf hrequested other hmem.1
      · rw [List.mem_singleton.mp hother]
        exact lastAsked_append (by simp) (by simp)

theorem Follows.clientDeactivated (hs : s.Sound) (hf : s.Follows) (io : FileIo)
    (c systemMode : Text) : (s.clientDeactivated io c systemMode).Follows := by
  obtain ⟨state, name, hreports⟩ := hs.reports
  rw [follows_iff hreports] at hf
  have hreports' : (s.clientDeactivated io c systemMode).plugin.Reports state name := by
    simp only [Tracked.clientDeactivated, SystemModeImplementation.clientDeactivated]
    split
    · exact hreports
    · split
      · exact ⟨hreports.map, hreports.named, hreports.file.update_callsign io c .delete⟩
      · exact hreports
  rw [follows_iff hreports']
  intro hrequested activator hmem
  apply hf hrequested
  simp only [Tracked.clientDeactivated] at hmem
  split at hmem
  · exact (List.mem_filter.mp hmem).1
  · exact hmem

/-- The requests that are made are those of the current activators. -/
theorem perm_iff (hs : s.Sound) (name : Text) :
    (s.plugin.clients.map fun client => (client, name)).Perm
        (s.active.map fun activator => (activator, name)) ↔
      ∀ activator ∈ s.active, activator ∈ s.plugin.clients := by
  constructor
  · intro hperm activator hactivator
    have hmem : (activator, name) ∈ s.plugin.clients.map fun client => (client, name) :=
      hperm.mem_iff.mpr (List.mem_map_of_mem hactivator)
    obtain ⟨client, hclient, heq⟩ := List.mem_map.mp hmem
    cases heq
    exact hclient
  · intro hcurrent
    apply List.Perm.map
    rw [List.perm_ext_iff_of_nodup hs.clients_nodup.of_map hs.active_nodup.of_map]
    intro client
    constructor
    · intro hclient
      have hplugin : client.plugin ∈ plugins s.active :=
        (hs.same client.plugin).mp (List.mem_map_of_mem hclient)
      obtain ⟨activator, hactivator, heq⟩ := List.mem_map.mp hplugin
      have hsame : activator = client :=
        List.inj_on_of_nodup_map hs.clients_nodup (hcurrent activator hactivator) hclient heq
      exact hsame ▸ hactivator
    · exact hcurrent client

/-! ### The contract of a step -/

/-- An accepted request of a state asks every current activator for it, and no other one. -/
def Answered (s : Tracked) : Action → Prop
  | .requestState io mode state =>
      ∀ requests, (s.plugin.requestState io mode state).1 = some requests →
        ∃ name, (state, name) ∈ stateNames ∧
          requests.Perm (s.active.map fun activator => (activator, name))
  | _ => True

def StepRight (s : Tracked) (a : Action) : Prop :=
  s.Answered a ∧ ∀ t, s.step a = some t → t.Follows

/-- A state is requested only while the map has the current activators, and the file can be
written or names the state already. -/
def Current (s : Tracked) : Action → Prop
  | .requestState io mode state => mode = .deviceOptimize → ∀ name, (state, name) ∈ stateNames →
      (∀ activator ∈ s.active, activator ∈ s.plugin.clients) ∧
        (io.writes = true ∨ s.active = [] ∨
          getSystemModePropertyValue deviceOptimize currentstate s.plugin.file = some name)
  | _ => True

theorem answered_iff (hs : s.Sound) {io : FileIo} (hname : (state, name) ∈ stateNames)
    (hrequests : (s.plugin.requestState io .deviceOptimize state).1 =
      some (s.plugin.clients.map fun client => (client, name))) :
    s.Answered (.requestState io .deviceOptimize state) ↔
      ∀ activator ∈ s.active, activator ∈ s.plugin.clients := by
  rw [← perm_iff hs name]
  constructor
  · intro h
    obtain ⟨name', hname', hperm⟩ := h _ hrequests
    obtain rfl := name_eq_of_state hname hname'
    exact hperm
  · intro hperm requests heq
    rw [hrequests] at heq
    cases heq
    exact ⟨name, hname, hperm⟩

theorem lastAsked_stateRequested (io : FileIo) {activator : Activator}
    (h : activator ∈ s.plugin.clients) :
    lastAsked activator (s.stateRequested io name).asked = some name := by
  apply lastAsked_append
  · exact List.mem_map_of_mem h
  · intro request hrequest _
    obtain ⟨client, -, rfl⟩ := List.mem_map.mp hrequest
    rfl

/-- With current clients, they follow exactly if the file has the state. -/
theorem follows_stateRequested_iff (hs : s.Sound) (io : FileIo)
    (hname : (state, name) ∈ stateNames)
    (hcurrent : ∀ activator ∈ s.active, activator ∈ s.plugin.clients) :
    (s.stateRequested io name).Follows ↔
      io.writes = true ∨ s.active = [] ∨
        getSystemModePropertyValue deviceOptimize currentstate s.plugin.file = some name := by
  have hasked : ∀ activator ∈ s.active,
      lastAsked activator (s.stateRequested io name).asked = some name :=
    fun activator hmem => lastAsked_stateRequested io (hcurrent activator hmem)
  obtain ⟨state', name', hreports⟩ := hs.reports
  by_cases hio : io.writes = true
  · have hreports' : (s.stateRequested io name).plugin.Reports state name :=
      hreports.withState_of_writes hio hname
    rw [follows_iff hreports']
    exact iff_of_true (fun _ => hasked) (.inl hio)
  · have hreports' : (s.stateRequested io name).plugin.Reports state' name' :=
      hreports.withState_of_fails hio hname
    rw [follows_iff hreports', hreports.file.read]
    constructor
    · intro hfollows
      refine .inr ?_
      by_cases hnil : s.active = []
      · exact .inl hnil
      · obtain ⟨activator, hmem⟩ := List.exists_mem_of_ne_nil _ hnil
        have heq : name = name' :=
          Option.some.inj ((hasked activator hmem).symm.trans (hfollows rfl activator hmem))
        exact .inr (congrArg some heq.symm)
    · rintro (hwrites | hnil | hread) _ activator hmem
      · exact absurd hwrites hio
      · have hmem' : activator ∈ s.active := hmem
        rw [hnil] at hmem'
        cases hmem'
      · cases hread
        exact hasked activator hmem

theorem stepRight_iff (hs : s.Sound) (hf : s.Follows) (a : Action) :
    s.StepRight a ↔ s.Current a := by
  cases a with
  | clientActivated env c systemMode =>
      refine iff_of_true ⟨trivial, ?_⟩ trivial
      rintro t ⟨⟩
      exact hf.clientActivated hs env c systemMode
  | clientDeactivated io c systemMode =>
      refine iff_of_true ⟨trivial, ?_⟩ trivial
      rintro t ⟨⟩
      exact hf.clientDeactivated hs io c systemMode
  | restart io activations =>
      refine iff_of_true ⟨trivial, ?_⟩ trivial
      rintro t ⟨⟩ hrequested
      rw [construct_requested] at hrequested
      cases hrequested
  | requestState io mode state =>
      by_cases h : mode = .deviceOptimize ∧ ∃ name, (state, name) ∈ stateNames
      · obtain ⟨rfl, name, hname⟩ := h
        obtain ⟨hrequests, hstep⟩ := requestState_of_named hs io hname
        have hfollows : (∀ t, s.step (.requestState io .deviceOptimize state) = some t →
            t.Follows) ↔ (s.stateRequested io name).Follows := by
          rw [step, hstep]
          simp
        rw [StepRight, answered_iff hs hname hrequests, hfollows, Current]
        constructor
        · rintro ⟨hcurrent, hf⟩ _ name' hname'
          obtain rfl := name_eq_of_state hname hname'
          exact ⟨hcurrent, (follows_stateRequested_iff hs io hname hcurrent).mp hf⟩
        · intro hC
          obtain ⟨hcurrent, hfile⟩ := hC rfl name hname
          exact ⟨hcurrent, (follows_stateRequested_iff hs io hname hcurrent).mpr hfile⟩
      · have hrefused := requestState_of_refused hs io (not_and_or.mp h |>.imp_right not_exists.mp)
        constructor
        · exact fun _ hmode name hname => absurd ⟨hmode, name, hname⟩ h
        · intro _
          constructor
          · intro requests hrequests
            rw [hrefused.1] at hrequests
            cases hrequests
          · rintro t ⟨⟩
            rw [hrefused.2]
            exact hf

end Tracked

end DeviceAndDisplay.SystemMode
