import DeviceAndDisplay.Model.DisplaySettings.SoundMode
import DeviceAndDisplay.Transition.Exception

/-! # Setting the sound mode that is read

What `setSoundMode` does with the ports is one function of the port that it is for. The text that
`getSoundMode` gives for a port names what the port has, or no mode. -/

namespace DeviceAndDisplay.DisplaySettings

open Helpers Transition

variable {env : SoundEnv} {ports : Text → SoundPort} {s t : SoundState} {port : Text}
  {mode : AudioStereoMode} {stereoAuto persist success : Bool}

/-! ### What a request leaves in its port -/

/-- No call throws. -/
def SoundEnv.Calm (env : SoundEnv) : Prop := ∀ c, env.throws c = false

namespace SoundState

/-- The calls that were made leave the ports so, and what is known of ARC is as before. -/
structure Leads (env : SoundEnv) (ports : Text → SoundPort) (arc : Arc) (after : Text → SoundPort)
    (t : SoundState) : Prop where
  ports : portsAfter env ports t.made = after
  arc : t.arc = arc

/-- It ends without an exception in such a state. -/
abbrev Settles (env : SoundEnv) (ports : Text → SoundPort) (arc : Arc) (after : Text → SoundPort)
    (x : Except SoundState SoundState) : Prop :=
  Ends (fun _ => False) (Leads env ports arc after) x

variable {arc : Arc} {before : Text → SoundPort}

theorem call_settles (h : env.Calm) (hs : Leads env ports arc before s) (c : SoundCall) :
    Settles env ports arc (c.applied before) (env.call c s) := by
  have hthrows := h c
  have hmade : Leads env ports arc (c.applied before) { s with made := c :: s.made } := by
    refine ⟨?_, hs.arc⟩
    rw [portsAfter, List.foldr_cons, if_neg (by simp [hthrows])]
    exact congrArg c.applied hs.ports
  rw [SoundEnv.call, if_neg (by simp [hthrows])]
  exact hmade

theorem setStereoMode_settles (h : env.Calm) {old : SoundPort}
    (hs : Leads env ports arc (Function.update before port old) s) (mode : AudioStereoMode) :
    Settles env ports arc (Function.update before port { old with stereoMode := mode })
      (env.call (.setStereoMode port mode persist) s) := by
  have hcall := call_settles h hs (.setStereoMode port mode persist)
  simpa [SoundCall.applied] using hcall

theorem setAutoAndMode_settles (h : env.Calm) (hs : Leads env ports arc before s) :
    Settles env ports arc (Function.update before port ⟨stereoAuto, mode⟩)
      (s.setAutoAndMode port stereoAuto mode persist env) := by
  refine Ends.bind (call_settles h hs (.setStereoAuto port stereoAuto persist)) fun t ht => ?_
  exact setStereoMode_settles h ht mode

theorem setHdmiMode_settles (h : env.Calm) (hs : Leads env ports arc before s) :
    Settles env ports arc
      (Function.update before port
        (if stereoAuto then ⟨true, if env.surroundMode then .surround else .stereo⟩
          else ⟨false, mode⟩))
      (s.setHdmiMode port mode stereoAuto persist env) := by
  refine Ends.bind (call_settles h hs (.setStereoAuto port stereoAuto persist)) fun t ht => ?_
  cases stereoAuto with
  | true =>
      refine Ends.bind (call_settles h ht .getSurroundMode) fun u hu => ?_
      exact setStereoMode_settles h hu _
  | false => exact setStereoMode_settles h ht mode

/-- What a request leaves in an ARC port that is connected. -/
def arcAfter (arc : Arc) (mode : AudioStereoMode) (stereoAuto : Bool) (old : SoundPort) :
    SoundPort :=
  if isArcMode mode stereoAuto then ⟨false, mode⟩
  else if arc.audio.hdmiInAudioDeviceType = .eARC ∨ arcConnected ⟨arc, []⟩ = true then
    { old with stereoAuto }
  else old

/-- What a request leaves in its port. -/
def portAfter (env : SoundEnv) (arc : Arc) (port : Text) (mode : AudioStereoMode)
    (stereoAuto : Bool) (old : SoundPort) : SoundPort :=
  match env.isConnected port, env.portType port with
  | true, .hdmi =>
      if mode = .passThru then ⟨false, mode⟩
      else if stereoAuto then ⟨true, if env.surroundMode then .surround else .stereo⟩
      else ⟨false, mode⟩
  | true, .arc => arcAfter arc mode stereoAuto old
  | true, .spdif | true, .headphone =>
      if stereoAuto then { old with stereoAuto := true } else ⟨false, mode⟩
  | false, .arc =>
      if isArcMode mode stereoAuto then ⟨false, mode⟩ else { old with stereoAuto }
  | false, .hdmi => ⟨if mode = .passThru then false else stereoAuto, mode⟩
  | _, _ => old

/-- It ends without an exception and leaves the ports so. -/
abbrev LeavesPorts (env : SoundEnv) (ports after : Text → SoundPort) {α : Type} (made : α → SoundState)
    (x : Except SoundState α) : Prop :=
  Ends (fun _ => False) (fun result => portsAfter env ports (made result).made = after) x

theorem ports_of_settles {after : Text → SoundPort} {x : Except SoundState SoundState}
    (h : Settles env ports arc after x) : LeavesPorts env ports after id x :=
  Ends.imp h (fun _ hfalse => hfalse) fun _ ht => ht.ports

theorem setArcMode_ports (h : env.Calm) (hs : Leads env ports arc before s) :
    LeavesPorts env ports
      (Function.update before port (arcAfter arc mode stereoAuto (before port))) id
      (s.setArcMode port mode stereoAuto persist env) := by
  have hconnected : s.arcConnected = arcConnected ⟨arc, []⟩ := by
    rw [arcConnected, arcConnected, hs.arc]
  rw [setArcMode, arcAfter, hs.arc, hconnected]
  by_cases hmode : isArcMode mode stereoAuto = true
  · rw [if_pos hmode, if_pos hmode]
    refine Ends.bind (call_settles h hs (.setStereoAuto port false persist)) fun t ht => ?_
    split
    · have hchanged : Leads env ports (t.arc.changeSAD mode) _
        { t with arc := t.arc.changeSAD mode } := ⟨ht.ports, rfl⟩
      exact ports_of_settles (setStereoMode_settles h hchanged mode)
    · exact ports_of_settles (setStereoMode_settles h ht mode)
  · rw [if_neg hmode, if_neg hmode]
    by_cases htype : arc.audio.hdmiInAudioDeviceType = .eARC
    · rw [if_pos htype, if_pos (Or.inl htype)]
      exact ports_of_settles (call_settles h hs (.setStereoAuto port stereoAuto persist))
    · rw [if_neg htype]
      by_cases hlinked : arcConnected ⟨arc, []⟩ = true
      · rw [if_pos hlinked, if_pos (Or.inr hlinked)]
        have hasked : Leads env ports (arc.requestSADIf arc.sadIdle) before
          { s with arc := arc.requestSADIf arc.sadIdle } := ⟨hs.ports, rfl⟩
        exact ports_of_settles (call_settles h hasked (.setStereoAuto port stereoAuto persist))
      · rw [if_neg hlinked, if_neg (not_or.mpr ⟨htype, hlinked⟩), Function.update_eq_self]
        exact hs.ports

theorem setConnectedMode_ports (h : env.Calm) (hconnected : env.isConnected port = true)
    (hs : Leads env ports arc before s) :
    LeavesPorts env ports
      (Function.update before port (portAfter env arc port mode stereoAuto (before port))) id
      (s.setConnectedMode port mode stereoAuto persist env) := by
  rw [setConnectedMode, portAfter, hconnected]
  cases env.portType port with
  | hdmi =>
      dsimp only
      split
      · exact ports_of_settles (setAutoAndMode_settles h hs)
      · exact ports_of_settles (setHdmiMode_settles h hs)
  | arc => exact setArcMode_ports h hs
  | spdif =>
      cases stereoAuto with
      | true => exact ports_of_settles (call_settles h hs (.setStereoAuto port true persist))
      | false => exact ports_of_settles (setAutoAndMode_settles h hs)
  | headphone =>
      cases stereoAuto with
      | true => exact ports_of_settles (call_settles h hs (.setStereoAuto port true persist))
      | false => exact ports_of_settles (setAutoAndMode_settles h hs)
  | other =>
      rw [Function.update_eq_self]
      exact hs.ports

theorem setDisconnectedMode_ports (h : env.Calm) (hconnected : env.isConnected port = false)
    (hs : Leads env ports arc before s) :
    LeavesPorts env ports
      (Function.update before port (portAfter env arc port mode stereoAuto (before port)))
      Prod.fst (s.setDisconnectedMode port mode stereoAuto persist env) := by
  rw [setDisconnectedMode, portAfter, hconnected]
  cases env.portType port with
  | hdmi =>
      refine Ends.bind (setAutoAndMode_settles h hs) fun t ht => ?_
      exact ht.ports
  | arc =>
      dsimp only
      split
      · refine Ends.bind (setAutoAndMode_settles h hs) fun t ht => ?_
        exact ht.ports
      · refine Ends.bind (call_settles h hs (.setStereoAuto port stereoAuto persist)) fun t ht => ?_
        exact ht.ports
  | spdif =>
      rw [Function.update_eq_self]
      exact hs.ports
  | headphone =>
      rw [Function.update_eq_self]
      exact hs.ports
  | other =>
      rw [Function.update_eq_self]
      exact hs.ports

theorem setPortMode_ports (h : env.Calm) (hs : Leads env ports arc before s) :
    LeavesPorts env ports
      (Function.update before port (portAfter env arc port mode stereoAuto (before port)))
      Prod.fst (s.setPortMode port mode stereoAuto persist env) := by
  refine Ends.bind (call_settles h hs (.getAudioOutputPort port)) fun t ht => ?_
  refine Ends.bind (call_settles h ht (.isConnected port)) fun t ht => ?_
  refine Ends.bind (call_settles h ht (.getType port)) fun t ht => ?_
  cases hconnected : env.isConnected port with
  | true =>
      refine Ends.bind (setConnectedMode_ports h hconnected ht) fun t ht => ?_
      exact ht
  | false => exact setDisconnectedMode_ports h hconnected ht

/-! ### What the text of a port names -/

/-- A text names what the port has, or no mode at all. -/
def NamesNothingElse (port : SoundPort) (text : Text) : Prop :=
  ∀ named, Arc.soundModeOf (text.map Char.toLower) = some named →
    named = (port.stereoMode, false) ∧ port.stereoAuto = false ∨
      named = (.surround, true) ∧ port.stereoAuto = true

/-- What setting the text again leaves of a port. -/
def KeptBy (env : SoundEnv) (arc : Arc) (port : Text) (kept : SoundPort) (text : Text) : Prop :=
  ∀ named, Arc.soundModeOf (text.map Char.toLower) = some named →
    portAfter env arc port named.1 named.2 kept = kept

variable {read : SoundReadEnv} {text : Text} {kept : SoundPort}

/-- The answers to a reader and to a writer are the same, no query throws, and the text of a mode is
of no other one. -/
structure Agrees (env : SoundEnv) (read : SoundReadEnv) : Prop where
  calm : env.Calm
  answers : ∀ query, read.throws query = false
  isConnected : read.isConnected = env.isConnected
  portType : read.portType = env.portType
  names : ∀ mode named,
    Arc.soundModeOf ((SoundReadEnv.iarm2svc (read.toString mode)).map Char.toLower) = some named →
      named = (mode, false)

theorem Agrees.ask (h : Agrees env read) (query : SoundQuery) : read.ask query = some () := by
  rw [SoundReadEnv.ask, if_neg (by simp [h.answers query])]

/-- The texts for auto on HDMI name no mode. -/
theorem soundModeOf_autoText (read : SoundReadEnv) :
    Arc.soundModeOf ((SoundReadEnv.iarm2svc read.autoText).map Char.toLower) = none := by
  rw [SoundReadEnv.autoText]
  split
  · decide
  · split
    · decide
    · decide

theorem soundModeOf_stereoText :
    Arc.soundModeOf ((SoundReadEnv.iarm2svc "AUTO (Stereo)".toList).map Char.toLower) = none := by
  decide

theorem Agrees.namesMode (h : Agrees env read) (hkept : kept.stereoAuto = false) :
    NamesNothingElse kept (SoundReadEnv.iarm2svc (read.toString kept.stereoMode)) := by
  intro named hnamed
  exact .inl ⟨h.names kept.stereoMode named hnamed, hkept⟩

theorem Agrees.namesAutoOrMode (h : Agrees env read) (kept : SoundPort) :
    NamesNothingElse kept (SoundReadEnv.iarm2svc (read.autoOrMode kept)) := by
  rw [SoundReadEnv.autoOrMode]
  by_cases hauto : kept.stereoAuto = true
  · rw [if_pos hauto]
    intro named hnamed
    have htext : Arc.soundModeOf
        ((SoundReadEnv.iarm2svc "AUTO".toList).map Char.toLower) = some (.surround, true) := by
      decide
    exact .inr ⟨Option.some.inj (hnamed.symm.trans htext), hauto⟩
  · rw [if_neg hauto]
    exact h.namesMode (Bool.eq_false_iff.mpr hauto)

/-- On a connected HDMI port. -/
theorem Agrees.namesHdmi (h : Agrees env read) (kept : SoundPort) :
    ∃ text, read.hdmiText kept = some text ∧
      NamesNothingElse kept (SoundReadEnv.iarm2svc text) ∧
      Arc.soundModeOf ((SoundReadEnv.iarm2svc text).map Char.toLower) ≠ some (.surround, true) := by
  simp only [SoundReadEnv.hdmiText, h.ask, Option.bind_eq_bind, Option.bind_some]
  by_cases hauto : kept.stereoAuto = true ∨ kept.stereoMode = .surround
  · rw [if_pos hauto]
    have hnone := soundModeOf_autoText read
    refine ⟨_, rfl, fun named hnamed => ?_, fun hnamed => ?_⟩
    · rw [hnone] at hnamed
      cases hnamed
    · rw [hnone] at hnamed
      cases hnamed
  · rw [if_neg hauto]
    obtain ⟨hauto, hmode⟩ := not_or.mp hauto
    have hfalse := Bool.eq_false_iff.mpr hauto
    have hnamed : ∀ {text : Text}, NamesNothingElse kept (SoundReadEnv.iarm2svc text) →
        Arc.soundModeOf ((SoundReadEnv.iarm2svc text).map Char.toLower) ≠
          some (.surround, true) := by
      intro text hnames heq
      rcases hnames _ heq with hcase | hcase
      · exact Bool.noConfusion (congrArg Prod.snd hcase.1)
      · exact hauto hcase.2
    have htext : ∀ {text : Text}, NamesNothingElse kept (SoundReadEnv.iarm2svc text) →
        ∃ text', some text = some text' ∧
          NamesNothingElse kept (SoundReadEnv.iarm2svc text') ∧
          Arc.soundModeOf ((SoundReadEnv.iarm2svc text').map Char.toLower) ≠
            some (.surround, true) := fun hnames => ⟨_, rfl, hnames, hnamed hnames⟩
    have hown := h.namesMode hfalse
    cases hstereo : kept.stereoMode with
    | dd =>
        refine htext fun named heq => .inl ⟨?_, hfalse⟩
        rw [hstereo]
        exact Option.some.inj (heq.symm.trans (by decide))
    | ddPlus =>
        refine htext fun named heq => .inl ⟨?_, hfalse⟩
        rw [hstereo]
        exact Option.some.inj (heq.symm.trans (by decide))
    | mono => exact htext (hstereo ▸ hown)
    | stereo => exact htext (hstereo ▸ hown)
    | surround => exact absurd hstereo hmode
    | passThru => exact htext (hstereo ▸ hown)

/-! ### Setting it again -/

theorem withMode_eq (h : kept.stereoAuto = false) : SoundPort.mk false kept.stereoMode = kept := by
  rw [← h]

theorem withAuto_eq {auto : Bool} (h : kept.stereoAuto = auto) :
    { kept with stereoAuto := auto } = kept := by
  rw [← h]

theorem keptBy_arcMode {arc : Arc} {mode : AudioStereoMode} {stereoAuto : Bool}
    (h : (mode, stereoAuto) = (kept.stereoMode, false) ∧ kept.stereoAuto = false ∨
      (mode, stereoAuto) = (.surround, true) ∧ kept.stereoAuto = true) :
    (if isArcMode mode stereoAuto then ⟨false, mode⟩ else { kept with stereoAuto }) = kept ∧
      arcAfter arc mode stereoAuto kept = kept := by
  rw [arcAfter]
  rcases h with ⟨hnamed, hkept⟩ | ⟨hnamed, hkept⟩
  · cases hnamed
    rw [withMode_eq hkept, ite_self, ite_self, ite_self]
    exact ⟨rfl, rfl⟩
  · cases hnamed
    have hmode : ¬ isArcMode .surround true = true := by decide
    rw [if_neg hmode, if_neg hmode, withAuto_eq hkept, ite_self]
    exact ⟨rfl, rfl⟩

theorem Agrees.keptConnected (h : Agrees env read) (arc : Arc) (kept : SoundPort)
    (hconnected : env.isConnected port = true) :
    ∃ text, read.connectedText (env.portType port) kept = some text ∧
      KeptBy env arc port kept (SoundReadEnv.iarm2svc text) := by
  simp only [SoundReadEnv.connectedText, h.ask, Option.bind_eq_bind, Option.bind_some, KeptBy,
    portAfter, hconnected]
  have hauto := h.namesAutoOrMode kept
  have hport : ∀ named, Arc.soundModeOf
      ((SoundReadEnv.iarm2svc (read.autoOrMode kept)).map Char.toLower) = some named →
        (if named.2 = true then { kept with stereoAuto := true } else ⟨false, named.1⟩) =
          kept := by
    intro named hnamed
    rcases hauto named hnamed with ⟨rfl, hkept⟩ | ⟨rfl, hkept⟩
    · exact withMode_eq hkept
    · exact withAuto_eq hkept
  cases env.portType port with
  | hdmi =>
      obtain ⟨text, htext, hnames, hnot⟩ := h.namesHdmi kept
      refine ⟨text, htext, fun named hnamed => ?_⟩
      rcases hnames named hnamed with ⟨rfl, hkept⟩ | ⟨rfl, _⟩
      · dsimp only
        rw [if_neg Bool.false_ne_true, withMode_eq hkept, ite_self]
      · exact absurd hnamed hnot
  | arc =>
      refine ⟨_, rfl, fun named hnamed => ?_⟩
      exact (keptBy_arcMode (hauto named hnamed)).2
  | spdif => exact ⟨_, rfl, hport⟩
  | headphone => exact ⟨_, rfl, hport⟩
  | other => exact ⟨_, rfl, fun _ _ => rfl⟩

theorem Agrees.keptDisconnected (h : Agrees env read) (arc : Arc) (kept : SoundPort)
    (hconnected : env.isConnected port = false) :
    ∃ text, read.disconnectedText (env.portType port) kept = some text ∧
      KeptBy env arc port kept (SoundReadEnv.iarm2svc text) := by
  simp only [SoundReadEnv.disconnectedText, h.ask, Option.bind_eq_bind, Option.bind_some, KeptBy,
    portAfter, hconnected]
  cases env.portType port with
  | hdmi =>
      by_cases hauto : kept.stereoAuto = true ∨ kept.stereoMode = .surround
      · refine ⟨_, if_pos hauto, fun named hnamed => ?_⟩
        rw [soundModeOf_stereoText] at hnamed
        cases hnamed
      · have hkept := Bool.eq_false_iff.mpr (not_or.mp hauto).1
        refine ⟨_, if_neg hauto, fun named hnamed => ?_⟩
        obtain rfl := h.names kept.stereoMode named hnamed
        dsimp only
        rw [ite_self, withMode_eq hkept]
  | arc =>
      refine ⟨read.autoOrMode kept, ite_self _, fun named hnamed => ?_⟩
      exact (@keptBy_arcMode kept arc _ _ (h.namesAutoOrMode kept named hnamed)).1
  | spdif => exact ⟨_, rfl, fun _ _ => rfl⟩
  | headphone => exact ⟨_, rfl, fun _ _ => rfl⟩
  | other => exact ⟨_, rfl, fun _ _ => rfl⟩

theorem Agrees.keptModeString (h : Agrees env read) (arc : Arc) (port : Text)
    (ports : Text → SoundPort) :
    ∃ text, read.modeString ports port = some text ∧
      KeptBy env arc port (ports port) (SoundReadEnv.iarm2svc text) := by
  simp only [SoundReadEnv.modeString, h.ask, Option.bind_eq_bind, Option.bind_some,
    h.isConnected, h.portType]
  cases hconnected : env.isConnected port with
  | true => exact h.keptConnected arc (ports port) hconnected
  | false => exact h.keptDisconnected arc (ports port) hconnected

/-- The sound mode of a port that is read and then set again for the port, under any of its names,
leaves all ports as they are. -/
theorem sound_mode_set_as_read (h : Agrees env read) (arc : Arc) (ports : Text → SoundPort)
    (fuel : ℕ) {readName setName : Text} (hport : port ≠ [])
    (hread : Arc.checkPortName readName = some port)
    (hset : Arc.checkPortName setName = some port) (persist : Option Bool) :
    ∃ result, setSoundMode env (fuel + 1)
        { audioPort := some setName, soundMode := some (read.getSoundMode ports readName), persist }
        ⟨arc, []⟩ = some result ∧
      portsAfter env ports result.1.made = ports := by
  obtain ⟨text, htext, hkept⟩ := h.keptModeString arc port ports
  obtain ⟨c, rest, rfl⟩ := List.exists_cons_of_ne_nil hport
  have hnamed : setName ≠ [] := by
    rintro rfl
    rw [show Arc.checkPortName [] = some [] by decide] at hset
    cases hset
  have hgot : read.getSoundMode ports readName = SoundReadEnv.iarm2svc text := by
    simp only [SoundReadEnv.getSoundMode, hread, htext, Option.getD_some]
  simp only [setSoundMode, hgot, Option.map_some, Option.getD_some]
  cases hmode : Arc.soundModeOf ((SoundReadEnv.iarm2svc text).map Char.toLower) with
  | none => exact ⟨_, rfl, rfl⟩
  | some named =>
      obtain ⟨mode, stereoAuto⟩ := named
      have hstart : Leads env ports arc ports ⟨arc, []⟩ := ⟨rfl, rfl⟩
      have hends := @setPortMode_ports env ports ⟨arc, []⟩ (c :: rest) mode stereoAuto
        (persist.getD true) arc ports h.calm hstart
      rw [hkept _ hmode, Function.update_eq_self] at hends
      simp only [hnamed, and_false, if_false, hset]
      cases hresult : setPortMode (c :: rest) mode stereoAuto (persist.getD true) env
          ⟨arc, []⟩ with
      | ok result => exact ⟨result, rfl, hends.of_ok hresult⟩
      | error t => exact (hends.of_error hresult).elim

/-- Names of the modes in capitals. -/
def capitals : AudioStereoMode → Text
  | .mono => "MONO".toList
  | .stereo => "STEREO".toList
  | .surround => "SURROUND".toList
  | .passThru => "PASSTHRU".toList
  | .dd => "DOLBYDIGITAL".toList
  | .ddPlus => "DOLBYDIGITALPLUS".toList

theorem agrees_connected :
    Agrees { missing := [], isConnected := fun _ => true }
      { toString := capitals, isConnected := fun _ => true } where
  calm := fun _ => rfl
  answers := fun _ => rfl
  isConnected := rfl
  portType := rfl
  names := by
    intro mode named h
    cases mode <;> exact Option.some.inj (h.symm.trans (by decide))

theorem sound_mode_set_as_read_hdmi :
    ∃ result, setSoundMode { missing := [], isConnected := fun _ => true } 1
        { audioPort := some "HDMI0".toList
          soundMode := some (SoundReadEnv.getSoundMode
            { toString := capitals, isConnected := fun _ => true }
            (fun _ => ⟨false, .passThru⟩) "hdmi".toList)
          persist := none }
        ⟨Arc.create true, []⟩ = some result ∧
      portsAfter { missing := [], isConnected := fun _ => true } (fun _ => ⟨false, .passThru⟩)
        result.1.made = fun _ => ⟨false, .passThru⟩ :=
  @sound_mode_set_as_read _ "HDMI0".toList _ agrees_connected (Arc.create true)
    (fun _ => ⟨false, .passThru⟩) 0 "hdmi".toList "HDMI0".toList (by decide) (by decide) (by decide)
    none

end SoundState

end DeviceAndDisplay.DisplaySettings
