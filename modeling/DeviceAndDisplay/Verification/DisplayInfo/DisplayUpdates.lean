import DeviceAndDisplay.Model.DisplayInfo.DisplayUpdates
import DeviceAndDisplay.Transition.Run
import DeviceAndDisplay.Verification.DisplayInfo.UdevObserver

/-! # The way of the events of udev to the display properties

The changes are handled in the order in which the messages told them, and the properties are those
that were read then. What is left in the queue while the thread waits stays there. -/

namespace DeviceAndDisplay.DisplayInfo

open Storage Transition

/-- What a message makes the callbacks post. -/
def UdevMessage.sources (message : UdevMessage) : List Source :=
  (if message.Tells (ascii "drm_minor") then [.hdmiChange] else []) ++
    (if message.Tells (ascii "hdcp") then [.hdcpChange] else [])

theorem displayCallbacks_eq : displayCallbacks = [ascii "drm_minor", ascii "hdcp"] := by
  decide

theorem sources_eq (message : UdevMessage) :
    (displayCallbacks.filter fun devtype => message.Tells devtype).map Source.ofDevtype =
      message.sources := by
  have hdrm : Source.ofDevtype (ascii "drm_minor") = .hdmiChange := by decide
  have hhdcp : Source.ofDevtype (ascii "hdcp") = .hdcpChange := by decide
  rw [displayCallbacks_eq, UdevMessage.sources, List.filter_cons, List.filter_singleton]
  by_cases h₁ : message.Tells (ascii "drm_minor") <;> by_cases h₂ : message.Tells (ascii "hdcp") <;>
    simp [h₁, h₂, hdrm, hhdcp]

namespace DisplayUpdates

/-! ### What the actions tell, post and handle -/

/-- The receive buffer. -/
def received (_ : DisplayUpdates) : UpdateAction → Option Bytes
  | .receiveData dataFrame => some dataFrame
  | _ => none

/-- What is posted, and whether it gets into the queue. -/
def attempted (u : DisplayUpdates) : UpdateAction → Option (Source × Bool)
  | .post posted => u.toPost.head?.map fun type => (type, posted)
  | _ => none

/-- The change that is handled, and what is read for it. -/
def handled (u : DisplayUpdates) : UpdateAction → Option (Source × DisplayEnv)
  | .handle env =>
      match u.worker with
      | .handling eventType => some (eventType, env)
      | _ => none
  | _ => none

/-- A post that finds the event set. -/
def merged (u : DisplayUpdates) : UpdateAction → Option Unit
  | .setEvent => if u.arrived then some () else none
  | _ => none

/-- The event that the thread has taken out of the queue. -/
def inHand (u : DisplayUpdates) : List Source :=
  match u.worker with
  | .handling eventType => [eventType]
  | _ => []

/-- What a step does. -/
inductive Move (u : DisplayUpdates) : UpdateAction → DisplayUpdates → Prop where
  | receiveData {dataFrame devtypes} (posted : u.toPost = [])
      (called : UdevObserver.receiveData displayCallbacks dataFrame = some devtypes) :
      Move u (.receiveData dataFrame) { u with toPost := devtypes.map Source.ofDevtype }
  | post {type toPost} (next : u.toPost = type :: toPost) (set : u.toSet = false) :
      Move u (.post true)
        { u with toPost := toPost, eventQueue := u.eventQueue ++ [type], toSet := true }
  | refused {type toPost} (next : u.toPost = type :: toPost) :
      Move u (.post false) { u with toPost := toPost }
  | setEvent (set : u.toSet = true) : Move u .setEvent { u with toSet := false, arrived := true }
  | callWorker (outside : u.worker = .outside) : Move u .callWorker { u with worker := .waiting }
  | lock (waiting : u.worker = .waiting) (arrived : u.arrived = true) :
      Move u .lock { u with worker := .beforeReset }
  | resetEvent (locked : u.worker = .beforeReset) :
      Move u .resetEvent { u with arrived := false, worker := .beforeExtract }
  | extract {eventType eventQueue} (reset : u.worker = .beforeExtract)
      (first : u.eventQueue = eventType :: eventQueue) :
      Move u .extract { u with eventQueue := eventQueue, worker := .handling eventType }
  | handle {env eventType display} (extracted : u.worker = .handling eventType)
      (queried : handle env eventType u.display = some display) :
      Move u (.handle env) { u with display := display, worker := .outside }

theorem move_of_step {u v : DisplayUpdates} {a : UpdateAction} (h : u.step a = some v) :
    Move u a v := by
  cases a with
  | receiveData dataFrame =>
      simp only [step] at h
      split_ifs at h with hfree
      obtain ⟨devtypes, hcalled, rfl⟩ := Option.map_eq_some_iff.mp h
      exact .receiveData hfree.1 hcalled
  | post posted =>
      simp only [step] at h
      split at h
      · rename_i type toPost hnext hset
        cases posted with
        | true =>
            cases h
            exact .post hnext hset
        | false =>
            cases h
            exact .refused hnext
      · cases h
  | setEvent =>
      simp only [step] at h
      split_ifs at h with hset
      cases h
      exact .setEvent hset
  | callWorker =>
      simp only [step] at h
      split_ifs at h with houtside
      cases h
      exact .callWorker houtside
  | lock =>
      simp only [step] at h
      split_ifs at h with hlock
      cases h
      exact .lock hlock.1 hlock.2
  | resetEvent =>
      simp only [step] at h
      split_ifs at h with hlocked
      cases h
      exact .resetEvent hlocked
  | extract =>
      simp only [step] at h
      split at h
      · rename_i hreset hfirst
        cases h
        exact .extract hreset hfirst
      · cases h
  | handle env =>
      simp only [step] at h
      split at h
      · rename_i hextracted
        obtain ⟨display, hqueried, rfl⟩ := Option.map_eq_some_iff.mp h
        exact .handle hextracted hqueried
      · cases h

/-! ### In order -/

/-- What the callbacks post for the content of the receive buffer. -/
def sourcesIn (dataFrame : Bytes) : List Source :=
  ((UdevObserver.receiveData displayCallbacks dataFrame).getD []).map Source.ofDevtype

theorem sourcesIn_frame (message : UdevMessage) (rest : Bytes) :
    sourcesIn (message.frame ++ rest) = message.sources := by
  rw [sourcesIn, UdevObserver.receiveData_frame]
  exact sources_eq message

/-- Everything told is posted, in order. -/
theorem told_held {u v : DisplayUpdates} {a : UpdateAction} (h : u.step a = some v) :
    u.toPost ++ (u.received a).toList.flatMap sourcesIn =
      (u.attempted a).toList.flatMap (fun attempt => [attempt.1]) ++ v.toPost := by
  cases move_of_step h with
  | receiveData posted called =>
      simp [received, attempted, sourcesIn, posted, called]
  | post next | refused next => simp [received, attempted, next]
  | setEvent | callWorker | lock | resetEvent | extract | handle => simp [received, attempted]

/-- Everything that gets into the queue is handled, in order. -/
theorem queue_held {u v : DisplayUpdates} {a : UpdateAction} (h : u.step a = some v) :
    (u.inHand ++ u.eventQueue) ++ (u.attempted a).toList.flatMap
        (fun attempt => if attempt.2 then [attempt.1] else []) =
      (u.handled a).toList.flatMap (fun event => [event.1]) ++ (v.inHand ++ v.eventQueue) := by
  cases move_of_step h with
  | receiveData | setEvent => simp [attempted, handled, inHand]
  | post next | refused next => simp [attempted, handled, inHand, next]
  | callWorker place | lock place | resetEvent place =>
      simp [attempted, handled, inHand, place]
  | extract reset first => simp [attempted, handled, inHand, reset, first]
  | handle extracted => simp [attempted, handled, inHand, extracted]

theorem flatMap_posted (attempts : List (Source × Bool)) :
    attempts.flatMap (fun attempt => if attempt.2 then [attempt.1] else []) =
      (attempts.filter fun attempt => attempt.2).map Prod.fst := by
  induction attempts with
  | nil => rfl
  | cons attempt attempts ih =>
      rw [List.flatMap_cons, ih, List.filter_cons]
      cases attempt.2 <;> rfl

/-- The properties are those of the last event that was handled, and of the last one of HDMI. -/
structure AsRead (start : DisplayProperties) (events : List (Source × DisplayEnv))
    (display : DisplayProperties) : Prop where
  usePreferredMode : display.usePreferredMode = start.usePreferredMode
  hdcpLevel : display.hdcpLevel = match events.getLast? with
    | some event => hdcpProtection event.2.hdcpLevel
    | none => start.hdcpLevel
  drmConnector : some display.drmConnector =
    match (events.filter fun event => event.1 = .hdmiChange).getLast? with
    | some event =>
        DisplayInfo.drmConnector event.2.connectors drmModeConnectorHdmia start.usePreferredMode
    | none => some start.drmConnector

theorem asRead_handle {start display display' : DisplayProperties} {env : DisplayEnv}
    {events : List (Source × DisplayEnv)} {eventType : Source} (h : AsRead start events display)
    (hhandle : handle env eventType display = some display') :
    AsRead start (events ++ [(eventType, env)]) display' := by
  cases eventType with
  | hdcpChange =>
      cases hhandle
      refine ⟨h.usePreferredMode, by simp [DisplayProperties.reauthenticate], ?_⟩
      have hdrm := h.drmConnector
      simpa [DisplayProperties.reauthenticate, List.filter_append] using hdrm
  | hdmiChange =>
      obtain ⟨queried, hqueried, heq⟩ := Option.bind_eq_some_iff.mp hhandle
      obtain ⟨connector, hconnector, rfl⟩ := Option.map_eq_some_iff.mp hqueried
      cases heq
      rw [h.usePreferredMode] at hconnector
      refine ⟨h.usePreferredMode, by simp [DisplayProperties.reauthenticate], ?_⟩
      simp [DisplayProperties.reauthenticate, List.filter_append, hconnector]

theorem asRead_of_run {u v : DisplayUpdates} {as : List UpdateAction}
    (hr : run step u as = some v) :
    AsRead u.display (outputs step handled u as) v.display := by
  have hstart : AsRead u.display [] u.display := ⟨rfl, rfl, rfl⟩
  refine @run_outputs_invariant _ _ _ _ _
    (fun events v => AsRead u.display events v.display) ?_ _ _ _ [] hstart hr
  intro events s a t hs hstep
  cases move_of_step hstep with
  | receiveData | post | refused | setEvent | callWorker | lock | resetEvent | extract =>
      simpa [handled] using hs
  | handle extracted queried =>
      simpa [handled, extracted] using asRead_handle hs queried

/-- In every run of the socket thread and of the thread of the event queue, where each datagram is a
message of udev with any bytes behind it: the changes that the messages tell are posted in their
order, those that get into the queue are handled in their order, each once, and the HDCP level and
the connector are what was read for the last change, and for the last change of HDMI. -/
theorem display_updates_in_order {display : DisplayProperties} {as : List UpdateAction}
    {u : DisplayUpdates} {messages : List (UdevMessage × Bytes)}
    (hr : run step { display := display } as = some u)
    (hm : outputs step received { display := display } as =
      messages.map fun message => message.1.frame ++ message.2) :
    let attempts := outputs step attempted { display := display } as
    let events := outputs step handled { display := display } as
    (messages.flatMap fun message => message.1.sources) = attempts.map Prod.fst ++ u.toPost ∧
      (attempts.filter fun attempt => attempt.2).map Prod.fst =
        events.map Prod.fst ++ (u.inHand ++ u.eventQueue) ∧
      AsRead display events u.display := by
  intro attempts events
  refine ⟨?_, ?_, asRead_of_run hr⟩
  · have htold := run_held (fun _ _ _ hstep => told_held hstep) hr
    rw [hm, List.flatMap_map, ← List.map_eq_flatMap] at htold
    simp only [sourcesIn_frame] at htold
    exact htold
  · have hqueue := run_held (fun _ _ _ hstep => queue_held hstep) hr
    rw [← List.map_eq_flatMap, flatMap_posted] at hqueue
    exact hqueue

/-- The message of a change of HDCP. -/
def hdcpMessage : UdevMessage where
  start := List.replicate 16 0
  hashes := List.replicate 8 0
  filterTagBloomHi := 0
  filterTagBloomLo := 0
  gap := []
  properties := [ascii "ACTION=change", ascii "DEVTYPE=hdcp"]
  length_start := rfl
  length_hashes := rfl
  no_nul := by decide
  length_lt := by decide

/-- The message of a change of a display. -/
def displayMessage : UdevMessage :=
  { hdcpMessage with
    properties := [ascii "DEVTYPE=drm_minor", ascii "HOTPLUG=1"]
    no_nul := by decide
    length_lt := by decide }

/-- HDCP and the display change at once, and the thread runs when both events are in the queue. -/
def burst : List UpdateAction :=
  let env : DisplayEnv := {
    hdcpLevel := "succeed 14".toList
    edid := { node := none, asciiHexByte := ('0', '0'), behind := [] } }
  [.receiveData (hdcpMessage.frame ++ [1, 2]), .post true, .setEvent,
    .receiveData (displayMessage.frame ++ []), .post true, .setEvent,
    .callWorker, .lock, .resetEvent, .extract, .handle env, .callWorker]

theorem display_updates_in_order_burst :
    ∃ u, run step { display := {} } burst = some u ∧ u.eventQueue = [.hdmiChange] ∧
      let attempts := outputs step attempted { display := {} } burst
      let events := outputs step handled { display := {} } burst
      [(hdcpMessage, ([1, 2] : Bytes)), (displayMessage, [])].flatMap
          (fun message => message.1.sources) = attempts.map Prod.fst ++ u.toPost ∧
        (attempts.filter fun attempt => attempt.2).map Prod.fst =
          events.map Prod.fst ++ (u.inHand ++ u.eventQueue) ∧
        AsRead {} events u.display := by
  have hr : run step { display := {} } burst = some _ := rfl
  have hm : outputs step received { display := {} } burst =
      ([(hdcpMessage, [1, 2]), (displayMessage, [])] : List (UdevMessage × Bytes)).map
        fun message => message.1.frame ++ message.2 := rfl
  exact ⟨_, hr, rfl, display_updates_in_order hr hm⟩

/-! ### The backlog -/

/-- No post is under way, and the thread waits for the next one. -/
structure Quiet (u : DisplayUpdates) : Prop where
  toSet : u.toSet = false
  arrived : u.arrived = false
  worker : u.worker = .outside ∨ u.worker = .waiting

/-- The events of the queue that the thread is still going to take out without another post. -/
def announced (u : DisplayUpdates) : ℕ :=
  (if u.toSet then 1 else 0) + (if u.arrived then 1 else 0) +
    if u.worker = .beforeExtract then 1 else 0

theorem Quiet.announced {u : DisplayUpdates} (h : Quiet u) : u.announced = 0 := by
  obtain h' | h' := h.worker <;> simp [DisplayUpdates.announced, h.toSet, h.arrived, h']

/-- Until it is reset, the event that has ended the waiting stays set. -/
def Locked (u : DisplayUpdates) : Prop := u.worker = .beforeReset → u.arrived = true

theorem announced_step {u v : DisplayUpdates} {a : UpdateAction} (hu : Locked u)
    (h : u.step a = some v) :
    Locked v ∧ u.eventQueue.length + v.announced + (u.merged a).toList.length =
      v.eventQueue.length + u.announced := by
  cases move_of_step h with
  | receiveData | refused => exact ⟨hu, rfl⟩
  | post next set =>
      refine ⟨hu, ?_⟩
      simp [announced, merged, set]
      omega
  | setEvent set =>
      refine ⟨fun _ => rfl, ?_⟩
      by_cases harrived : u.arrived = true
      · simp [announced, merged, set, harrived]
        omega
      · simp [announced, merged, set, harrived]
  | callWorker outside =>
      exact ⟨by simp [Locked], by simp [announced, merged, outside]⟩
  | lock waiting arrived =>
      exact ⟨fun _ => arrived, by simp [announced, merged, waiting, arrived]⟩
  | resetEvent locked =>
      refine ⟨by simp [Locked], ?_⟩
      simp [announced, merged, locked, hu locked]
  | extract reset first =>
      refine ⟨by simp [Locked], ?_⟩
      simp [announced, merged, reset, first]
      omega
  | handle extracted =>
      exact ⟨by simp [Locked], by simp [announced, merged, extracted]⟩

/-- Between two moments at which nothing is under way, the queue gets longer by one for each post
that found the event set, and for no other reason. So it never gets shorter: a thread that waits
with a change in the queue always waits with one from then on. -/
theorem backlog_never_shrinks {s t : DisplayUpdates} {as : List UpdateAction} (hs : Quiet s)
    (hr : run step s as = some t) (ht : Quiet t) :
    t.eventQueue.length = s.eventQueue.length + (outputs step merged s as).length := by
  have hstart : Locked s := by
    intro h
    obtain h' | h' := hs.worker <;> rw [h'] at h <;> cases h
  have hall : Locked t ∧ s.eventQueue.length + t.announced + (outputs step merged s as).length =
      t.eventQueue.length + s.announced := by
    refine @run_outputs_invariant _ _ _ _ _ (fun done t => Locked t ∧
      s.eventQueue.length + t.announced + done.length = t.eventQueue.length + s.announced)
      ?_ _ _ _ [] ⟨hstart, rfl⟩ hr
    rintro done u a v ⟨hlocked, hu⟩ hstep
    obtain ⟨hlocked', hv⟩ := announced_step hlocked hstep
    refine ⟨hlocked', ?_⟩
    rw [List.length_append]
    omega
  have hsum := hall.2
  rw [hs.announced, ht.announced] at hsum
  omega

/-- One of the two changes stays in the queue. -/
theorem backlog_never_shrinks_burst :
    ∃ u, run step { display := {} } burst = some u ∧
      u.eventQueue.length = 0 + (outputs step merged { display := {} } burst).length ∧
      0 < u.eventQueue.length := by
  have hr : run step { display := {} } burst = some _ := rfl
  have hs : Quiet { display := {} } := ⟨rfl, rfl, .inl rfl⟩
  exact ⟨_, hr, backlog_never_shrinks hs hr ⟨rfl, rfl, .inr rfl⟩, Nat.one_pos⟩

end DisplayUpdates

end DeviceAndDisplay.DisplayInfo
