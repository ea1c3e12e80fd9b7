import DeviceAndDisplay.Model.DisplaySettings.MessageQueue
import DeviceAndDisplay.Transition.Run

/-! # Messages that are left behind

The consumer resets the run flag outside the mutex. A message that is pushed after it found the
queue empty and before it resets the flag is not seen until the next one is pushed. -/

namespace DeviceAndDisplay.DisplaySettings

open Transition

variable {α : Type*}

namespace MessageQueue

/-- The messages still to be processed; the one that was just processed is popped next. -/
def remaining (q : MessageQueue α) : List α :=
  match q.point with
  | .pop => q.sendMsgQueue.tail
  | _ => q.sendMsgQueue

/-- The consumer has tested that the queue is empty and will reset the flag. -/
def foundEmpty (q : MessageQueue α) : Bool :=
  match q.point with
  | .resetRun => true
  | _ => false

/-- The consumer handles a message, or tests whether there is one. -/
def atWork (q : MessageQueue α) : Bool :=
  match q.point with
  | .testExit | .testEmpty | .readFront | .process _ | .pop => true
  | _ => false

theorem foundEmpty_iff (q : MessageQueue α) : q.foundEmpty = true ↔ q.point = .resetRun := by
  unfold foundEmpty
  cases q.point <;> simp

theorem remaining_sendMsgToQueue (msg : α) {q : MessageQueue α}
    (h : q.point = .pop → q.sendMsgQueue ≠ []) :
    (q.sendMsgToQueue msg).remaining = q.remaining ++ [msg] := by
  unfold remaining sendMsgToQueue
  cases hp : q.point with
  | pop => exact List.tail_append_of_ne_nil (h hp)
  | _ => rfl

/-- The consumer comes to its wait from the head of the loop. -/
theorem sendMsgThread_wait {q q' : MessageQueue α} (h : q.sendMsgThread = some q')
    (hwait : q'.point = .wait) : q.point = .testLoop ∧ q.sendMsgThreadExit = false := by
  obtain ⟨queue, run, exit, point, processed⟩ := q
  cases point with
  | testLoop =>
      cases h
      cases exit with
      | false => exact ⟨rfl, rfl⟩
      | true => cases hwait
  | wait =>
      obtain ⟨_, heq⟩ := Option.ite_none_right_eq_some.mp h
      cases heq
      cases hwait
  | readFront =>
      obtain ⟨msg, _, rfl⟩ := Option.map_eq_some_iff.mp h
      cases hwait
  | testExit =>
      cases h
      cases exit <;> cases hwait
  | testEmpty =>
      cases h
      cases queue <;> cases hwait
  | returned => cases h
  | resetRun | process | pop | leave =>
      cases h
      cases hwait

end MessageQueue

/-- The queue with what was pushed so far, oldest first. -/
structure TrackedQueue (α : Type*) where
  queue : MessageQueue α
  sent : List α := []
  /-- The last push fell between the consumer's test of the queue and its reset of the flag. -/
  late : Bool := false

namespace TrackedQueue

def afterAction (t : TrackedQueue α) (q : MessageQueue α) : QueueAction α → TrackedQueue α
  | .sendMsgToQueue msg => ⟨q, t.sent ++ [msg], t.queue.foundEmpty⟩
  | _ => ⟨q, t.sent, t.late⟩

def step (t : TrackedQueue α) (a : QueueAction α) : Option (TrackedQueue α) :=
  (queueStep t.queue a).map fun q => t.afterAction q a

/-- The messages were processed once and in their order, and until exit is requested the consumer
is not blocked while there are more. -/
structure Delivers (t : TrackedQueue α) : Prop where
  inOrder : t.sent = t.queue.processed ++ t.queue.remaining
  awake : t.queue.sendMsgThreadExit = false → t.queue.point = .wait →
    t.queue.sendMsgQueue ≠ [] → t.queue.sendMsgThreadRun = true

/-- The consumer does not turn to its wait after a late push. -/
def WaitsInTime (t : TrackedQueue α) (a : QueueAction α) : Prop :=
  a = .sendMsgThread → t.queue.point = .testLoop → t.queue.sendMsgThreadExit = false →
    t.late = false

/-! ### The invariant -/

structure Sound (t : TrackedQueue α) : Prop where
  inOrder : t.sent = t.queue.processed ++ t.queue.remaining
  front : ∀ msg, t.queue.point = .process msg → t.queue.sendMsgQueue.head? = some msg
  nonempty : t.queue.point = .readFront ∨ t.queue.point = .pop → t.queue.sendMsgQueue ≠ []
  running : t.queue.sendMsgThreadExit = false → t.queue.atWork = true →
    t.queue.sendMsgThreadRun = true
  leave : t.queue.point = .leave → t.queue.sendMsgThreadExit = true
  /-- A flag that is off belongs to an empty queue, unless the last push was late. -/
  idle : t.queue.sendMsgThreadExit = false → t.queue.sendMsgThreadRun = false → t.late = false →
    t.queue.sendMsgQueue = []
  foundEmpty : t.queue.sendMsgThreadExit = false → t.queue.point = .resetRun → t.late = false →
    t.queue.sendMsgQueue = []
  late : t.queue.sendMsgThreadExit = false → t.late = true → t.queue.sendMsgQueue ≠ [] ∧
    (t.queue.point = .resetRun ∨
      (t.queue.point = .testLoop ∨ t.queue.point = .wait) ∧ t.queue.sendMsgThreadRun = false)

theorem sound_create (run : Bool) : Sound (α := α) { queue := .create run } where
  inOrder := rfl
  front := by simp [MessageQueue.create]
  nonempty := by simp [MessageQueue.create]
  running := by simp [MessageQueue.create, MessageQueue.atWork]
  leave := by simp [MessageQueue.create]
  idle := by simp [MessageQueue.create]
  foundEmpty := by simp [MessageQueue.create]
  late := by simp

variable {t u : TrackedQueue α}

theorem sound_sendMsgToQueue (msg : α) (ht : t.Sound) :
    Sound ⟨t.queue.sendMsgToQueue msg, t.sent ++ [msg], t.queue.foundEmpty⟩ where
  inOrder := by
    change t.sent ++ [msg] = t.queue.processed ++ (t.queue.sendMsgToQueue msg).remaining
    rw [MessageQueue.remaining_sendMsgToQueue msg fun hp => ht.nonempty (.inr hp), ht.inOrder,
      List.append_assoc]
  front := by
    intro m hp
    have hfront := ht.front m hp
    simp [MessageQueue.sendMsgToQueue, hfront]
  nonempty := by simp [MessageQueue.sendMsgToQueue]
  running := by simp [MessageQueue.sendMsgToQueue]
  leave := ht.leave
  idle := by simp [MessageQueue.sendMsgToQueue]
  foundEmpty := by
    intro _ hp hlate
    have hfound : t.queue.foundEmpty = true := t.queue.foundEmpty_iff.mpr hp
    rw [hfound] at hlate
    cases hlate
  late := by
    intro _ hlate
    exact ⟨by simp [MessageQueue.sendMsgToQueue], .inl (t.queue.foundEmpty_iff.mp hlate)⟩

theorem sound_requestExit (ht : t.Sound) : Sound ⟨t.queue.requestExit, t.sent, t.late⟩ where
  inOrder := ht.inOrder
  front := ht.front
  nonempty := ht.nonempty
  running := by simp [MessageQueue.requestExit]
  leave := fun _ => rfl
  idle := by simp [MessageQueue.requestExit]
  foundEmpty := by simp [MessageQueue.requestExit]
  late := by simp [MessageQueue.requestExit]

/-- The consumer moves on; a flag that it resets is the one it found set. -/
theorem sound_sendMsgThread {q : MessageQueue α} (ht : t.Sound)
    (h : t.queue.sendMsgThread = some q) : Sound ⟨q, t.sent, t.late⟩ := by
  obtain ⟨⟨queue, run, exit, point, processed⟩, sent, late⟩ := t
  obtain ⟨hin, hfront, hne, hrun, hleave, hidle, hfound, hlate⟩ := ht
  simp only [MessageQueue.remaining, MessageQueue.atWork] at hin hfront hne hrun hidle hfound hlate
  cases point with
  | testLoop =>
      cases h
      cases exit <;> constructor <;> simp_all [MessageQueue.remaining, MessageQueue.atWork]
  | wait =>
      obtain ⟨hset, heq⟩ := Option.ite_none_right_eq_some.mp h
      cases heq
      constructor <;> simp_all [MessageQueue.remaining, MessageQueue.atWork]
  | testExit =>
      cases h
      cases exit <;> constructor <;> simp_all [MessageQueue.remaining, MessageQueue.atWork]
  | testEmpty =>
      cases h
      cases queue <;> constructor <;> simp_all [MessageQueue.remaining, MessageQueue.atWork]
  | readFront =>
      obtain ⟨msg, hmsg, rfl⟩ := Option.map_eq_some_iff.mp h
      constructor <;> simp_all [MessageQueue.remaining, MessageQueue.atWork]
  | process msg =>
      cases h
      obtain ⟨rest, rfl⟩ : ∃ rest, queue = msg :: rest :=
        List.head?_eq_some_iff.mp (hfront msg rfl)
      constructor <;> simp_all [MessageQueue.remaining, MessageQueue.atWork]
  | returned => cases h
  | resetRun | pop | leave =>
      cases h
      constructor <;> simp_all [MessageQueue.remaining, MessageQueue.atWork]

theorem sound_step {a : QueueAction α} (ht : t.Sound) (h : t.step a = some u) : u.Sound := by
  obtain ⟨q, hq, rfl⟩ := Option.map_eq_some_iff.mp h
  cases a with
  | sendMsgToQueue msg =>
      cases hq
      exact sound_sendMsgToQueue msg ht
  | requestExit =>
      cases hq
      exact sound_requestExit ht
  | sendMsgThread => exact sound_sendMsgThread ht hq

/-! ### When a message is left behind -/

/-- A late push leaves the flag off at the head of the loop; every other way to the wait finds it
on or the queue empty. -/
theorem delivers_step_iff (ht : t.Sound) (a : QueueAction α) :
    (∀ u, t.step a = some u → u.Delivers) ↔ t.WaitsInTime a := by
  constructor
  · rintro h rfl hpoint hexit
    by_contra hlate
    obtain ⟨hne, hreset | ⟨_, hoff⟩⟩ := ht.late hexit (eq_true_of_ne_false hlate)
    · rw [hpoint] at hreset
      cases hreset
    · have hstep : t.step .sendMsgThread =
          some ⟨{ t.queue with point := .wait }, t.sent, t.late⟩ := by
        simp [step, queueStep, MessageQueue.sendMsgThread, hpoint, hexit, afterAction]
      have hset := (h _ hstep).awake hexit rfl hne
      rw [hoff] at hset
      cases hset
  · intro h u hu
    have hs := sound_step ht hu
    refine ⟨hs.inOrder, fun hexit hwait hne => ?_⟩
    by_contra hoff
    have hoff' : u.queue.sendMsgThreadRun = false := eq_false_of_ne_true hoff
    have hlate : u.late = true := by
      by_contra hlate
      exact hne (hs.idle hexit hoff' (eq_false_of_ne_true hlate))
    obtain ⟨q, hq, rfl⟩ := Option.map_eq_some_iff.mp hu
    cases a with
    | sendMsgToQueue msg =>
        cases hq
        cases hoff'
    | requestExit =>
        cases hq
        cases hexit
    | sendMsgThread =>
        obtain ⟨hpoint, hrun⟩ := MessageQueue.sendMsgThread_wait hq hwait
        exact absurd hlate (by simp [afterAction, h rfl hpoint hrun])

/-- Messages are processed once and in their order, and the consumer never waits while there are
more, exactly when it does not turn to its wait after a push that fell between its test of the
queue and its reset of the flag and was not followed by another. -/
theorem queue_delivers_iff (run : Bool) (as : List (QueueAction α)) :
    Along step (fun t a => ∀ u, t.step a = some u → u.Delivers) { queue := .create run } as ↔
      Along step WaitsInTime { queue := .create run } as :=
  along_iff_along (fun _ _ _ hs _ h => sound_step hs h) (fun _ a hs => delivers_step_iff hs a)
    (sound_create run) as

/-- The consumer handles one message and finds the queue empty; the next message is pushed before
the reset of the flag, and the consumer waits. -/
def lostWakeUp : List (QueueAction ℕ) :=
  .sendMsgToQueue 1 :: List.replicate 11 .sendMsgThread ++
    [.sendMsgToQueue 2, .sendMsgThread, .sendMsgThread]

theorem message_left_behind :
    ∃ t, Transition.run step { queue := .create false } lostWakeUp = some t ∧
      t.queue.sendMsgThreadExit = false ∧ t.queue.point = .wait ∧
      t.queue.sendMsgThreadRun = false ∧ t.queue.sendMsgQueue = [2] ∧ t.queue.processed = [1] ∧
      t.step .sendMsgThread = none :=
  ⟨_, rfl, rfl, rfl, rfl, rfl, rfl, rfl⟩

end TrackedQueue

end DeviceAndDisplay.DisplaySettings
