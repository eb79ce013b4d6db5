/-
This file proves that the calls of an engine are in order, whatever is done with
them. A session is sound when its state, its flags and its depth agree. Each kind of
step keeps it sound, and a frame gives back the stack it found; the rest is kept by
one execution after another, so that one induction over activities carries it.
-/

import ScriptBridge.Proofs.SessionLives

namespace ScriptBridge

open Run Bridge

/-! ### Sound sessions -/

namespace Session

/-- State, flags and depth agree. -/
structure IsSound (session : Session) : Prop where
  room : 0 < session.maxDepth
  bounded : session.depth ≤ session.maxDepth
  state : session.state = if session.isBusy then .running else .idle
  asked : session.interruptRequested = true → session.isBusy = true
  owed : session.collectionOwed = true → session.isBusy = true

variable {session entered : Session} {kind : FrameKind}

theorem new_isSound (limit : Nat) : (Session.new limit).IsSound where
  room := Nat.lt_of_lt_of_le Nat.zero_lt_one (Nat.le_max_right limit 1)
  bounded := Nat.zero_le _
  state := rfl
  asked := nofun
  owed := nofun

theorem IsSound.enter (sound : session.IsSound) (enters : session.enter kind = .ok entered) :
    entered.IsSound := by
  obtain ⟨frames, limit, -, busy, entry⟩ := enter_eq_ok enters
  have depth : entered.depth = session.depth + 1 := by
    unfold Session.depth
    rw [frames]
    rfl
  refine ⟨limit ▸ sound.room, ?_, ?_, fun _ => busy, fun _ => busy⟩
  · rw [depth, limit]
    rcases entry with ⟨idle, -⟩ | ⟨-, room, -⟩
    · have none_active : ¬0 < session.depth := by
        rw [← isBusy_iff, idle]
        exact Bool.false_ne_true
      have room := sound.room
      omega
    · exact room
  · rw [if_pos busy]
    rcases entry with ⟨-, -, running⟩ | ⟨active, -, -, same⟩
    · exact running
    · rw [same, sound.state, if_pos active]

/-- The state of a sound session is running exactly during calls. -/
theorem IsSound.running_iff (sound : session.IsSound) :
    session.state = .running ↔ session.isBusy = true := by
  rw [sound.state]
  split
  · next busy => exact iff_of_true rfl busy
  · next idle => exact iff_of_false nofun idle

/-- It is idle exactly between them. -/
theorem IsSound.idle_iff (sound : session.IsSound) : session.state = .idle ↔ session.depth = 0 := by
  have busy : session.isBusy = true ↔ 0 < session.depth := isBusy_iff
  rw [sound.state]
  split
  · next active =>
    rw [active] at busy
    exact iff_of_false nofun (Nat.pos_iff_ne_zero.mp (busy.mp rfl))
  · next idle =>
    exact iff_of_true rfl (Nat.eq_zero_of_not_pos fun active => idle (busy.mpr active))

theorem IsSound.requestInterrupt (sound : session.IsSound) :
    session.requestInterrupt.2.IsSound := by
  unfold Session.requestInterrupt
  split
  · next running =>
    have busy := sound.running_iff.mp (beq_iff_eq.mp running)
    exact ⟨sound.room, sound.bounded, sound.state, fun _ => busy, sound.owed⟩
  · exact sound

theorem IsSound.owe (sound : session.IsSound) (busy : session.isBusy = true) :
    session.owe.IsSound :=
  ⟨sound.room, sound.bounded, sound.state, sound.asked, fun _ => busy⟩

theorem IsSound.pop (sound : session.IsSound) (nested : 1 < session.depth) :
    { session with frames := session.frames.pop : Session }.IsSound := by
  have busy : { session with frames := session.frames.pop : Session }.isBusy = true :=
    isBusy_iff.mpr (Nat.sub_pos_of_lt nested)
  refine ⟨sound.room, Nat.le_trans (Nat.sub_le _ 1) sound.bounded, ?_, fun _ => busy,
    fun _ => busy⟩
  rw [if_pos busy]
  exact sound.running_iff.mpr (isBusy_iff.mpr (Nat.lt_of_succ_lt nested))

theorem isSound_of_idle (room : 0 < session.maxDepth) (depth : session.depth = 0)
    (state : session.state = .idle) (asked : session.interruptRequested = false)
    (owed : session.collectionOwed = false) : session.IsSound where
  room := room
  bounded := depth ▸ Nat.zero_le _
  state := by
    rw [if_neg fun busy => absurd (isBusy_iff.mp busy) (by rw [depth]; exact Nat.lt_irrefl 0)]
    exact state
  asked flag := by
    rw [asked] at flag
    cases flag
  owed flag := by
    rw [owed] at flag
    cases flag

end Session

/-! ### Orders -/

/-- What holds at every moment. -/
structure Moment.IsOrderly (limit : Nat) (moment : Moment) : Prop where
  depth_le : moment.session.depth ≤ limit
  running_iff : moment.session.state = .running ↔ 0 < moment.session.depth
  idle_iff : moment.session.state = .idle ↔ moment.session.depth = 0
  asked : moment.session.interruptRequested = true → moment.session.state = .running
  accepted_iff : ∀ accepted, moment.event = .asked accepted →
    (accepted = true ↔ moment.session.state = .running)

/-- What holds of every frame that is run. -/
structure FrameRun.IsOrderly (limit : Nat) (frame : FrameRun) : Prop where
  balanced : frame.after.frames = frame.before.frames
  /-- A frame too many fails, and its body does not run. -/
  refused : limit ≤ frame.before.depth →
    frame.failure = some Session.depthError ∧ frame.moments = [] ∧ frame.after = frame.before
  /-- Nor does the body of a frame run while an interrupt is pending. -/
  heldBack : frame.before.interruptRequested = true → frame.moments = []
  nested : frame.isOutermost = false → ∀ moment ∈ frame.moments, moment.event.isIdling = false
  /-- The outermost frame leaves its outcome and an idle session. The engine idles once, at its
  end, and is told whether a collection was put off. -/
  outermost : frame.isOutermost = true →
    frame.after.state = .idle ∧ frame.after.outcome = Session.outcomeOf frame.failure ∧
      frame.after.interruptRequested = false ∧ frame.after.collectionOwed = false ∧
      ∃ inside owed, frame.moments = inside ++ [⟨frame.after, .idled owed⟩] ∧
        (∀ moment ∈ inside, moment.event.isIdling = false) ∧
        (owed = true ↔ ∃ moment ∈ inside, moment.event = .deferred)

/-- Once an interrupt was accepted, no body starts before the engine idles. -/
def HoldBack (moments : List Moment) : Prop :=
  ∀ {before inside after : List Moment} {asked started : Moment} {kind : FrameKind},
    moments = before ++ asked :: (inside ++ started :: after) →
    asked.event = .asked true → started.event = .started kind →
    ∃ moment ∈ inside, moment.event.isIdling = true

/-! ### Pending interrupts -/

/-- Is an interrupt pending after an event? No body starts while one is. -/
def pendingAfter (pending : Bool) : SessionEvent → Option Bool
  | .asked accepted => some (pending || accepted)
  | .started _ => if pending then none else some false
  | .idled _ => some false
  | .deferred | .looked => some pending

/-- Is an interrupt pending after moments? -/
def pendingThrough (pending : Bool) (moments : List Moment) : Option Bool :=
  moments.foldlM (fun pending moment => pendingAfter pending moment.event) pending

theorem pendingThrough_append (pending : Bool) (first second : List Moment) :
    pendingThrough pending (first ++ second) =
      (pendingThrough pending first).bind fun pending => pendingThrough pending second :=
  List.foldlM_append

theorem pendingThrough_cons (pending : Bool) (moment : Moment) (rest : List Moment) :
    pendingThrough pending (moment :: rest) =
      (pendingAfter pending moment.event).bind fun pending => pendingThrough pending rest :=
  List.foldlM_cons

/-- A pending interrupt stays pending until the engine idles. -/
theorem pendingThrough_true {moments : List Moment} {pending : Bool}
    (busy : ∀ moment ∈ moments, moment.event.isIdling = false)
    (through : pendingThrough true moments = some pending) : pending = true := by
  induction moments with
  | nil =>
    cases through
    rfl
  | cons first rest inductionHypothesis =>
    rw [pendingThrough_cons, Option.bind_eq_some_iff] at through
    obtain ⟨next, step, through⟩ := through
    have here := busy first List.mem_cons_self
    have stays : next = true := by
      cases event : first.event with
      | started kind =>
        rw [event] at step
        cases step
      | idled owed =>
        rw [event] at here
        cases here
      | asked accepted =>
        rw [event] at step
        cases step
        rfl
      | _ =>
        rw [event] at step
        cases step
        rfl
    subst stays
    exact inductionHypothesis (fun moment member => busy moment (List.mem_cons_of_mem _ member))
      through

/-- Where pending interrupts can be followed, they hold back. -/
theorem holdBack_of_pendingThrough {moments : List Moment} {pending last : Bool}
    (through : pendingThrough pending moments = some last) : HoldBack moments := by
  intro before inside after asked started kind split accepted starts
  by_contra never
  have busy : ∀ moment ∈ inside, moment.event.isIdling = false := fun moment member => by
    by_contra idles
    rw [Bool.not_eq_false] at idles
    exact never ⟨moment, member, idles⟩
  rw [split, pendingThrough_append, Option.bind_eq_some_iff] at through
  obtain ⟨earlier, -, through⟩ := through
  rw [pendingThrough_cons, accepted, Option.bind_eq_some_iff] at through
  obtain ⟨now, step, through⟩ := through
  have asksNow : now = true := by
    cases step
    exact Bool.or_true _
  subst asksNow
  rw [pendingThrough_append, Option.bind_eq_some_iff] at through
  obtain ⟨still, inwards, through⟩ := through
  rw [pendingThrough_true busy inwards, pendingThrough_cons, starts] at through
  cases through

/-! ### Executions -/

/-- What an execution that starts in a session keeps in order. -/
structure Execution.IsOrderly (session : Session) (execution : Execution) : Prop where
  sound : execution.session.IsSound
  stack : execution.session.frames = session.frames
  limit : execution.session.maxDepth = session.maxDepth
  moments : ∀ moment ∈ execution.moments, moment.IsOrderly session.maxDepth
  frames : ∀ frame ∈ execution.frames,
    frame.IsOrderly session.maxDepth ∧ frame.moments <:+: execution.moments
  idlings : execution.moments.countP (·.event.isIdling) =
    execution.frames.countP FrameRun.isOutermost
  pending : pendingThrough session.interruptRequested execution.moments =
    some execution.session.interruptRequested
  inside : session.isBusy = true → ∀ frame ∈ execution.frames, frame.isOutermost = false
  owed : session.isBusy = true → (execution.session.collectionOwed = true ↔
    session.collectionOwed = true ∨ ∃ moment ∈ execution.moments, moment.event = .deferred)

/-- At every moment of a sound session what should hold does. -/
theorem Session.IsSound.moment {session : Session} (sound : session.IsSound) {limit : Nat}
    (limited : session.maxDepth = limit) {event : SessionEvent}
    (answered : ∀ accepted, event = .asked accepted →
      (accepted = true ↔ session.state = .running)) :
    (⟨session, event⟩ : Moment).IsOrderly limit where
  depth_le := limited ▸ sound.bounded
  running_iff := sound.running_iff.trans Session.isBusy_iff
  idle_iff := sound.idle_iff
  asked := fun asked => sound.running_iff.mpr (sound.asked asked)
  accepted_iff := answered

namespace Execution.IsOrderly

variable {session next : Session} {first second execution : Execution}

theorem isBusy_eq (orderly : execution.IsOrderly session) :
    execution.session.isBusy = session.isBusy := by
  unfold Session.isBusy Session.depth
  rw [orderly.stack]

/-- During a call the engine does not idle. -/
theorem not_idling (orderly : execution.IsOrderly session) (busy : session.isBusy = true) :
    ∀ moment ∈ execution.moments, moment.event.isIdling = false := by
  have none_outermost : execution.frames.countP FrameRun.isOutermost = 0 :=
    List.countP_eq_zero.mpr fun frame member => by
      rw [orderly.inside busy frame member]
      exact Bool.false_ne_true
  have none_idling := orderly.idlings.trans none_outermost
  intro moment member
  exact Bool.eq_false_iff.mpr (List.countP_eq_zero.mp none_idling moment member)

theorem ended (sound : session.IsSound) (failure : Option ScriptError) :
    (Execution.ended session failure).IsOrderly session where
  sound := sound
  stack := rfl
  limit := rfl
  moments _ member := nomatch member
  frames _ member := nomatch member
  idlings := List.countP_nil
  pending := List.foldlM_nil
  inside _ _ member := nomatch member
  owed _ := (or_iff_left fun ⟨_, member, _⟩ => nomatch member).symm

theorem andThen (before : first.IsOrderly session) (after : second.IsOrderly first.session) :
    (first.andThen second).IsOrderly session where
  sound := after.sound
  stack := after.stack.trans before.stack
  limit := after.limit.trans before.limit
  moments moment member := by
    rcases List.mem_append.mp member with early | late
    · exact before.moments moment early
    · exact before.limit ▸ after.moments moment late
  frames frame member := by
    rcases List.mem_append.mp member with early | late
    · obtain ⟨orderly, part⟩ := before.frames frame early
      exact ⟨orderly, part.trans (List.prefix_append _ _).isInfix⟩
    · obtain ⟨orderly, part⟩ := after.frames frame late
      exact ⟨before.limit ▸ orderly, part.trans (List.suffix_append _ _).isInfix⟩
  idlings := by
    unfold Execution.andThen
    rw [List.countP_append, List.countP_append, before.idlings, after.idlings]
  pending := by
    unfold Execution.andThen
    rw [pendingThrough_append, before.pending]
    exact after.pending
  inside busy frame member := by
    rcases List.mem_append.mp member with early | late
    · exact before.inside busy frame early
    · exact after.inside (before.isBusy_eq.trans busy) frame late
  owed busy := by
    unfold Execution.andThen
    rw [after.owed (before.isBusy_eq.trans busy), before.owed busy]
    simp only [List.mem_append, or_and_right, exists_or, or_assoc]

/-- An event that is in order by itself. -/
theorem happened {event : SessionEvent} (sound : next.IsSound)
    (stack : next.frames = session.frames) (limit : next.maxDepth = session.maxDepth)
    (answered : ∀ accepted, event = .asked accepted → (accepted = true ↔ next.state = .running))
    (plain : event.isIdling = false)
    (pending : pendingAfter session.interruptRequested event = some next.interruptRequested)
    (owed : next.collectionOwed = true ↔ session.collectionOwed = true ∨ event = .deferred) :
    (Execution.happened next event).IsOrderly session where
  sound := sound
  stack := stack
  limit := limit
  moments moment member := by
    cases List.mem_singleton.mp member
    exact sound.moment limit answered
  frames _ member := nomatch member
  idlings := by
    show List.countP _ [_] = 0
    rw [List.countP_singleton, plain]
    rfl
  pending := by
    show pendingThrough _ [_] = _
    rw [pendingThrough_cons, pending]
    rfl
  inside _ _ member := nomatch member
  owed _ := by
    unfold Execution.happened
    rw [owed]
    simp only [List.mem_singleton, exists_eq_left]

/-- An interrupt that is asked for is accepted by a running session, and pending from then on. -/
theorem asked (sound : session.IsSound) :
    (Execution.happened session.requestInterrupt.2
      (.asked session.requestInterrupt.1)).IsOrderly session := by
  have soundAsked := sound.requestInterrupt
  unfold Session.requestInterrupt at soundAsked ⊢
  split at soundAsked
  · next running =>
    rw [if_pos running]
    refine happened soundAsked rfl rfl ?_ rfl (congrArg some (Bool.or_true _))
      (or_iff_left nofun).symm
    rintro _ ⟨⟩
    exact iff_of_true rfl (beq_iff_eq.mp running)
  · next resting =>
    rw [if_neg resting]
    refine happened sound rfl rfl ?_ rfl (congrArg some (Bool.or_false _)) (or_iff_left nofun).symm
    rintro _ ⟨⟩
    exact iff_of_false nofun fun running => resting (beq_iff_eq.mpr running)

/-- What a frame runs once it has entered is in order, and nothing while an interrupt is pending. -/
theorem polled {entered : Session} (kind : FrameKind) {body : Session → Execution}
    (sound : entered.IsSound) (orderly : (body entered).IsOrderly entered) :
    (Execution.polled entered kind body).IsOrderly entered ∧
      (entered.interruptRequested = true → (Execution.polled entered kind body).moments = []) := by
  unfold Execution.polled Session.poll
  cases pending : entered.interruptRequested with
  | true => exact ⟨ended sound _, fun _ => rfl⟩
  | false =>
    refine ⟨andThen (happened sound rfl rfl nofun rfl ?_ ?_) orderly, nofun⟩
    · rw [pending]
      rfl
    · exact (or_iff_left nofun).symm

/-- A frame inside others is one more frame that was not outermost. -/
theorem asFrame (orderly : execution.IsOrderly session) (busy : session.isBusy = true)
    {kind : FrameKind}
    (own : (⟨kind, session, execution.moments, execution.failure, execution.session⟩ :
      FrameRun).IsOrderly session.maxDepth) :
    (execution.asFrame kind session).IsOrderly session where
  sound := orderly.sound
  stack := orderly.stack
  limit := orderly.limit
  moments := orderly.moments
  frames frame member := by
    rcases List.mem_append.mp member with early | last
    · exact orderly.frames frame early
    · cases List.mem_singleton.mp last
      exact ⟨own, List.infix_rfl⟩
  idlings := by
    unfold Execution.asFrame
    rw [List.countP_append, List.countP_singleton, FrameRun.isOutermost, busy]
    exact orderly.idlings
  pending := orderly.pending
  inside _ frame member := by
    rcases List.mem_append.mp member with early | last
    · exact orderly.inside busy frame early
    · cases List.mem_singleton.mp last
      rw [FrameRun.isOutermost, busy]
      rfl
  owed := orderly.owed

end Execution.IsOrderly

section Frames

variable {session entered : Session} {kind : FrameKind} {inside : Execution}

theorem refused_isOrderly (sound : session.IsSound) {error : ScriptError}
    (refuses : session.enter kind = .error error) :
    ((Execution.ended session (some error)).asFrame kind session).IsOrderly session := by
  obtain ⟨rfl, busy, -⟩ := Session.enter_eq_error refuses
  refine .asFrame (.ended sound _) busy ⟨rfl, fun _ => ⟨rfl, rfl, rfl⟩, fun _ => rfl, ?_, ?_⟩
  · intro _ _ member
    cases member
  · intro outermost
    rw [FrameRun.isOutermost, busy] at outermost
    cases outermost

/-- A frame that has entered inside another keeps the order of its inside. -/
theorem nested_isOrderly (busy : session.isBusy = true)
    (enters : session.enter kind = .ok entered) (orderly : inside.IsOrderly entered)
    (heldBack : entered.interruptRequested = true → inside.moments = []) :
    (inside.left.asFrame kind session).IsOrderly session := by
  obtain ⟨frames, limit, owed, busyEntered, ⟨idle, -⟩ | ⟨-, room, pending, -⟩⟩ :=
    Session.enter_eq_ok enters
  · rw [busy] at idle
    cases idle
  have stack : inside.session.frames = session.frames.push kind := orderly.stack.trans frames
  have nested : 1 < inside.session.depth := by
    unfold Session.depth
    rw [stack]
    exact Nat.succ_lt_succ (Session.isBusy_iff.mp busy)
  have popped : inside.session.frames.pop = session.frames := by rw [stack]; rfl
  rw [Execution.left_of_nested (Session.leave_of_nested nested)]
  have ordered : ({ inside with session := { inside.session with
      frames := inside.session.frames.pop } } : Execution).IsOrderly session := {
    sound := orderly.sound.pop nested
    stack := popped
    limit := orderly.limit.trans limit
    moments := limit ▸ orderly.moments
    frames := limit ▸ orderly.frames
    idlings := orderly.idlings
    pending := pending ▸ orderly.pending
    inside := fun _ => orderly.inside busyEntered
    owed := fun _ => owed ▸ orderly.owed busyEntered }
  refine .asFrame ordered busy ⟨popped, fun full => absurd room (Nat.not_lt_of_le full), ?_, ?_, ?_⟩
  · exact fun asked => heldBack (pending.trans asked)
  · exact fun _ => ordered.not_idling busy
  · intro outermost
    rw [FrameRun.isOutermost, busy] at outermost
    cases outermost

/-- The outermost frame idles after its inside. -/
theorem outermost_isOrderly (sound : session.IsSound) (idle : session.isBusy = false)
    (enters : session.enter kind = .ok entered) (orderly : inside.IsOrderly entered) :
    (inside.left.asFrame kind session).IsOrderly session := by
  obtain ⟨frames, limit, owed, busyEntered, ⟨-, pending, -⟩ | ⟨busy, -⟩⟩ :=
    Session.enter_eq_ok enters
  swap
  · rw [busy] at idle
    cases idle
  have notBusy : ¬session.isBusy = true := Bool.eq_false_iff.mp idle
  have noDepth : session.depth = 0 :=
    Nat.eq_zero_of_not_pos fun active => notBusy (Session.isBusy_iff.mpr active)
  have notAsked : session.interruptRequested = false :=
    Bool.eq_false_iff.mpr fun asked => notBusy (sound.asked asked)
  have notOwed : ¬session.collectionOwed = true := fun owes => notBusy (sound.owed owes)
  have stack : inside.session.frames = session.frames.push kind := orderly.stack.trans frames
  have outermost : inside.session.depth = 1 := by
    unfold Session.depth
    rw [stack]
    exact congrArg (· + 1) noDepth
  have popped : inside.session.frames.pop = session.frames := by rw [stack]; rfl
  obtain ⟨left, leaves, framesLeft, limitLeft, state, outcome, flag, paid⟩ :=
    Session.leave_of_outermost outermost inside.failure
  have stackLeft : left.frames = session.frames := framesLeft.trans popped
  have limited : left.maxDepth = session.maxDepth := limitLeft.trans (orderly.limit.trans limit)
  have soundLeft : left.IsSound := by
    refine Session.isSound_of_idle (limited ▸ sound.room) ?_ state flag paid
    unfold Session.depth
    rw [stackLeft]
    exact noDepth
  have notIdling := orderly.not_idling busyEntered
  rw [Execution.left_of_outermost leaves]
  have own : (⟨kind, session, inside.moments ++ [⟨left, .idled inside.session.collectionOwed⟩],
      inside.failure, left⟩ : FrameRun).IsOrderly session.maxDepth := by
    refine ⟨stackLeft, ?_, ?_, ?_, fun _ => ⟨state, outcome, flag, paid, inside.moments, _, rfl,
      notIdling, ?_⟩⟩
    · intro full
      rw [noDepth] at full
      exact absurd sound.room (Nat.not_lt_of_le full)
    · intro asked
      rw [notAsked] at asked
      cases asked
    · intro nested
      rw [FrameRun.isOutermost, idle] at nested
      cases nested
    · rw [orderly.owed busyEntered, owed, or_iff_right notOwed]
  exact {
    sound := soundLeft
    stack := stackLeft
    limit := limited
    moments := fun moment member => by
      rcases List.mem_append.mp member with early | last
      · exact limit ▸ orderly.moments moment early
      · cases List.mem_singleton.mp last
        exact soundLeft.moment limited nofun
    frames := fun frame member => by
      rcases List.mem_append.mp member with early | last
      · obtain ⟨ordered, part⟩ := orderly.frames frame early
        exact ⟨limit ▸ ordered, part.trans (List.prefix_append _ _).isInfix⟩
      · cases List.mem_singleton.mp last
        exact ⟨own, List.infix_rfl⟩
    idlings := by
      unfold Execution.asFrame
      rw [List.countP_append, List.countP_append, List.countP_singleton, List.countP_singleton,
        FrameRun.isOutermost, idle, orderly.idlings]
      rfl
    pending := by
      unfold Execution.asFrame
      rw [pendingThrough_append, notAsked, ← pending, orderly.pending, flag]
      rfl
    inside := fun busy => absurd busy notBusy
    owed := fun busy => absurd busy notBusy }

/-- A frame is in order if its body is, wherever it starts. -/
theorem frame_isOrderly (sound : session.IsSound) (kind : FrameKind)
    {body : Session → Execution}
    (orderly : ∀ entered : Session, entered.IsSound → (body entered).IsOrderly entered) :
    (Execution.frame kind session body).IsOrderly session := by
  unfold Execution.frame
  cases enters : session.enter kind with
  | error error => exact refused_isOrderly sound enters
  | ok entered =>
    have soundEntered := sound.enter enters
    obtain ⟨inside, heldBack⟩ :=
      Execution.IsOrderly.polled kind soundEntered (orderly entered soundEntered)
    cases busy : session.isBusy with
    | true => exact nested_isOrderly busy enters inside heldBack
    | false => exact outermost_isOrderly sound busy enters inside

end Frames

/-- Whatever is done with the calls of an engine is in order. -/
theorem Activity.execute_isOrderly (activity : Activity) :
    ∀ session : Session, session.IsSound → (activity.execute session).IsOrderly session := by
  induction activity with
  | finish failure =>
    intro session sound
    exact .ended sound failure
  | frame kind body next bodyHypothesis nextHypothesis =>
    intro session sound
    have framed := frame_isOrderly sound kind bodyHypothesis
    exact .andThen framed (nextHypothesis _ _ framed.sound)
  | interrupt next inductionHypothesis =>
    intro session sound
    have asked := Execution.IsOrderly.asked sound
    exact .andThen asked (inductionHypothesis _ _ asked.sound)
  | collect next inductionHypothesis =>
    intro session sound
    unfold Activity.execute
    split
    · next busy =>
      have soundOwing := sound.owe busy
      refine .andThen (.happened soundOwing rfl rfl (fun _ same => by cases same) rfl rfl ?_)
        (inductionHypothesis _ soundOwing)
      exact iff_of_true rfl (.inr rfl)
    · exact inductionHypothesis session sound
  | look next inductionHypothesis =>
    intro session sound
    refine .andThen (.happened sound rfl rfl (fun _ same => by cases same) rfl rfl ?_)
      (inductionHypothesis _ _ sound)
    exact (or_iff_left fun same => by cases same).symm

/-! ### The calls of an engine -/

/-- Whatever a thread does with the calls of an engine, in frames of any kind and depth, with any
failures, interrupts and collections: running it comes to its execution, the active frames are given
back, state and flags fit the depth at every moment, an accepted interrupt holds back every body,
every frame is in order, and the engine idles once for each outermost one. -/
theorem calls_are_orderly {world : World} {engine : EngineId} {limit : Nat}
    (known : engine < world.engines.size) (fresh : world.session engine = Session.new limit)
    {onIdle : Bool → ScriptRun Unit} (quiet : ∀ owed, (onIdle owed).IsQuiet)
    (entry : Moment → LogEntry Shown) (activity : Activity) :
    let execution := activity.execute (Session.new limit)
    (activity.run engine onIdle entry).ComesTo engine entry execution world ∧
      execution.session.frames = {} ∧
      (∀ moment ∈ execution.moments, moment.IsOrderly (max limit 1)) ∧
      HoldBack execution.moments ∧
      (∀ frame ∈ execution.frames,
        frame.IsOrderly (max limit 1) ∧ frame.moments <:+: execution.moments) ∧
      execution.moments.countP (·.event.isIdling) =
        execution.frames.countP FrameRun.isOutermost := by
  have orderly := activity.execute_isOrderly _ (Session.new_isSound limit)
  exact ⟨activity.run_comesTo quiet _ world known fresh, orderly.stack, orderly.moments,
    holdBack_of_pendingThrough orderly.pending, orderly.frames, orderly.idlings⟩

/-- A script frame in which an interrupt is accepted: the host call it tries then does not run, and
the engine settles once, with nothing owed. -/
theorem calls_are_orderly_interrupted :
    let world : World := { engines := #[Engine.new "main" {} none] }
    let activity : Activity := .frame .script
      (.interrupt fun _ => .frame .hostCall (.finish none) .finish) fun _ => .finish none
    let execution := activity.execute (Session.new 256)
    (activity.run 0 (settleEngine 0) fun _ => .note .cut).ComesTo 0 (fun _ => .note .cut)
        execution world ∧
      execution.moments.map (·.event) = [.started .script, .asked true, .idled false] ∧
      execution.session.outcome = .interrupted ∧ execution.session.frames = {} := by
  intro world activity execution
  have known : 0 < world.engines.size := Nat.one_pos
  have fresh : world.session 0 = Session.new 256 := rfl
  obtain ⟨comes, stack, -⟩ :=
    calls_are_orderly known fresh (settleEngine_isQuiet 0) (fun _ => .note .cut) activity
  exact ⟨comes, rfl, rfl, stack⟩

end ScriptBridge
