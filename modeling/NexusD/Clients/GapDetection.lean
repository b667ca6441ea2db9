import NexusD.Clients.SubscribeLoop
import Mathlib.Data.List.Chain

/-! Gap detection in the Node client's `subscribe`.
Sequence numbers count per topic, the handler remembers one number per subscription. With two
topics in a stream it compares numbers that have nothing to do with each other.
-/

namespace NexusD.Clients

open NexusD.Core NexusD.Services

/-- An integer as a JavaScript number: the nearest multiple of the last place of a 53 bit
significand, the even one of two.
-/
def toNumber (value : Nat) : Nat :=
  let lastPlace := 2 ^ (value.log2 + 1 - 53)
  let significand := value / lastPlace
  let rest := value % lastPlace
  if 2 * rest < lastPlace ∨ (2 * rest = lastPlace ∧ significand % 2 = 0) then
    significand * lastPlace
  else
    (significand + 1) * lastPlace

theorem toNumber_of_le {value : Nat} (safe : value ≤ 2 ^ 53) : toNumber value = value := by
  rcases Nat.lt_or_eq_of_le safe with below | rfl
  · have bits : value.log2 + 1 - 53 = 0 := by
      rcases Nat.eq_zero_or_pos value with rfl | positive
      · rfl
      · have fits := (Nat.log2_lt positive.ne').mpr below
        omega
    simp [toNumber, bits, Nat.mod_one]
  · decide +kernel

/-- The comparison with the next number expected is exact up to `2 ^ 53`. -/
theorem toNumber_succ_lt_iff {last number : Nat} (safe : last ≤ 2 ^ 53)
    (bounded : number ≤ 2 ^ 53)
    : toNumber (last + 1) < number ↔ last + 1 < number := by
  rcases Nat.lt_or_eq_of_le safe with below | rfl
  · rw [toNumber_of_le below]
  · have rounded : toNumber (2 ^ 53 + 1) = 2 ^ 53 := by decide +kernel
    rw [rounded]
    omega

-----------------------------------------------------------------------------------------
-- The data handler
-----------------------------------------------------------------------------------------

/-- One call of a callback registered with `onGapDetected`. -/
structure GapInvocation where
  callback : Nat
  expected : Nat
  actual : Nat
  topic : ByteString
deriving DecidableEq, Repr

/-- The variables of `subscribe` that its data handler writes. -/
structure NodeSubscription where
  lastSequenceNumber : Nat := 0
  /-- the same in the entry of `activeSubscriptions` -/
  infoLastSequenceNumber : Nat := 0
  /-- handed to the iterator -/
  messages : List ReceivedMessage := []
  invocations : List GapInvocation := []
deriving DecidableEq, Repr

namespace NodeSubscription

/-- `new MessageImpl`; the loader has turned the 64 bit integers into numbers. -/
def messageImpl (message : Message) (isRetained : Bool) : ReceivedMessage where
  messageId := message.messageId
  topic := message.topic
  payload := message.payload
  contentType := message.contentType
  timestampMs := message.timestampMs
  sourceNodeId := message.sourceNodeId
  correlationId := message.correlationId
  isRetained := isRetained
  sequenceNumber := toNumber message.sequenceNumber

def received : MessageEvent → Option ReceivedMessage
  | .message message => some (messageImpl message false)
  | .retainedMessage message => some (messageImpl message true)
  | .replayMessage message => some (messageImpl message false)
  | .notSet | .subscriptionInfo _ | .replayComplete _ _ => none

/-- The callbacks that one event makes the handler call. -/
def invokedBy (callbacks : List Nat) (subscription : NodeSubscription)
    (event : MessageEvent)
    : List GapInvocation :=
  match received event with
  | none => []
  | some message =>
      let last := subscription.lastSequenceNumber
      if 0 < message.sequenceNumber
          ∧ 0 < last
          ∧ toNumber (last + 1) < message.sequenceNumber then
        callbacks.map (fun callback =>
          {
            callback
            expected := toNumber (last + 1)
            actual := message.sequenceNumber
            topic := message.topic
          })
      else
        []

def onData (callbacks : List Nat) (subscription : NodeSubscription) (event : MessageEvent)
    : NodeSubscription :=
  match received event with
  | none => subscription
  | some message =>
      let tracked :=
        if 0 < message.sequenceNumber then
          { subscription with
            lastSequenceNumber := message.sequenceNumber
            infoLastSequenceNumber := message.sequenceNumber }
        else
          subscription
      { tracked with
        messages := subscription.messages ++ [message]
        invocations := subscription.invocations ++ invokedBy callbacks subscription event }

def afterEvents (callbacks : List Nat) (events : List MessageEvent) : NodeSubscription :=
  events.foldl (onData callbacks) {}

/-- The message of an event, whichever way it comes. -/
def carried : MessageEvent → Option Message
  | .message message | .retainedMessage message | .replayMessage message => some message
  | .notSet | .subscriptionInfo _ | .replayComplete _ _ => none

/-- The topic and the number of a message; `0` stands for no number. -/
def numbered (event : MessageEvent) : Option (ByteString × Nat) :=
  (carried event).bind (fun message =>
    if message.sequenceNumber = 0 then none else some (message.topic, message.sequenceNumber))

/-- All numbers of the stream, whatever their topic. -/
def numbers (events : List MessageEvent) : List Nat :=
  (events.filterMap numbered).map Prod.snd

def numbersOn (topic : ByteString) (events : List MessageEvent) : List Nat :=
  ((events.filterMap numbered).filter (fun entry => entry.1 = topic)).map Prod.snd

/-- No message of any topic is missing. -/
def Complete (events : List MessageEvent) : Prop :=
  ∀ topic, (numbersOn topic events).IsChain (fun number next => next = number + 1)

/-- The event's number does not follow the last one of its topic. -/
def Skips (earlier : List MessageEvent) (event : MessageEvent) : Prop :=
  ∃ topic number previous,
    numbered event = some (topic, number)
    ∧ (numbersOn topic earlier).getLast? = some previous
    ∧ previous + 1 < number

/-- No alarm in a stream without a gap, and an alarm wherever a number is skipped. -/
structure Exact (callbacks : List Nat) (events : List MessageEvent) : Prop where
  quiet
    : Complete events
      → ∀ earlier event later,
          events = earlier ++ event :: later
          → invokedBy callbacks (afterEvents callbacks earlier) event = []
  alarmed
    : ∀ earlier event later,
        events = earlier ++ event :: later
        → Skips earlier event
        → invokedBy callbacks (afterEvents callbacks earlier) event ≠ []

/-- The stream carries only these topics, with numbers up to `top`. -/
def Carries (topics : List ByteString) (top : Nat) (events : List MessageEvent) : Prop :=
  ∀ entry ∈ events.filterMap numbered, entry.1 ∈ topics ∧ entry.2 ≤ top

section Safe

variable {callbacks : List Nat} {subscription : NodeSubscription} {event : MessageEvent}

theorem received_eq (event : MessageEvent)
    : ∃ isRetained,
        received event = (carried event).map (fun message => messageImpl message isRetained) := by
  cases event with
  | retainedMessage _ => exact ⟨true, rfl⟩
  | notSet | subscriptionInfo _ | message _ | replayMessage _ | replayComplete _ _ =>
      exact ⟨false, rfl⟩

/-- The handler sees the number of a message as it is. -/
theorem received_of_numbered {topic : ByteString} {number : Nat}
    (carries : numbered event = some (topic, number)) (safe : number ≤ 2 ^ 53)
    : 0 < number
      ∧ ∃ message, received event = some message ∧ message.sequenceNumber = number := by
  obtain ⟨isRetained, given⟩ := received_eq event
  obtain ⟨message, is, entry⟩ := Option.bind_eq_some_iff.mp carries
  split at entry
  · cases entry
  · rename_i nonzero
    cases entry
    rw [given, is]
    exact ⟨Nat.pos_of_ne_zero nonzero, _, rfl, toNumber_of_le safe⟩

/-- A message without a number has the number `0` for the handler. -/
theorem received_of_unnumbered (unnumbered : numbered event = none) {message : ReceivedMessage}
    (given : received event = some message)
    : message.sequenceNumber = 0 := by
  obtain ⟨isRetained, same⟩ := received_eq event
  obtain ⟨original, is, rfl⟩ := Option.map_eq_some_iff.mp (same.symm.trans given)
  have zero : original.sequenceNumber = 0 := by
    simpa [numbered, is] using unnumbered
  rw [messageImpl, zero]
  exact toNumber_of_le (Nat.zero_le _)

/-- A message without a number changes nothing about the gap detection. -/
theorem onData_of_unnumbered (unnumbered : numbered event = none)
    : invokedBy callbacks subscription event = []
      ∧ (onData callbacks subscription event).lastSequenceNumber
        = subscription.lastSequenceNumber := by
  unfold onData invokedBy
  cases given : received event with
  | none => exact ⟨rfl, rfl⟩
  | some message => simp [received_of_unnumbered unnumbered given]

theorem onData_of_numbered {topic : ByteString} {number : Nat}
    (carries : numbered event = some (topic, number)) (safe : number ≤ 2 ^ 53)
    : (onData callbacks subscription event).lastSequenceNumber = number := by
  obtain ⟨positive, message, given, rfl⟩ := received_of_numbered carries safe
  simp [onData, given, positive]

/-- The alarm compares with the last number of the subscription, on whatever topic it was. -/
theorem invokedBy_eq_nil_iff (registered : callbacks ≠ []) {topic : ByteString}
    {number : Nat} (carries : numbered event = some (topic, number))
    (safe : number ≤ 2 ^ 53) (last : subscription.lastSequenceNumber ≤ 2 ^ 53)
    : invokedBy callbacks subscription event = []
      ↔ subscription.lastSequenceNumber = 0
        ∨ number ≤ subscription.lastSequenceNumber + 1 := by
  obtain ⟨positive, message, given, rfl⟩ := received_of_numbered carries safe
  simp only [invokedBy, given, positive, true_and, toNumber_succ_lt_iff last safe]
  split
  · rename_i alarm
    rw [List.map_eq_nil_iff]
    exact iff_of_false registered (by omega)
  · rename_i silent
    exact iff_of_true rfl (by omega)

end Safe

theorem numbers_snoc (events : List MessageEvent) (event : MessageEvent)
    : numbers (events ++ [event])
      = numbers events ++ ((numbered event).map Prod.snd).toList := by
  cases carries : numbered event <;> simp [numbers, carries]

/-- The handler remembers the last number of the stream. -/
theorem lastSequenceNumber_afterEvents (callbacks : List Nat) {events : List MessageEvent}
    (safe : ∀ number ∈ numbers events, number ≤ 2 ^ 53)
    : (afterEvents callbacks events).lastSequenceNumber
      = (numbers events).getLast?.getD 0 := by
  induction events using List.reverseRecOn with
  | nil => rfl
  | append_singleton earlier event ih =>
      rw [numbers_snoc] at safe ⊢
      rw [afterEvents, List.foldl_append, List.foldl_cons, List.foldl_nil, ← afterEvents]
      cases carries : numbered event with
      | none =>
          rw [(onData_of_unnumbered carries).2,
            ih (fun number member => safe number (List.mem_append_left _ member))]
          simp
      | some entry =>
          have bounded : entry.2 ≤ 2 ^ 53 := safe entry.2 (by simp [carries])
          rw [onData_of_numbered carries bounded]
          simp

-----------------------------------------------------------------------------------------
-- When the alarms are exact
-----------------------------------------------------------------------------------------

theorem Carries.bounded {topics : List ByteString} {top : Nat} {events : List MessageEvent}
    (carries : Carries topics top events) {number : Nat} (member : number ∈ numbers events)
    : number ≤ top := by
  obtain ⟨entry, inside, rfl⟩ := List.mem_map.mp member
  exact (carries entry inside).2

/-- With one topic the last number of the stream is the last number of the topic. -/
theorem numbersOn_eq_numbers {topics : List ByteString} {top : Nat}
    {events : List MessageEvent} (carries : Carries topics top events)
    (single : ∀ first ∈ topics, ∀ second ∈ topics, first = second) {topic : ByteString}
    (member : topic ∈ topics)
    : numbersOn topic events = numbers events := by
  rw [numbersOn, List.filter_eq_self.mpr]
  · rfl
  · intro entry inside
    exact decide_eq_true (single _ (carries entry inside).1 _ member)

theorem numbered_pos {event : MessageEvent} {entry : ByteString × Nat}
    (carries : numbered event = some entry)
    : 0 < entry.2 := by
  obtain ⟨message, _, is⟩ := Option.bind_eq_some_iff.mp carries
  split at is
  · cases is
  · rename_i nonzero
    cases is
    exact Nat.pos_of_ne_zero nonzero

theorem numbers_pos {events : List MessageEvent} {number : Nat}
    (member : number ∈ numbers events)
    : 0 < number := by
  obtain ⟨entry, inside, rfl⟩ := List.mem_map.mp member
  obtain ⟨event, _, carries⟩ := List.mem_filterMap.mp inside
  exact numbered_pos carries

theorem numbersOn_subset (topic : ByteString) (events : List MessageEvent)
    : numbersOn topic events ⊆ numbers events :=
  List.map_subset _ (List.filter_subset_self _)

section Streams

variable {callbacks : List Nat} {topics : List ByteString} {top : Nat}
  {earlier later : List MessageEvent} {event : MessageEvent}

theorem Carries.before (carries : Carries topics top (earlier ++ event :: later))
    : Carries topics top earlier := by
  intro entry inside
  apply carries entry
  rw [List.filterMap_append]
  exact List.mem_append_left _ inside

theorem Carries.here (carries : Carries topics top (earlier ++ event :: later))
    {topic : ByteString} {number : Nat} (given : numbered event = some (topic, number))
    : topic ∈ topics ∧ number ≤ top := by
  apply carries (topic, number)
  rw [List.filterMap_append, List.filterMap_cons_some given]
  exact List.mem_append_right _ List.mem_cons_self

/-- In a stream of exact numbers an event raises no alarm exactly if its number is at most the
successor of the one before it in the stream.
-/
theorem invokedBy_at_eq_nil_iff (registered : callbacks ≠ []) (safe : top ≤ 2 ^ 53)
    (carries : Carries topics top (earlier ++ event :: later)) {topic : ByteString}
    {number : Nat} (given : numbered event = some (topic, number))
    : invokedBy callbacks (afterEvents callbacks earlier) event = []
      ↔ ∀ previous, (numbers earlier).getLast? = some previous → number ≤ previous + 1 := by
  have bounded : ∀ number ∈ numbers earlier, number ≤ 2 ^ 53 :=
    fun _ member => (carries.before.bounded member).trans safe
  have last := lastSequenceNumber_afterEvents callbacks bounded
  cases before : (numbers earlier).getLast? with
  | none =>
      rw [before] at last
      rw [invokedBy_eq_nil_iff registered given ((carries.here given).2.trans safe)
        (by rw [last]; exact Nat.zero_le _), last]
      simp
  | some previous =>
      have member := List.mem_of_getLast? before
      have positive := numbers_pos member
      rw [before, Option.getD_some] at last
      rw [invokedBy_eq_nil_iff registered given ((carries.here given).2.trans safe)
        (by rw [last]; exact bounded previous member), last]
      simp [positive.ne']

/-- With one topic the number before is the topic's own. -/
theorem exact_of_single (registered : callbacks ≠ []) (safe : top ≤ 2 ^ 53)
    (single : ∀ first ∈ topics, ∀ second ∈ topics, first = second)
    {events : List MessageEvent} (carries : Carries topics top events)
    : Exact callbacks events where
  quiet complete earlier event later split := by
    subst split
    cases given : numbered event with
    | none => exact (onData_of_unnumbered given).1
    | some entry =>
        have chain := complete entry.1
        have own := numbersOn_eq_numbers carries.before single (carries.here given).1
        rw [invokedBy_at_eq_nil_iff registered safe carries given, ← own]
        intro previous before
        rw [numbersOn, List.filterMap_append, List.filter_append, List.map_append,
          List.filterMap_cons_some given, List.filter_cons_of_pos (by simp), List.map_cons,
          List.isChain_append] at chain
        have next := chain.2.2 previous before entry.2 rfl
        omega
  alarmed earlier event later split skips := by
    subst split
    obtain ⟨topic, number, previous, given, before, gap⟩ := skips
    have own := numbersOn_eq_numbers carries.before single (carries.here given).1
    rw [ne_eq, invokedBy_at_eq_nil_iff registered safe carries given, ← own]
    intro silent
    have small := silent previous before
    omega

/-- Numbers up to two leave no room for a gap. -/
theorem exact_of_small (registered : callbacks ≠ []) (small : top ≤ 2)
    {events : List MessageEvent} (carries : Carries topics top events)
    : Exact callbacks events where
  quiet _ earlier event later split := by
    subst split
    cases given : numbered event with
    | none => exact (onData_of_unnumbered given).1
    | some entry =>
        rw [invokedBy_at_eq_nil_iff registered (small.trans (by decide)) carries given]
        intro previous before
        have positive := numbers_pos (List.mem_of_getLast? before)
        have bounded := (carries.here given).2
        omega
  alarmed earlier event later split skips := by
    subst split
    obtain ⟨topic, number, previous, given, before, gap⟩ := skips
    have positive := numbers_pos (numbersOn_subset _ _ (List.mem_of_getLast? before))
    have bounded := (carries.here given).2
    omega

end Streams

/-- A message with nothing but a topic and a number. -/
def onTopic (topic : ByteString) (number : Nat) : MessageEvent :=
  .message
    { messageId := [], topic, payload := [], timestampMs := 0, sequenceNumber := number }

theorem carries_pair {topics : List ByteString} {top : Nat} {first second : ByteString}
    {number next : Nat} (firstMember : first ∈ topics) (firstBound : number ≤ top)
    (secondMember : second ∈ topics) (secondBound : next ≤ top)
    : Carries topics top [onTopic first number, onTopic second next] := by
  intro entry inside
  obtain ⟨event, member, carries⟩ := List.mem_filterMap.mp inside
  obtain ⟨message, is, numbered⟩ := Option.bind_eq_some_iff.mp carries
  split at numbered
  · cases numbered
  · cases numbered
    rcases List.mem_pair.mp member with rfl | rfl
    · cases is
      exact ⟨firstMember, firstBound⟩
    · cases is
      exact ⟨secondMember, secondBound⟩

theorem complete_apart {first second : ByteString} (differ : first ≠ second)
    : Complete [onTopic first 1, onTopic second 3] := by
  intro topic
  by_cases same : first = topic
  · subst topic
    simp [numbersOn, numbered, carried, onTopic, differ.symm]
  · by_cases other : second = topic <;>
      simp [numbersOn, numbered, carried, onTopic, same, other]

/-- Two topics whose first numbers are apart raise an alarm though nothing is missing. -/
theorem not_exact_of_two {callbacks : List Nat} (registered : callbacks ≠ [])
    {first second : ByteString} (differ : first ≠ second)
    : ¬Exact callbacks [onTopic first 1, onTopic second 3] := by
  intro exact
  have carries : Carries [first, second] 3 ([onTopic first 1] ++ onTopic second 3 :: []) :=
    carries_pair (by simp) (by decide) (by simp) (by decide)
  have silent := exact.quiet (complete_apart differ) [onTopic first 1] (onTopic second 3) []
    rfl
  rw [invokedBy_at_eq_nil_iff registered (by decide) carries rfl] at silent
  exact absurd (silent 1 rfl) (by decide : ¬3 ≤ 1 + 1)

/-- A skip that rounding hides raises no alarm. -/
theorem not_exact_of_rounded (callbacks : List Nat) (topic : ByteString)
    {previous number : Nat} (positive : 0 < previous) (gap : previous + 1 < number)
    (exactly : toNumber previous = previous)
    (hidden : toNumber number ≤ toNumber (previous + 1))
    : ¬Exact callbacks [onTopic topic previous, onTopic topic number] := by
  intro exact
  have skips : Skips [onTopic topic previous] (onTopic topic number) := by
    refine ⟨topic, number, previous, ?_, ?_, gap⟩
    · simp [numbered, carried, onTopic]
      omega
    · simp [numbersOn, numbered, carried, onTopic, positive.ne']
  apply exact.alarmed [onTopic topic previous] (onTopic topic number) [] rfl skips
  have last
    : (afterEvents callbacks [onTopic topic previous]).lastSequenceNumber = previous := by
    simp [afterEvents, onData, received, onTopic, messageImpl, exactly, positive]
  generalize afterEvents callbacks [onTopic topic previous] = subscription at last
  simp only [invokedBy, received, onTopic, messageImpl, last]
  rw [if_neg]
  omega

/-- The alarms are exact for all streams of these topics with numbers up to `top` exactly when
there is only one topic and its numbers are exact as JavaScript numbers, or when the numbers
are too small for a gap, or there is no topic at all.
-/
theorem gapDetection_exact_iff {callbacks : List Nat} (registered : callbacks ≠ [])
    (topics : List ByteString) (top : Nat)
    : (∀ events, Carries topics top events → Exact callbacks events)
      ↔ (∀ first ∈ topics, ∀ second ∈ topics, first = second) ∧ top ≤ 2 ^ 53
        ∨ top ≤ 2
        ∨ topics = [] := by
  constructor
  · intro exact
    by_contra neither
    rw [not_or, not_or, Nat.not_le] at neither
    obtain ⟨inexact, large, some⟩ := neither
    by_cases single : ∀ first ∈ topics, ∀ second ∈ topics, first = second
    · obtain ⟨topic, member⟩ := List.exists_mem_of_ne_nil topics some
      have above : 2 ^ 53 < top := by
        by_contra below
        exact inexact ⟨single, Nat.le_of_not_lt below⟩
      refine not_exact_of_rounded callbacks topic (by decide : 0 < 2 ^ 53 - 1)
        (by decide : 2 ^ 53 - 1 + 1 < 2 ^ 53 + 1) (toNumber_of_le (by decide))
        (by decide +kernel) (exact _ ?_)
      exact carries_pair member (by omega) member (by omega)
    · push Not at single
      obtain ⟨first, firstMember, second, secondMember, differ⟩ := single
      refine not_exact_of_two registered differ (exact _ ?_)
      exact carries_pair firstMember (by omega) secondMember (by omega)
  · intro either events carries
    rcases either with ⟨single, safe⟩ | small | rfl
    · exact exact_of_single registered safe single carries
    · exact exact_of_small registered small carries
    · have none : Carries [] 2 events := by
        intro entry inside
        exact absurd (carries entry inside).1 List.not_mem_nil
      exact exact_of_small registered (Nat.le_refl 2) none

/-- One topic and a skipped number. -/
theorem gapDetection_exact_oneTopic
    : Exact [0] [onTopic [97] 1, onTopic [97] 3]
      ∧ (afterEvents [0] [onTopic [97] 1, onTopic [97] 3]).invocations = [⟨0, 2, 3, [97]⟩] := by
  have single : ∀ first ∈ [([97] : ByteString)], ∀ second ∈ [[97]], first = second := by decide
  have registered : [0] ≠ [] := by decide
  have exact := (gapDetection_exact_iff registered [[97]] 3).mpr
    (Or.inl ⟨single, by decide⟩)
  exact ⟨exact _ (carries_pair (by decide) (by decide) (by decide) (by decide)),
    by decide +kernel⟩

/-- `a` 1, `b` 3 raises an alarm though nothing is missing; in `a` 1, `b` 2, `a` 3 the second
message of `a` is missing, and there is no alarm.
-/
theorem false_and_missed_alarm
    : Complete [onTopic [97] 1, onTopic [98] 3]
      ∧ (afterEvents [0] [onTopic [97] 1, onTopic [98] 3]).invocations = [⟨0, 2, 3, [98]⟩]
      ∧ Skips [onTopic [97] 1, onTopic [98] 2] (onTopic [97] 3)
      ∧ (afterEvents [0] [onTopic [97] 1, onTopic [98] 2, onTopic [97] 3]).invocations = []
      ∧ ¬Exact [0] [onTopic [97] 1, onTopic [98] 3] :=
  ⟨complete_apart (by decide), by decide +kernel,
    ⟨[97], 3, 1, rfl, by decide, by decide⟩, by decide +kernel,
    not_exact_of_two (by decide) (by decide)⟩

end NodeSubscription

end NexusD.Clients
