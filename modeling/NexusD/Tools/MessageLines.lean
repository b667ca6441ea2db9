import NexusD.Tools.OutputFormatter

/-! The lines that the subscribing commands print for received messages in JSON mode. -/

namespace NexusD.Tools

open NexusD.Core NexusD.Library

structure ReceivedMessage where
  topic : ByteString
  payload : ByteString
  contentType : ByteString
  messageId : ByteString

/-- A line of the two commands: the strings stand between quotation marks as they were received.
-/
def messageLine (first : ByteString) (msg : ReceivedMessage) (key last : ByteString)
    : ByteString :=
  123 :: (first ++ 44 :: (Json.rawMember (ascii "topic") msg.topic ++ 44
    :: (Json.rawMember (ascii "payload") msg.payload ++ 44
    :: (Json.rawMember key last ++ [125, 10]))))

/-- `subscribe_cmd` -/
def subscribeLine (msg : ReceivedMessage) : ByteString :=
  messageLine (Json.rawMember (ascii "type") (ascii "message")) msg (ascii "message_id")
    msg.messageId

/-- `monitor_cmd`. The clock counts nanoseconds, the line has milliseconds. -/
def monitorLine (now : Int64) (msg : ReceivedMessage) : ByteString :=
  messageLine (ascii "\"timestamp\":" ++ signedDecimal (now.toInt.tdiv 1000000)) msg
    (ascii "content_type") msg.contentType

/-- The line is one object, with the topic and the payload that were received. -/
def Faithful (line : ByteString) (msg : ReceivedMessage) : Prop :=
  ∃ members, Json.parse line = some (.object members)
    ∧ Json.valuesOf (ascii "topic") members = [.string msg.topic]
    ∧ Json.valuesOf (ascii "payload") members = [.string msg.payload]

/-- What is printed for the last member is a list of members by the grammar, with no topic and
no payload among them.
-/
def EndsLine (key last : ByteString) : Prop :=
  ∃ members, Json.Derives (Json.rawMember key last) (.entries .object members)
    ∧ Json.valuesOf (ascii "topic") members = []
    ∧ Json.valuesOf (ascii "payload") members = []

theorem plainText_of_all {text : ByteString} (plain : text.all Json.isPlain = true)
    : Json.PlainText text :=
  List.all_eq_true.mp plain

theorem endsLine_of_plainText {key last : ByteString} (name : Json.PlainText key)
    (no_topic : key ≠ ascii "topic") (no_payload : key ≠ ascii "payload")
    (plain : Json.PlainText last)
    : EndsLine key last := by
  refine ⟨_, (Json.writesEntry_rawMember name plain).derives, ?_, ?_⟩
  · exact Json.valuesOf_cons_ne no_topic []
  · exact Json.valuesOf_cons_ne no_payload []

section Line

variable {first key last : ByteString} {entry : ByteString × Json} {msg : ReceivedMessage}

theorem parse_messageLine_iff {members : List (ByteString × Json)}
    (written : Json.WritesEntry .object first entry)
    : Json.parse (messageLine first msg key last) = some (.object members)
      ↔ ∃ others, members = entry :: others
        ∧ Json.Derives
            (Json.rawMember (ascii "topic") msg.topic ++ 44
              :: (Json.rawMember (ascii "payload") msg.payload ++ 44 :: Json.rawMember key last))
            (.entries .object others) := by
  have newline : Json.Blank [10] := List.forall_mem_singleton.mpr rfl
  have starts
    : (first ++ 44 :: (Json.rawMember (ascii "topic") msg.topic ++ 44
        :: (Json.rawMember (ascii "payload") msg.payload ++ 44
        :: Json.rawMember key last))).head? = some 34 := by
    rw [List.head?_append, written.head?_object, Option.some_or]
  rw [← written.derives_cons_iff, ← Json.parse_object_iff starts newline]
  simp [messageLine]

/-- Nothing is escaped, so the topic and the payload must not have anything to escape. What the
last member may contain is what `EndsLine` allows.
-/
theorem faithful_messageLine_iff (written : Json.WritesEntry .object first entry)
    (no_topic : entry.1 ≠ ascii "topic") (no_payload : entry.1 ≠ ascii "payload")
    (then_last : Json.NextMember (Json.rawMember key last))
    : Faithful (messageLine first msg key last) msg
      ↔ Json.PlainText msg.topic ∧ Json.PlainText msg.payload ∧ EndsLine key last := by
  have topic : Json.PlainText (ascii "topic") := plainText_of_all rfl
  have payload : Json.PlainText (ascii "payload") := plainText_of_all rfl
  have apart : ascii "topic" ≠ ascii "payload" := by decide
  have then_payload : Json.NextMember (Json.rawMember (ascii "payload") msg.payload) :=
    Json.nextMember_rawMember rfl rfl msg.payload
  constructor
  · intro faithful
    obtain ⟨members, parsed, topics, payloads⟩ := faithful
    obtain ⟨behind_first, rfl, derived⟩ := (parse_messageLine_iff written).mp parsed
    rw [Json.valuesOf_cons_ne no_topic] at topics
    rw [Json.valuesOf_cons_ne no_payload] at payloads
    obtain ⟨plain_topic, behind_topic, rfl, more⟩ :=
      Json.exists_of_rawMember_itself topic (then_payload.append _) derived (by simp [topics])
    rw [Json.valuesOf_cons_self] at topics
    rw [Json.valuesOf_cons_ne apart] at payloads
    obtain ⟨plain_payload, behind_payload, rfl, rest⟩ :=
      Json.exists_of_rawMember_itself payload then_last more (by simp [payloads])
    rw [Json.valuesOf_cons_self] at payloads
    rw [Json.valuesOf_cons_ne apart.symm] at topics
    exact ⟨plain_topic, plain_payload, behind_payload, rest, (List.cons.inj topics).2,
      (List.cons.inj payloads).2⟩
  · intro holds
    obtain ⟨plain_topic, plain_payload, members, derived, topics, payloads⟩ := holds
    have inner := (Json.writesEntry_rawMember topic plain_topic).derives_cons
      ((Json.writesEntry_rawMember payload plain_payload).derives_cons derived)
    refine ⟨_, (parse_messageLine_iff written).mpr ⟨_, rfl, inner⟩, ?_, ?_⟩
    · rw [Json.valuesOf_cons_ne no_topic, Json.valuesOf_cons_self,
        Json.valuesOf_cons_ne apart.symm, topics]
    · rw [Json.valuesOf_cons_ne no_payload, Json.valuesOf_cons_ne apart,
        Json.valuesOf_cons_self, payloads]

end Line

theorem faithful_subscribeLine_iff (msg : ReceivedMessage)
    : Faithful (subscribeLine msg) msg
      ↔ Json.PlainText msg.topic ∧ Json.PlainText msg.payload
        ∧ EndsLine (ascii "message_id") msg.messageId := by
  have name : Json.PlainText (ascii "type") := plainText_of_all rfl
  have value : Json.PlainText (ascii "message") := plainText_of_all rfl
  exact faithful_messageLine_iff (Json.writesEntry_rawMember name value) (by decide) (by decide)
    (Json.nextMember_rawMember rfl rfl msg.messageId)

theorem writesEntry_timestamp (count : Int)
    : Json.WritesEntry .object (ascii "\"timestamp\":" ++ signedDecimal count)
        (ascii "timestamp", .number count 0) := by
  have name : Json.PlainText (ascii "timestamp") := plainText_of_all rfl
  exact ⟨_, _, rfl, Json.label_of_plainText name, derives_signedDecimal count⟩

theorem faithful_monitorLine_iff (now : Int64) (msg : ReceivedMessage)
    : Faithful (monitorLine now msg) msg
      ↔ Json.PlainText msg.topic ∧ Json.PlainText msg.payload
        ∧ EndsLine (ascii "content_type") msg.contentType := by
  have no_topic : ascii "timestamp" ≠ ascii "topic" := by decide
  have no_payload : ascii "timestamp" ≠ ascii "payload" := by decide
  exact faithful_messageLine_iff (writesEntry_timestamp (now.toInt.tdiv 1000000)) no_topic
    no_payload (Json.nextMember_rawMember rfl rfl msg.contentType)

/-- A message with nothing to escape in it is printed faithfully by both commands. -/
theorem faithful_of_plainText {msg : ReceivedMessage} (now : Int64)
    (topic : Json.PlainText msg.topic) (payload : Json.PlainText msg.payload)
    (message_id : Json.PlainText msg.messageId) (content_type : Json.PlainText msg.contentType)
    : Faithful (subscribeLine msg) msg ∧ Faithful (monitorLine now msg) msg := by
  constructor
  · have ends : EndsLine (ascii "message_id") msg.messageId :=
      endsLine_of_plainText (plainText_of_all rfl) (by decide) (by decide) message_id
    exact (faithful_subscribeLine_iff msg).mpr ⟨topic, payload, ends⟩
  · have ends : EndsLine (ascii "content_type") msg.contentType :=
      endsLine_of_plainText (plainText_of_all rfl) (by decide) (by decide) content_type
    exact (faithful_monitorLine_iff now msg).mpr ⟨topic, payload, ends⟩

/-- The lines are right for exactly the messages that need no escapes in the topic and the
payload and whose last string stays within its member.
-/
theorem messageLines_faithful_iff (now : Int64) (msg : ReceivedMessage)
    : (Faithful (subscribeLine msg) msg
        ↔ Json.PlainText msg.topic ∧ Json.PlainText msg.payload
          ∧ EndsLine (ascii "message_id") msg.messageId)
      ∧ (Faithful (monitorLine now msg) msg
        ↔ Json.PlainText msg.topic ∧ Json.PlainText msg.payload
          ∧ EndsLine (ascii "content_type") msg.contentType) :=
  ⟨faithful_subscribeLine_iff msg, faithful_monitorLine_iff now msg⟩

/-- The payload is `{"a":1}`. -/
def jsonMessage : ReceivedMessage where
  topic := ascii "t"
  payload := [123, 34, 97, 34, 58, 49, 125]
  contentType := ascii "application/json"
  messageId := ascii "m"

theorem messageLines_unfaithful_jsonMessage
    : ¬ Faithful (subscribeLine jsonMessage) jsonMessage
      ∧ ¬ Faithful (monitorLine 0 jsonMessage) jsonMessage := by
  have quoted : ¬ Json.PlainText jsonMessage.payload := by
    intro plain
    exact absurd (plain 34 (by decide)) (by decide)
  rw [faithful_subscribeLine_iff, faithful_monitorLine_iff]
  exact ⟨fun faithful => quoted faithful.2.1, fun faithful => quoted faithful.2.1⟩

end NexusD.Tools
