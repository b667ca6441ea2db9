import NexusD.Services.Mesh

/-! The bidirectional push of messages to a peer.
The reactor starts one operation at a time: it reads a message, delivers it while other handlers
are at work, writes the acknowledgement, and reads the next one. The client's messages and the
acknowledgements travel in order.
-/

namespace NexusD.Services

open NexusD.Core NexusD.Library

/-- One call of `PushMessageStream` at a daemon. -/
structure PushMessageStream where
  node : MeshNode
  /-- what the client has written and the reactor has not read -/
  wire : List MessageEnvelope := []
  /-- `incoming_` -/
  incoming : MessageEnvelope := { topic := [], payload := [] }
  /-- the reads, writes and finishes the reactor has started and gRPC has not answered -/
  reads : Nat := 1
  writes : Nat := 0
  finishes : Nat := 0
  /-- the thread whose `OnReadDone` is in `deliverLocally` -/
  delivering : Option Nat := none
  /-- what `StartWrite` was called with -/
  acks : List Ack := []
  /-- what the client has written, and what `deliverLocally` was called with -/
  sent : List MessageEnvelope := []
  handed : List MessageEnvelope := []

def MessageEnvelope.ack (envelope : MessageEnvelope) : Ack where
  success := true
  messageId := envelope.messageId

namespace PushMessageStream

inductive Action where
  | send (envelope : MessageEnvelope)
  /-- `OnReadDone(true)` with the next message, up to the call of `deliverLocally` -/
  | read (thread : Nat) (context : CallContext)
  /-- `OnReadDone(false)` -/
  | readFailed
  /-- `deliverLocally` has returned, and the acknowledgement is written -/
  | acknowledge
  | onWriteDone (ok : Bool)
  /-- another handler of the daemon, or the delivery itself, goes on -/
  | node (action : NodeAction)

def start (node : MeshNode) : PushMessageStream := { node }

def step (stream : PushMessageStream) : Action → Option PushMessageStream
  | .send envelope =>
      some { stream with wire := stream.wire ++ [envelope], sent := stream.sent ++ [envelope] }
  | .read thread context =>
      match stream.reads, stream.wire with
      | reads + 1, envelope :: wire =>
          (stream.node.deliverLocally thread context envelope).map (fun node =>
            { stream with
              node
              wire
              incoming := envelope
              reads
              delivering := some thread
              handed := stream.handed ++ [envelope] })
      | _, _ => none
  | .readFailed =>
      match stream.reads with
      | reads + 1 => some { stream with reads, finishes := stream.finishes + 1 }
      | 0 => none
  | .acknowledge =>
      match stream.delivering with
      | none => none
      | some thread =>
          match stream.node.threads.deliveries thread with
          | .idle =>
              some
                { stream with
                  delivering := none
                  writes := stream.writes + 1
                  acks := stream.acks ++ [stream.incoming.ack] }
          | _ => none
  | .onWriteDone ok =>
      match stream.writes with
      | writes + 1 =>
          if ok then some { stream with writes, reads := stream.reads + 1 }
          else some { stream with writes, finishes := stream.finishes + 1 }
      | 0 => none
  | .node action => (stream.node.step action).map (fun (node, _) => { stream with node })

/-- How many messages the reactor has taken and not acknowledged. -/
def unacknowledged (stream : PushMessageStream) : Nat := stream.delivering.toList.length

/-- One thing at a time: a read, a delivery, a write, or the end. The messages are handed over
in the order they were sent, and acknowledged in that order.
-/
structure InOrder (stream : PushMessageStream) : Prop where
  single : stream.reads + stream.writes + stream.finishes + stream.unacknowledged = 1
  sent : stream.sent = stream.handed ++ stream.wire
  acks
    : stream.handed.map MessageEnvelope.ack
      = stream.acks ++ stream.delivering.toList.map (fun _ => stream.incoming.ack)

theorem InOrder.step {stream after : PushMessageStream} {action : Action}
    (inOrder : stream.InOrder) (taken : stream.step action = some after)
    : after.InOrder := by
  obtain ⟨single, sent, acks⟩ := inOrder
  simp only [unacknowledged] at single
  cases action with
  | send envelope =>
      cases taken
      exact ⟨single, by simp [sent], acks⟩
  | read thread context =>
      simp only [PushMessageStream.step] at taken
      split at taken
      · rename_i reads envelope wire outstanding next
        obtain ⟨node, called, rfl⟩ := Option.map_eq_some_iff.mp taken
        -- the read was all there was, so no delivery is under way
        have free : stream.delivering = none := by
          cases busy : stream.delivering with
          | none => rfl
          | some thread =>
              rw [busy, outstanding] at single
              simp only [Option.toList_some, List.length_singleton] at single
              omega
        rw [free, outstanding] at single
        rw [free] at acks
        refine ⟨?_, ?_, ?_⟩
        · simp only [unacknowledged, Option.toList_some, List.length_singleton]
          simp only [Option.toList_none, List.length_nil] at single
          omega
        · simp [sent, next]
        · simp [acks]
      · cases taken
  | readFailed =>
      simp only [PushMessageStream.step] at taken
      split at taken <;> cases taken
      rename_i reads outstanding
      refine ⟨?_, sent, acks⟩
      rw [outstanding] at single
      simp only [unacknowledged]
      omega
  | acknowledge =>
      simp only [PushMessageStream.step] at taken
      split at taken
      · cases taken
      · rename_i thread busy
        split at taken <;> cases taken
        rw [busy] at single acks
        refine ⟨?_, sent, ?_⟩
        · simp only [unacknowledged, Option.toList_none, List.length_nil]
          simp only [Option.toList_some, List.length_singleton] at single
          omega
        · simp [acks]
  | onWriteDone ok =>
      simp only [PushMessageStream.step] at taken
      split at taken
      · rename_i writes outstanding
        rw [outstanding] at single
        split at taken <;> cases taken <;> refine ⟨?_, sent, acks⟩ <;>
          simp only [unacknowledged] <;> omega
      · cases taken
  | node action =>
      obtain ⟨⟨node, pushes⟩, moved, rfl⟩ := Option.map_eq_some_iff.mp taken
      exact ⟨single, sent, acks⟩

-----------------------------------------------------------------------------------------
-- Progress
-----------------------------------------------------------------------------------------

end PushMessageStream

end NexusD.Services
