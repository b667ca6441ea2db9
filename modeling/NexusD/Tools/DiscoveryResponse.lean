import NexusD.Core.TextConversion
import NexusD.Library.Attempts

/-! The response to a discovery request, as `receive_response` reads it from a datagram. -/

namespace NexusD.Tools

open NexusD.Core NexusD.Library

structure DiscoveredInstance where
  host : ByteString
  port : UInt16
  instanceId : ByteString
  version : ByteString
  status : ByteString
  uptimeSeconds : Int
  topicCount : Int
  subscriberCount : Int
  peerCount : Int
  /-- nanoseconds of the steady clock -/
  discoveredAt : Int64
deriving DecidableEq, Repr

/-- What a call to `recvfrom` gets. -/
inductive Arrival where
  | datagram (host bytes : ByteString)
  /-- an error other than the timeout -/
  | failed
  /-- nothing for as long as the timeout lasts -/
  | nothing
deriving DecidableEq, Repr

/-- `DISCOVERY_MAGIC` -/
def discoveryMagic : ByteString := ascii "NXDS"

/-- What the buffer of 1024 bytes takes of a datagram. -/
def receivedBytes (bytes : ByteString) : ByteString := bytes.take 1023

/-- The texts that repeated calls to `std::getline` return. -/
def getlines (delimiter : UInt8) : ByteString → List ByteString
  | [] => []
  | byte :: rest =>
      if byte = delimiter then
        [] :: getlines delimiter rest
      else
        match getlines delimiter rest with
        | [] => [[byte]]
        | line :: lines => (byte :: line) :: lines

/-- The text in front of the first equals sign and the text behind it. -/
def splitPair (pair : ByteString) : Option (ByteString × ByteString) :=
  match pair.dropWhile (fun byte => byte ≠ 61) with
  | [] => none
  | _ :: value => some (pair.takeWhile (fun byte => byte ≠ 61), value)

/-- One round of the loop over the pairs. -/
def assign (discovered : DiscoveredInstance) (pair : ByteString)
    : Except ConversionError DiscoveredInstance :=
  match splitPair pair with
  | none => .ok discovered
  | some (key, value) =>
      if key = ascii "id" then .ok { discovered with instanceId := value }
      else if key = ascii "version" then .ok { discovered with version := value }
      else if key = ascii "status" then .ok { discovered with status := value }
      else if key = ascii "uptime" then
        (stoll value).map (fun count => { discovered with uptimeSeconds := count })
      else if key = ascii "topics" then
        (stoi value).map (fun count => { discovered with topicCount := count })
      else if key = ascii "subs" then
        (stoi value).map (fun count => { discovered with subscriberCount := count })
      else if key = ascii "peers" then
        (stoi value).map (fun count => { discovered with peerCount := count })
      else .ok discovered

/-- `ntohs` of the two bytes behind the message type. -/
def portOf (buffer : ByteString) : UInt16 :=
  .ofNat ((buffer.getD 6 0).toNat * 256 + (buffer.getD 7 0).toNat)

/-- `receive_response` once `recvfrom` is back: its result, and the instance it was given. The
clock reads `stamp` when the response has been parsed.
-/
def receiveResponse (discovered : DiscoveredInstance) (stamp : Int64)
    : Arrival → Except ConversionError (Bool × DiscoveredInstance)
  | .failed | .nothing => .ok (false, discovered)
  | .datagram host bytes =>
      let buffer := receivedBytes bytes
      if buffer.length = 0 then .ok (false, discovered)
      else if buffer.length < 8 ∨ buffer.take 4 ≠ discoveryMagic then .ok (false, discovered)
      else if buffer.getD 5 0 ≠ 2 then .ok (false, discovered)
      else if buffer.length < 10 then .ok (false, discovered)
      else
        ((getlines 59 (buffer.drop 8)).foldlM assign
            { discovered with host := host, port := portOf buffer }).map
          (fun filled => (true, { filled with discoveredAt := stamp }))

/-- How the value of a pair is converted, if it is. -/
def conversion (key : ByteString) : Option (ByteString → Except ConversionError Int) :=
  if key = ascii "uptime" then some stoll
  else if key = ascii "topics" ∨ key = ascii "subs" ∨ key = ascii "peers" then some stoi
  else none

/-- The value is a number where one is expected. -/
def Converts (pair : ByteString) : Prop :=
  ∀ key value, splitPair pair = some (key, value)
    → ∀ convert, conversion key = some convert → ∃ count, convert value = .ok count

/-- A long enough datagram with the right magic bytes and message type. -/
def IsResponse (buffer : ByteString) : Prop :=
  10 ≤ buffer.length ∧ buffer.take 4 = discoveryMagic ∧ buffer.getD 5 0 = 2

instance (buffer : ByteString) : Decidable (IsResponse buffer) := by
  unfold IsResponse
  infer_instance

/-- If it is a response, all its values convert. -/
def Arrival.Harmless : Arrival → Prop
  | .datagram _ bytes =>
      IsResponse (receivedBytes bytes)
        → ∀ pair ∈ getlines 59 ((receivedBytes bytes).drop 8), Converts pair
  | .failed | .nothing => True

/-- What a round does with a key and a value: it keeps the text, or stores the number. Either
way it leaves alone where the instance is found.
-/
inductive Assigned (discovered : DiscoveredInstance) (key value : ByteString)
    : Except ConversionError DiscoveredInstance → Prop where
  | kept (next : DiscoveredInstance) (text : conversion key = none)
      (host : next.host = discovered.host) (port : next.port = discovered.port)
      : Assigned discovered key value (.ok next)
  | converted (convert : ByteString → Except ConversionError Int)
      (store : Int → DiscoveredInstance) (number : conversion key = some convert)
      (host : ∀ count, (store count).host = discovered.host)
      (port : ∀ count, (store count).port = discovered.port)
      : Assigned discovered key value ((convert value).map store)

theorem assigned_assign (discovered : DiscoveredInstance) {pair key value : ByteString}
    (found : splitPair pair = some (key, value))
    : Assigned discovered key value (assign discovered pair) := by
  unfold assign
  rw [found]
  dsimp only
  by_cases id : key = ascii "id"
  · rw [if_pos id]
    exact .kept _ (by rw [id]; rfl) rfl rfl
  rw [if_neg id]
  by_cases version : key = ascii "version"
  · rw [if_pos version]
    exact .kept _ (by rw [version]; rfl) rfl rfl
  rw [if_neg version]
  by_cases status : key = ascii "status"
  · rw [if_pos status]
    exact .kept _ (by rw [status]; rfl) rfl rfl
  rw [if_neg status]
  by_cases uptime : key = ascii "uptime"
  · rw [if_pos uptime]
    exact .converted stoll _ (by rw [uptime]; rfl) (fun _ => rfl) (fun _ => rfl)
  rw [if_neg uptime]
  by_cases topics : key = ascii "topics"
  · rw [if_pos topics]
    exact .converted stoi _ (by rw [topics]; rfl) (fun _ => rfl) (fun _ => rfl)
  rw [if_neg topics]
  by_cases subs : key = ascii "subs"
  · rw [if_pos subs]
    exact .converted stoi _ (by rw [subs]; rfl) (fun _ => rfl) (fun _ => rfl)
  rw [if_neg subs]
  by_cases peers : key = ascii "peers"
  · rw [if_pos peers]
    exact .converted stoi _ (by rw [peers]; rfl) (fun _ => rfl) (fun _ => rfl)
  rw [if_neg peers]
  have unknown : ¬ (key = ascii "topics" ∨ key = ascii "subs" ∨ key = ascii "peers") :=
    not_or.mpr ⟨topics, not_or.mpr ⟨subs, peers⟩⟩
  exact .kept _ (by rw [conversion, if_neg uptime, if_neg unknown]) rfl rfl

theorem assign_of_splitPair_none {discovered : DiscoveredInstance} {pair : ByteString}
    (none : splitPair pair = none)
    : assign discovered pair = .ok discovered := by
  rw [assign, none]

theorem exists_assign_ok_iff (discovered : DiscoveredInstance) (pair : ByteString)
    : (∃ next, assign discovered pair = .ok next) ↔ Converts pair := by
  unfold Converts
  cases found : splitPair pair with
  | none => simp [assign_of_splitPair_none found]
  | some parts =>
      obtain ⟨key, value⟩ := parts
      have assigned := assigned_assign discovered found
      generalize assign discovered pair = outcome at assigned
      cases assigned with
      | kept next text => simp [text]
      | converted convert store number => simp [number, exists_map_ok_iff]

/-- The checks in front of the loop are one test. -/
theorem receiveResponse_datagram (discovered : DiscoveredInstance) (stamp : Int64)
    (host bytes : ByteString)
    : receiveResponse discovered stamp (.datagram host bytes)
      = if IsResponse (receivedBytes bytes) then
          ((getlines 59 ((receivedBytes bytes).drop 8)).foldlM assign
              { discovered with host := host, port := portOf (receivedBytes bytes) }).map
            (fun filled => (true, { filled with discoveredAt := stamp }))
        else
          .ok (false, discovered) := by
  rw [receiveResponse]
  by_cases response : IsResponse (receivedBytes bytes)
  · obtain ⟨long, magic, kind⟩ := response
    have some_bytes : ¬ (receivedBytes bytes).length = 0 := by omega
    have header
      : ¬ ((receivedBytes bytes).length < 8 ∨ (receivedBytes bytes).take 4 ≠ discoveryMagic) := by
      intro wrong
      rcases wrong with short | other
      · omega
      · exact other magic
    rw [if_neg some_bytes, if_neg header, if_neg (not_not.mpr kind), if_neg (by omega),
      if_pos ⟨long, magic, kind⟩]
  · rw [if_neg response]
    split_ifs with empty header kind short
    · rfl
    · rfl
    · rfl
    · rfl
    · rw [not_or, not_not] at header
      exact absurd ⟨Nat.not_lt.mp short, header.2, not_not.mp kind⟩ response

/-- Nothing but the conversions can throw. -/
theorem exists_receiveResponse_ok_iff (discovered : DiscoveredInstance) (stamp : Int64)
    (arrival : Arrival)
    : (∃ outcome, receiveResponse discovered stamp arrival = .ok outcome)
      ↔ arrival.Harmless := by
  cases arrival with
  | failed => simp [receiveResponse, Arrival.Harmless]
  | nothing => simp [receiveResponse, Arrival.Harmless]
  | datagram host bytes =>
      rw [receiveResponse_datagram, Arrival.Harmless]
      split
      · rename_i response
        rw [exists_map_ok_iff, exists_foldlM_ok_iff exists_assign_ok_iff]
        exact ⟨fun converts _ => converts, fun converts => converts response⟩
      · rename_i other
        exact ⟨fun _ response => absurd response other, fun _ => ⟨_, rfl⟩⟩

-----------------------------------------------------------------------------------------
-- The instance
-----------------------------------------------------------------------------------------

/-- The result is `false`, or the instance is the one the datagram describes. -/
def Answered (discovered : DiscoveredInstance) (stamp : Int64) (arrival : Arrival) : Prop :=
  receiveResponse discovered stamp arrival = .ok (false, discovered)
    ∨ ∃ host bytes filled, arrival = .datagram host bytes
      ∧ receiveResponse discovered stamp arrival = .ok (true, filled)
      ∧ filled.host = host ∧ filled.port = portOf (receivedBytes bytes)
      ∧ filled.discoveredAt = stamp

theorem assign_address {discovered next : DiscoveredInstance} {pair : ByteString}
    (done : assign discovered pair = .ok next)
    : next.host = discovered.host ∧ next.port = discovered.port := by
  cases found : splitPair pair with
  | none =>
      rw [assign_of_splitPair_none found] at done
      cases done
      exact ⟨rfl, rfl⟩
  | some parts =>
      obtain ⟨key, value⟩ := parts
      have assigned := assigned_assign discovered found
      rw [done] at assigned
      generalize outcome : Except.ok next = result at assigned
      cases assigned with
      | kept other text host port =>
          cases outcome
          exact ⟨host, port⟩
      | converted convert store number host port =>
          obtain ⟨count, _, rfl⟩ := map_eq_ok_iff.mp outcome.symm
          exact ⟨host count, port count⟩

theorem foldlM_assign_address {discovered filled : DiscoveredInstance}
    {pairs : List ByteString} (assigned : pairs.foldlM assign discovered = .ok filled)
    : filled.host = discovered.host ∧ filled.port = discovered.port := by
  induction pairs generalizing discovered with
  | nil =>
      cases assigned
      exact ⟨rfl, rfl⟩
  | cons pair rest ih =>
      rw [List.foldlM_cons] at assigned
      cases first : assign discovered pair with
      | error thrown =>
          rw [first] at assigned
          cases assigned
      | ok next =>
          rw [first] at assigned
          obtain ⟨host, port⟩ := ih assigned
          obtain ⟨same_host, same_port⟩ := assign_address first
          exact ⟨host.trans same_host, port.trans same_port⟩

theorem answered_iff (discovered : DiscoveredInstance) (stamp : Int64) (arrival : Arrival)
    : Answered discovered stamp arrival ↔ arrival.Harmless := by
  rw [← exists_receiveResponse_ok_iff discovered stamp arrival]
  constructor
  · intro answered
    rcases answered with ignored | ⟨host, bytes, filled, _, accepted, _⟩
    · exact ⟨_, ignored⟩
    · exact ⟨_, accepted⟩
  · intro returned
    cases arrival with
    | failed => exact .inl rfl
    | nothing => exact .inl rfl
    | datagram host bytes =>
        obtain ⟨outcome, returned⟩ := returned
        rw [Answered, returned]
        rw [receiveResponse_datagram] at returned
        split at returned
        · obtain ⟨filled, assigned, rfl⟩ := map_eq_ok_iff.mp returned
          obtain ⟨same_host, same_port⟩ := foldlM_assign_address assigned
          exact .inr ⟨host, bytes, _, rfl, rfl, same_host, same_port, rfl⟩
        · cases returned
          exact .inl rfl

end NexusD.Tools
