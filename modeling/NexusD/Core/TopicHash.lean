import NexusD.Core.Crc64
import NexusD.Core.TopicIndex
import NexusD.Library.Concatenation
import Mathlib.Data.List.Sort

/-! The hash a node advertises for its topics.
The topics are sorted and hashed one after the other, with nothing between them.
-/

namespace NexusD.Core

open NexusD.Library

/-- `operator<=` of `std::string`: bytewise, a prefix first. -/
def bytesLe : ByteString → ByteString → Bool
  | [], _ => true
  | _ :: _, [] => false
  | left :: lefts, right :: rights =>
      if left < right then true else if right < left then false else bytesLe lefts rights

theorem byte_trichotomy (left right : UInt8)
    : left < right ∨ left = right ∨ right < left := by
  rw [UInt8.lt_iff_toNat_lt, UInt8.lt_iff_toNat_lt, ← UInt8.toNat_inj]
  exact Nat.lt_trichotomy _ _

theorem bytesLe_total (left right : ByteString)
    : bytesLe left right = true ∨ bytesLe right left = true := by
  induction left generalizing right with
  | nil => exact .inl rfl
  | cons first rest ih =>
      cases right with
      | nil => exact .inr rfl
      | cons other others =>
          unfold bytesLe
          rcases byte_trichotomy first other with less | rfl | greater
          · simp [less]
          · simpa using ih others
          · simp [greater]

theorem bytesLe_antisymm {left right : ByteString} (le : bytesLe left right = true)
    (ge : bytesLe right left = true)
    : left = right := by
  induction left generalizing right with
  | nil =>
      cases right with
      | nil => rfl
      | cons other others => simp [bytesLe] at ge
  | cons first rest ih =>
      cases right with
      | nil => simp [bytesLe] at le
      | cons other others =>
          unfold bytesLe at le ge
          rcases byte_trichotomy first other with less | rfl | greater
          · simp [less, UInt8.lt_asymm less] at ge
          · rw [ih (by simpa using le) (by simpa using ge)]
          · simp [greater, UInt8.lt_asymm greater] at le

theorem bytesLe_trans {left middle right : ByteString} (first : bytesLe left middle = true)
    (second : bytesLe middle right = true)
    : bytesLe left right = true := by
  induction left generalizing middle right with
  | nil => rfl
  | cons a lefts ih =>
      cases middle with
      | nil => simp [bytesLe] at first
      | cons b middles =>
          cases right with
          | nil => simp [bytesLe] at second
          | cons c rights =>
              unfold bytesLe at first second ⊢
              rcases byte_trichotomy a b with ab | rfl | ba
              · rcases byte_trichotomy b c with bc | rfl | cb
                · simp [UInt8.lt_trans ab bc]
                · simp [ab]
                · simp [cb, UInt8.lt_asymm cb] at second
              · rcases byte_trichotomy a c with ac | rfl | ca
                · simp [ac]
                · simpa using ih (by simpa using first) (by simpa using second)
                · simp [ca, UInt8.lt_asymm ca] at second
              · simp [ba, UInt8.lt_asymm ba] at first

instance : Std.Total (fun left right : ByteString => bytesLe left right = true) :=
  ⟨bytesLe_total⟩

instance : Std.Antisymm (fun left right : ByteString => bytesLe left right = true) :=
  ⟨fun _ _ => bytesLe_antisymm⟩

instance : IsTrans ByteString (fun left right => bytesLe left right = true) :=
  ⟨fun _ _ _ => bytesLe_trans⟩

/-- `std::sort` of topics. -/
def sortTopics (topics : List ByteString) : List ByteString :=
  topics.insertionSort (fun left right => bytesLe left right = true)

theorem sortTopics_perm (topics : List ByteString) : (sortTopics topics).Perm topics :=
  List.perm_insertionSort _ topics

/-- The order in which the topics come does not matter. -/
theorem sortTopics_eq_of_perm {left right : List ByteString} (same : left.Perm right)
    : sortTopics left = sortTopics right := by
  apply List.Perm.eq_of_pairwise' (List.pairwise_insertionSort _ left)
    (List.pairwise_insertionSort _ right)
  exact ((sortTopics_perm left).trans same).trans (sortTopics_perm right).symm

namespace PeerRegistry

/-- The topics as `computeLocalTopicHash` hashes them. -/
def sortedTopics (registry : PeerRegistry) : List ByteString :=
  sortTopics registry.topicToSubscriptions.keys

/-- The topics are collected in the order in which the index is walked. -/
def computeLocalTopicHash (registry : PeerRegistry)
    (order : IterationOrder ByteString := .asStored)
    : UInt64 :=
  Crc64.computeStrings (sortTopics (order.visit registry.topicToSubscriptions.keys))

/-- The bytes that go into the CRC. -/
def hashedBytes (registry : PeerRegistry) : ByteString :=
  registry.sortedTopics.flatten

/-- That order does not matter. -/
theorem computeLocalTopicHash_sorted (registry : PeerRegistry)
    (order : IterationOrder ByteString)
    : registry.computeLocalTopicHash order = Crc64.computeStrings registry.sortedTopics :=
  congrArg Crc64.computeStrings (sortTopics_eq_of_perm (order.perm _))

theorem computeLocalTopicHash_eq (registry : PeerRegistry)
    : registry.computeLocalTopicHash = Crc64.compute registry.hashedBytes := by
  rw [computeLocalTopicHash_sorted, Crc64.computeStrings_eq]
  rfl

theorem mem_sortedTopics {registry : PeerRegistry} {topic : ByteString}
    : topic ∈ registry.sortedTopics ↔ topic ∈ registry.topicToSubscriptions.keys :=
  (sortTopics_perm _).mem_iff

/-- Sorting the answer of `getLocalTopics` gives the topics that are hashed. -/
theorem sortTopics_getLocalTopics (registry : PeerRegistry)
    (order : IterationOrder ByteString)
    : sortTopics (registry.getLocalTopics order) = registry.sortedTopics :=
  sortTopics_eq_of_perm (order.perm _)

/-- The registries subscribe to the same topics. -/
def SameTopics (left right : PeerRegistry) : Prop :=
  ∀ topic, topic ∈ left.topicToSubscriptions.keys ↔ topic ∈ right.topicToSubscriptions.keys

theorem sortedTopics_eq_iff {left right : PeerRegistry}
    : left.sortedTopics = right.sortedTopics ↔ left.SameTopics right := by
  constructor
  · intro same topic
    rw [← mem_sortedTopics, same, mem_sortedTopics]
  · intro same
    apply sortTopics_eq_of_perm
    exact (List.perm_ext_iff_of_nodup left.topicToSubscriptions.keys_nodup
      right.topicToSubscriptions.keys_nodup).mpr same

/-- The bytes the design document hashes: every topic is followed by a newline. -/
def documentedBytes (registry : PeerRegistry) : ByteString :=
  (registry.sortedTopics.map (· ++ [10])).flatten

/-- Those tell the topics whenever no topic contains a newline. -/
theorem sameTopics_of_documentedBytes {left right : PeerRegistry}
    (oneLine : ∀ topic ∈ left.topicToSubscriptions.keys, 10 ∉ topic)
    (oneLineToo : ∀ topic ∈ right.topicToSubscriptions.keys, 10 ∉ topic)
    (same : left.documentedBytes = right.documentedBytes)
    : left.SameTopics right := by
  have lines (registry : PeerRegistry)
      (oneLine : ∀ topic ∈ registry.topicToSubscriptions.keys, 10 ∉ topic)
      : ∀ word ∈ registry.sortedTopics.map (· ++ [10]),
          word ∈ { word | ∃ body : ByteString, 10 ∉ body ∧ word = body ++ [10] } := by
    intro word member
    obtain ⟨topic, sorted, rfl⟩ := List.mem_map.mp member
    exact ⟨topic, oneLine topic (mem_sortedTopics.mp sorted), rfl⟩
  have mapped :=
    (prefixFree_terminated (10 : UInt8)).flatten_injective (lines left oneLine)
      (lines right oneLineToo) same
  apply sortedTopics_eq_iff.mp
  exact List.map_injective_iff.mpr (List.append_left_injective [10]) mapped

end PeerRegistry

end NexusD.Core
