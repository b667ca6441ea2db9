import NexusD.Core.TextConversion
import NexusD.Services.SidecarService
import NexusD.Library.Attempts

/-! The daemon's command line, and the service `main` builds from it.
Every numeric option goes through a conversion of the C++ library and is then stored in a
field of its own width; the limit of the subscriber queues is narrowed once more on its way
into the service.
-/

namespace NexusD.Daemon

open NexusD.Core NexusD.Library
open NexusD.Services

structure Config where
  clusterId : ByteString := ascii "default"
  mcastAddr : ByteString := ascii "239.255.42.1"
  mcastPort : Nat := 5670
  meshPort : Nat := 5671
  appPort : Nat := 5672
  bindAddr : ByteString := ascii "0.0.0.0"
  logLevel : ByteString := ascii "INFO"
  help : Bool := false
  messageBufferSize : Nat := 5
  maxBufferMemoryBytes : Nat := 52428800
  pausedSubscriptionTtlMs : Int := 300000
  subscriberQueueLimit : Nat := 10000
  backpressurePolicy : ByteString := ascii "drop-oldest"
  blockTimeoutMs : Int := 5000
  defaultMessageTtlMs : Int := 0
  ttlReaperIntervalMs : Int := 1000
deriving DecidableEq, Repr

/-- The options that take a value. -/
inductive DaemonOption where
  | cluster
  | mcastAddr
  | mcastPort
  | meshPort
  | appPort
  | bind
  | logLevel
  | messageBufferSize
  | maxBufferMemory
  | pausedSubscriptionTtl
  | subscriberQueueLimit
  | backpressurePolicy
  | blockTimeoutMs
  | defaultMessageTtl
  | ttlReaperInterval
deriving DecidableEq, Repr

namespace DaemonOption

def name : DaemonOption → ByteString
  | cluster => ascii "--cluster"
  | mcastAddr => ascii "--mcast-addr"
  | mcastPort => ascii "--mcast-port"
  | meshPort => ascii "--mesh-port"
  | appPort => ascii "--app-port"
  | bind => ascii "--bind"
  | logLevel => ascii "--log-level"
  | messageBufferSize => ascii "--message-buffer-size"
  | maxBufferMemory => ascii "--max-buffer-memory"
  | pausedSubscriptionTtl => ascii "--paused-subscription-ttl"
  | subscriberQueueLimit => ascii "--subscriber-queue-limit"
  | backpressurePolicy => ascii "--backpressure-policy"
  | blockTimeoutMs => ascii "--block-timeout-ms"
  | defaultMessageTtl => ascii "--default-message-ttl"
  | ttlReaperInterval => ascii "--ttl-reaper-interval"

def all : List DaemonOption :=
  [cluster, mcastAddr, mcastPort, meshPort, appPort, bind, logLevel, messageBufferSize,
    maxBufferMemory, pausedSubscriptionTtl, subscriberQueueLimit, backpressurePolicy,
    blockTimeoutMs, defaultMessageTtl, ttlReaperInterval]

/-- The option `arg` names, by the `strcmp` chain. -/
def ofName (arg : ByteString) : Option DaemonOption :=
  all.find? (fun option => option.name = arg)

/-- `static_cast<uint16_t>` of an `int` -/
def uint16 (value : Int) : Nat := (value % 2 ^ 16).toNat

/-- `static_cast<uint32_t>` -/
def uint32 (value : Nat) : Nat := value % 2 ^ 32

/-- The branch of the option. A conversion may throw. -/
def set (config : Config) (value : ByteString)
    : DaemonOption → Except ConversionError Config
  | cluster => .ok { config with clusterId := value }
  | mcastAddr => .ok { config with mcastAddr := value }
  | mcastPort => (stoi value).map (fun port => { config with mcastPort := uint16 port })
  | meshPort => (stoi value).map (fun port => { config with meshPort := uint16 port })
  | appPort => (stoi value).map (fun port => { config with appPort := uint16 port })
  | bind => .ok { config with bindAddr := value }
  | logLevel => .ok { config with logLevel := value }
  | messageBufferSize =>
      (stoul value).map (fun size => { config with messageBufferSize := uint32 size })
  | maxBufferMemory =>
      (stoull value).map (fun bytes => { config with maxBufferMemoryBytes := bytes })
  | pausedSubscriptionTtl =>
      (stoll value).map (fun ttl => { config with pausedSubscriptionTtlMs := ttl })
  | subscriberQueueLimit =>
      (stoull value).map (fun limit => { config with subscriberQueueLimit := limit })
  | backpressurePolicy => .ok { config with backpressurePolicy := value }
  | blockTimeoutMs =>
      (stoll value).map (fun timeout => { config with blockTimeoutMs := timeout })
  | defaultMessageTtl =>
      (stoll value).map (fun ttl => { config with defaultMessageTtlMs := ttl })
  | ttlReaperInterval =>
      (stoll value).map (fun interval => { config with ttlReaperIntervalMs := interval })

end DaemonOption

/-- `parseArgs`, from the configuration read so far. A missing value and an unknown option
count as a call for help.
-/
def parseArgs (config : Config) : List ByteString → Except ConversionError Config
  | [] => .ok config
  | [_] => .ok { config with help := true }
  | arg :: value :: rest =>
      if arg = ascii "--help" ∨ arg = ascii "-h" then
        .ok { config with help := true }
      else
        match DaemonOption.ofName arg with
        | none => .ok { config with help := true }
        | some option =>
            match option.set config value with
            | .error error => .error error
            | .ok next => parseArgs next rest

/-- `parsePolicyString` -/
def parsePolicyString (policy : ByteString) : BackpressurePolicy :=
  if policy = ascii "drop-newest" then .dropNewest
  else if policy = ascii "block" then .block
  else .dropOldest

/-- The sidecar service as `main` constructs it. -/
def sidecarService (config : Config) (registry : PeerRegistry) : SidecarService :=
  SidecarService.create
    {
      pausedSubscriptionTtl := config.pausedSubscriptionTtlMs
      subscriberQueueLimit := DaemonOption.uint32 config.subscriberQueueLimit
      backpressurePolicy := parsePolicyString config.backpressurePolicy
      defaultMessageTtlMs := config.defaultMessageTtlMs
    }
    registry config.messageBufferSize config.maxBufferMemoryBytes

/-- What comes of a command line: the exception, the usage text, or a daemon. -/
inductive Startup where
  | throws (error : ConversionError)
  | usage
  | runs (config : Config) (service : SidecarService)

/-- `main`, up to the construction of the service. -/
def start (registry : PeerRegistry) (arguments : List ByteString) : Startup :=
  match parseArgs {} arguments with
  | .error error => .throws error
  | .ok config => if config.help then .usage else .runs config (sidecarService config registry)

/-- The options with an unsigned number. -/
inductive NumericOption where
  | mcastPort
  | meshPort
  | appPort
  | messageBufferSize
  | maxBufferMemory
  | subscriberQueueLimit
deriving DecidableEq, Repr

namespace NumericOption

def option : NumericOption → DaemonOption
  | mcastPort => .mcastPort
  | meshPort => .meshPort
  | appPort => .appPort
  | messageBufferSize => .messageBufferSize
  | maxBufferMemory => .maxBufferMemory
  | subscriberQueueLimit => .subscriberQueueLimit

/-- The value the component works with. -/
def used (config : Config) (service : SidecarService) : NumericOption → Nat
  | mcastPort => config.mcastPort
  | meshPort => config.meshPort
  | appPort => config.appPort
  | messageBufferSize => service.messageBuffer.bufferSizePerTopic
  | maxBufferMemory => service.messageBuffer.maxTotalMemoryBytes
  | subscriberQueueLimit => service.config.subscriberQueueLimit

/-- The same, of the service that belongs to the configuration. -/
def arrived (config : Config) : NumericOption → Nat
  | mcastPort => config.mcastPort
  | meshPort => config.meshPort
  | appPort => config.appPort
  | messageBufferSize => config.messageBufferSize
  | maxBufferMemory => config.maxBufferMemoryBytes
  | subscriberQueueLimit => DaemonOption.uint32 config.subscriberQueueLimit

/-- Larger numbers make the conversion throw. -/
def parsedBits : NumericOption → Nat
  | mcastPort | meshPort | appPort => 31
  | messageBufferSize | maxBufferMemory | subscriberQueueLimit => 64

/-- The width of the narrowest field on the way. -/
def usedBits : NumericOption → Nat
  | mcastPort | meshPort | appPort => 16
  | messageBufferSize | subscriberQueueLimit => 32
  | maxBufferMemory => 64

theorem used_eq_arrived (option : NumericOption) (config : Config) (registry : PeerRegistry)
    : option.used config (sidecarService config registry) = option.arrived config := by
  cases option <;> rfl

theorem uint16_natCast (value : Nat) : DaemonOption.uint16 value = value % 2 ^ 16 := by
  unfold DaemonOption.uint16
  omega

/-- A number that converts is stored modulo the width of the field. -/
theorem set_of_lt (option : NumericOption) (config : Config) {value : Nat}
    (fits : value < 2 ^ option.parsedBits)
    : ∃ next, option.option.set config (decimal value) = .ok next
        ∧ option.arrived next = value % 2 ^ option.usedBits
        ∧ next.help = config.help := by
  cases option with
  | mcastPort | meshPort | appPort =>
      have read : stoi (decimal value) = .ok (value : Int) :=
        (toSigned_decimal 32 value).trans (if_pos fits)
      exact ⟨_, map_eq_ok_iff.mpr ⟨_, read, rfl⟩, uint16_natCast value, rfl⟩
  | messageBufferSize | subscriberQueueLimit =>
      have read : toUnsigned 64 (decimal value) = .ok value :=
        (toUnsigned_decimal 64 value).trans (if_pos fits)
      exact ⟨_, map_eq_ok_iff.mpr ⟨_, read, rfl⟩, rfl, rfl⟩
  | maxBufferMemory =>
      have read : stoull (decimal value) = .ok value :=
        (toUnsigned_decimal 64 value).trans (if_pos fits)
      exact ⟨_, map_eq_ok_iff.mpr ⟨_, read, rfl⟩, (Nat.mod_eq_of_lt fits).symm, rfl⟩

theorem set_of_ge (option : NumericOption) (config : Config) {value : Nat}
    (large : 2 ^ option.parsedBits ≤ value)
    : option.option.set config (decimal value) = .error .outOfRange := by
  cases option with
  | mcastPort | meshPort | appPort =>
      have thrown : stoi (decimal value) = .error .outOfRange :=
        (toSigned_decimal 32 value).trans (if_neg (Nat.not_lt.mpr large))
      exact map_error thrown _
  | messageBufferSize | maxBufferMemory | subscriberQueueLimit =>
      have thrown : toUnsigned 64 (decimal value) = .error .outOfRange :=
        (toUnsigned_decimal 64 value).trans (if_neg (Nat.not_lt.mpr large))
      exact map_error thrown _

/-- The branches of other options leave the value alone. -/
theorem set_other {other : DaemonOption} {config next : Config} {value : ByteString}
    (done : other.set config value = .ok next) (option : NumericOption)
    (different : other ≠ option.option)
    : option.arrived next = option.arrived config := by
  cases other with
  | cluster | mcastAddr | bind | logLevel | backpressurePolicy =>
      cases done
      cases option <;> rfl
  | pausedSubscriptionTtl | blockTimeoutMs | defaultMessageTtl | ttlReaperInterval =>
      obtain ⟨_, _, rfl⟩ := map_eq_ok_iff.mp done
      cases option <;> rfl
  | mcastPort | meshPort | appPort | messageBufferSize | maxBufferMemory
  | subscriberQueueLimit =>
      obtain ⟨_, _, rfl⟩ := map_eq_ok_iff.mp done
      cases option <;> first | rfl | exact absurd rfl different

end NumericOption

-----------------------------------------------------------------------------------------
-- Command lines
-----------------------------------------------------------------------------------------

theorem DaemonOption.ofName_name (option : DaemonOption) : ofName option.name = some option := by
  cases option <;> rfl

theorem DaemonOption.name_of_ofName {arg : ByteString} {option : DaemonOption}
    (found : ofName arg = some option)
    : option.name = arg := by
  have named := List.find?_some found
  exact of_decide_eq_true named

theorem DaemonOption.name_ne_help (option : DaemonOption)
    : ¬ (option.name = ascii "--help" ∨ option.name = ascii "-h") := by
  have long : ofName (ascii "--help") = none := rfl
  have short : ofName (ascii "-h") = none := rfl
  have known := option.ofName_name
  intro same
  rcases same with same | same
  · rw [same, long] at known
    cases known
  · rw [same, short] at known
    cases known

/-- Options with their values, as they stand on the command line. -/
def spelled (entries : List (ByteString × ByteString)) : List ByteString :=
  entries.flatMap (fun entry => [entry.1, entry.2])

/-- No configuration to start with comes out. -/
def Refused (outcome : Except ConversionError Config) : Prop :=
  ∀ config, outcome = .ok config → config.help = true

theorem refused_error (error : ConversionError) : Refused (.error error) := by
  intro config done
  cases done

theorem refused_help (config : Config) : Refused (.ok { config with help := true }) := by
  intro result done
  cases done
  rfl

theorem parseArgs_option (config : Config) (option : DaemonOption) (value : ByteString)
    (rest : List ByteString)
    : parseArgs config (option.name :: value :: rest)
      = match option.set config value with
        | .error error => .error error
        | .ok next => parseArgs next rest := by
  rw [parseArgs, if_neg option.name_ne_help, option.ofName_name]

/-- Options are worked off one by one, unless one of them ends the parse; and each sets
nothing but its own value.
-/
theorem parseArgs_spelled (config : Config) (entries : List (ByteString × ByteString))
    (rest : List ByteString)
    : Refused (parseArgs config (spelled entries ++ rest))
      ∨ ∃ next, parseArgs config (spelled entries ++ rest) = parseArgs next rest
        ∧ ∀ option : NumericOption, (∀ entry ∈ entries, entry.1 ≠ option.option.name)
          → option.arrived next = option.arrived config := by
  induction entries generalizing config with
  | nil => exact .inr ⟨config, rfl, fun _ _ => rfl⟩
  | cons entry entries ih =>
      have opened
        : spelled (entry :: entries) ++ rest
          = entry.1 :: entry.2 :: (spelled entries ++ rest) := rfl
      rw [opened, parseArgs]
      split
      · exact .inl (refused_help config)
      · split
        · exact .inl (refused_help config)
        · rename_i option found
          split
          · exact .inl (refused_error _)
          · rename_i next done
            rcases ih next with refused | more
            · exact .inl refused
            · obtain ⟨final, same, kept⟩ := more
              refine .inr ⟨final, same, ?_⟩
              intro numeric others
              obtain ⟨here, later⟩ := List.forall_mem_cons.mp others
              rw [kept numeric later]
              apply NumericOption.set_other done
              intro clash
              apply here
              rw [← DaemonOption.name_of_ofName found, clash]

/-- A command line with a numeric option, and how it stands in it: no later entry sets it
again. An argument may be left over at the end.
-/
structure CommandLine (option : NumericOption) where
  before : List (ByteString × ByteString) := []
  behind : List (ByteString × ByteString) := []
  dangling : Option ByteString := none
  last : ∀ entry ∈ behind, entry.1 ≠ option.option.name

namespace CommandLine

variable {option : NumericOption}

def arguments (line : CommandLine option) (value : Nat) : List ByteString :=
  spelled line.before
    ++ option.option.name :: decimal value :: (spelled line.behind ++ line.dangling.toList)

/-- The daemon does not start, or works with the value it was given. -/
def Honest (line : CommandLine option) (registry : PeerRegistry) (value : Nat) : Prop :=
  match start registry (line.arguments value) with
  | .throws _ => True
  | .usage => True
  | .runs config service => option.used config service = value

/-- What is parsed, and what has become of the value. -/
theorem parseArgs_arguments (line : CommandLine option) (value : Nat)
    : Refused (parseArgs {} (line.arguments value))
      ∨ ∃ final, parseArgs {} (line.arguments value) = .ok final
        ∧ value < 2 ^ option.parsedBits
        ∧ option.arrived final = value % 2 ^ option.usedBits := by
  rw [arguments]
  rcases parseArgs_spelled {} line.before
    (option.option.name :: decimal value :: (spelled line.behind ++ line.dangling.toList))
    with refused | ⟨next, same, _⟩
  · exact .inl refused
  rw [same, parseArgs_option]
  by_cases fits : value < 2 ^ option.parsedBits
  · obtain ⟨given, done, stored, _⟩ := option.set_of_lt next fits
    rw [done]
    dsimp only
    rcases parseArgs_spelled given line.behind line.dangling.toList
      with refused | ⟨final, same, kept⟩
    · exact .inl refused
    rw [same]
    cases line.dangling with
    | none => exact .inr ⟨final, rfl, fits, (kept option line.last).trans stored⟩
    | some left => exact .inl (refused_help final)
  · rw [option.set_of_ge next (Nat.not_lt.mp fits)]
    exact .inl (refused_error .outOfRange)

/-- The option and its value as the whole command line. -/
def alone (option : NumericOption) : CommandLine option where
  last := by
    intro entry member
    cases member

theorem start_alone (option : NumericOption) (registry : PeerRegistry) {value : Nat}
    (fits : value < 2 ^ option.parsedBits)
    : ∃ config service,
        start registry [option.option.name, decimal value] = .runs config service
        ∧ option.used config service = value % 2 ^ option.usedBits := by
  obtain ⟨next, done, stored, no_help⟩ := option.set_of_lt {} fits
  refine ⟨next, sidecarService next registry, ?_, ?_⟩
  · rw [start, parseArgs_option, done]
    simp [parseArgs, no_help]
  · rw [option.used_eq_arrived, stored]

/-- A number arrives unchanged, wherever its option stands, exactly when it fits into the
narrowest field on its way or is too large for the conversion.
-/
theorem honest_iff (option : NumericOption) (registry : PeerRegistry) (value : Nat)
    : (∀ line : CommandLine option, line.Honest registry value)
      ↔ value < 2 ^ option.usedBits ∨ 2 ^ option.parsedBits ≤ value := by
  constructor
  · intro honest
    by_contra between
    push Not at between
    obtain ⟨wide, fits⟩ := between
    obtain ⟨config, service, running, stored⟩ := start_alone option registry fits
    have given := honest (alone option)
    rw [Honest, show (alone option).arguments value = [option.option.name, decimal value]
      from rfl, running] at given
    have bound := Nat.mod_lt value (Nat.two_pow_pos option.usedBits)
    have same : value % 2 ^ option.usedBits = value := stored.symm.trans given
    omega
  · intro safe line
    unfold Honest start
    rcases line.parseArgs_arguments value with refused | ⟨final, parsed, fits, stored⟩
    · cases parsed : parseArgs {} (line.arguments value) with
      | error error => trivial
      | ok config => simp [refused config parsed]
    · have exact_value : value % 2 ^ option.usedBits = value := by
        apply Nat.mod_eq_of_lt
        rcases safe with narrow | large
        · exact narrow
        · exact absurd fits (Nat.not_lt.mpr large)
      rw [parsed]
      cases help : final.help with
      | true => simp [help]
      | false => simp [help, option.used_eq_arrived, stored, exact_value]

/-- A limit of 2^32 messages is no limit at all, and port 65537 is port 1. -/
theorem truncated_values
    : (∃ config service,
        start { localNodeId := [] }
            [ascii "--subscriber-queue-limit", decimal 4294967296]
          = .runs config service
        ∧ service.config.subscriberQueueLimit = 0)
      ∧ ∃ config service,
        start { localNodeId := [] } [ascii "--mesh-port", decimal 65537]
          = .runs config service
        ∧ config.meshPort = 1 := by
  constructor
  · exact start_alone .subscriberQueueLimit _ (by decide)
  · exact start_alone .meshPort _ (by decide)

end CommandLine

end NexusD.Daemon
