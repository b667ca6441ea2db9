import NexusD.Core.TextFormat
import NexusD.Daemon.Config

/-! Every configuration can be written as a command line.
The options may stand in any order, and what was set before is forgotten. This holds because
each option writes one setting, reads the text it is given as the number that was printed, and
leaves the other settings alone.
-/

namespace NexusD.Core

theorem leadingNumber_signedDecimal (value : Int)
    : leadingNumber (signedDecimal value) = some (decide (value < 0), value.natAbs) := by
  unfold signedDecimal
  split
  · rename_i negative
    have digits : (decimal value.natAbs).takeWhile isdigit = decimal value.natAbs :=
      List.takeWhile_eq_self_iff.mpr (fun byte member => decimal_isdigit member)
    have sign : isspace 45 = false := rfl
    simp [leadingNumber, splitSign, sign, digits, decimal_ne_nil, decimalValue_decimal,
      negative]
  · rename_i natural
    simp [leadingNumber_decimal, natural]

theorem toSigned_signedDecimal {width : Nat} {value : Int}
    (fits : -2 ^ (width - 1) ≤ value ∧ value < 2 ^ (width - 1))
    : toSigned width (signedDecimal value) = .ok value := by
  have read
    : (if decide (value < 0) = true then -(value.natAbs : Int) else value.natAbs) = value := by
    split
    · rename_i negative
      have below : value < 0 := of_decide_eq_true negative
      omega
    · rename_i natural
      have above : ¬value < 0 := by simpa using natural
      omega
  simp only [toSigned, leadingNumber_signedDecimal, read, if_pos fits]

end NexusD.Core

namespace NexusD.Daemon

open NexusD.Core NexusD.Library NexusD.Services

/-- What an option sets. -/
inductive Setting where
  | text (written : ByteString)
  | unsigned (value : Nat)
  | signed (value : Int)
deriving DecidableEq, Repr

/-- The setting as it stands behind its option. -/
def Setting.spell : Setting → ByteString
  | .text written => written
  | .unsigned value => decimal value
  | .signed value => signedDecimal value

namespace DaemonOption

def setting (config : Config) : DaemonOption → Setting
  | cluster => .text config.clusterId
  | mcastAddr => .text config.mcastAddr
  | mcastPort => .unsigned config.mcastPort
  | meshPort => .unsigned config.meshPort
  | appPort => .unsigned config.appPort
  | bind => .text config.bindAddr
  | logLevel => .text config.logLevel
  | messageBufferSize => .unsigned config.messageBufferSize
  | maxBufferMemory => .unsigned config.maxBufferMemoryBytes
  | pausedSubscriptionTtl => .signed config.pausedSubscriptionTtlMs
  | subscriberQueueLimit => .unsigned config.subscriberQueueLimit
  | backpressurePolicy => .text config.backpressurePolicy
  | blockTimeoutMs => .signed config.blockTimeoutMs
  | defaultMessageTtl => .signed config.defaultMessageTtlMs
  | ttlReaperInterval => .signed config.ttlReaperIntervalMs

/-- The width of the field, for the numbers. -/
def bits : DaemonOption → Nat
  | mcastPort | meshPort | appPort => 16
  | messageBufferSize => 32
  | _ => 64

end DaemonOption

/-- The setting is a value of a C++ type with so many bits. -/
def Setting.Fits (bits : Nat) : Setting → Prop
  | .text _ => True
  | .unsigned value => value < 2 ^ bits
  | .signed value => -2 ^ (bits - 1) ≤ value ∧ value < 2 ^ (bits - 1)

instance (bits : Nat) (setting : Setting) : Decidable (setting.Fits bits) :=
  match setting with
  | .text _ => isTrue trivial
  | .unsigned value => inferInstanceAs (Decidable (value < 2 ^ bits))
  | .signed value =>
      inferInstanceAs (Decidable (-2 ^ (bits - 1) ≤ value ∧ value < 2 ^ (bits - 1)))

/-- The fields of the configuration hold values of their types. -/
def Config.Typed (config : Config) : Prop :=
  ∀ option : DaemonOption, (option.setting config).Fits option.bits

theorem Config.ext_setting {first second : Config} (help : first.help = second.help)
    (settings
      : ∀ option : DaemonOption, option.setting first = option.setting second)
    : first = second := by
  have text {a b : ByteString} (same : Setting.text a = .text b) : a = b := by
    cases same
    rfl
  have unsigned {a b : Nat} (same : Setting.unsigned a = .unsigned b) : a = b := by
    cases same
    rfl
  have signed {a b : Int} (same : Setting.signed a = .signed b) : a = b := by
    cases same
    rfl
  cases first
  cases second
  rw [Config.mk.injEq]
  exact ⟨text (settings .cluster), text (settings .mcastAddr), unsigned (settings .mcastPort),
    unsigned (settings .meshPort), unsigned (settings .appPort), text (settings .bind),
    text (settings .logLevel), help, unsigned (settings .messageBufferSize),
    unsigned (settings .maxBufferMemory), signed (settings .pausedSubscriptionTtl),
    unsigned (settings .subscriberQueueLimit), text (settings .backpressurePolicy),
    signed (settings .blockTimeoutMs), signed (settings .defaultMessageTtl),
    signed (settings .ttlReaperInterval)⟩

namespace DaemonOption

variable {option : DaemonOption} {config next : Config} {value : ByteString}

theorem help_set (done : option.set config value = .ok next) : next.help = config.help := by
  cases option with
  | cluster | mcastAddr | bind | logLevel | backpressurePolicy =>
      cases done
      rfl
  | mcastPort | meshPort | appPort | messageBufferSize | maxBufferMemory
  | pausedSubscriptionTtl | subscriberQueueLimit | blockTimeoutMs | defaultMessageTtl
  | ttlReaperInterval =>
      obtain ⟨_, _, rfl⟩ := map_eq_ok_iff.mp done
      rfl

theorem setting_set_ne (done : option.set config value = .ok next) {other : DaemonOption}
    (different : other ≠ option)
    : other.setting next = other.setting config := by
  cases option with
  | cluster | mcastAddr | bind | logLevel | backpressurePolicy =>
      cases done
      cases other <;> first | rfl | exact absurd rfl different
  | mcastPort | meshPort | appPort | messageBufferSize | maxBufferMemory
  | pausedSubscriptionTtl | subscriberQueueLimit | blockTimeoutMs | defaultMessageTtl
  | ttlReaperInterval =>
      obtain ⟨_, _, rfl⟩ := map_eq_ok_iff.mp done
      cases other <;> first | rfl | exact absurd rfl different

/-- A port is read as an `int` and then narrowed. -/
theorem stoi_decimal {port : Nat} (fits : port < 2 ^ 16)
    : stoi (decimal port) = .ok (port : Int) := by
  rw [stoi, toSigned_decimal, if_pos (Nat.lt_trans fits (by decide))]

theorem uint16_of_lt {port : Nat} (fits : port < 2 ^ 16) : uint16 port = port := by
  rw [NumericOption.uint16_natCast, Nat.mod_eq_of_lt fits]

theorem stoull_decimal {number : Nat} (fits : number < 2 ^ 64)
    : stoull (decimal number) = .ok number := by
  rw [stoull, toUnsigned_decimal, if_pos fits]

/-- The text of a setting is read back. -/
theorem set_spell (target : Config) (typed : target.Typed) (option : DaemonOption)
    (config : Config)
    : ∃ next,
        option.set config (option.setting target).spell = .ok next
        ∧ option.setting next = option.setting target := by
  have fits := typed option
  cases option with
  | cluster | mcastAddr | bind | logLevel | backpressurePolicy => exact ⟨_, rfl, rfl⟩
  | mcastPort | meshPort | appPort =>
      exact ⟨_, map_eq_ok_iff.mpr ⟨_, stoi_decimal fits, rfl⟩,
        congrArg Setting.unsigned (uint16_of_lt fits)⟩
  | messageBufferSize =>
      have wide : target.messageBufferSize < 2 ^ 64 := Nat.lt_trans fits (by decide)
      exact ⟨_, map_eq_ok_iff.mpr ⟨_, stoull_decimal wide, rfl⟩,
        congrArg Setting.unsigned (Nat.mod_eq_of_lt fits)⟩
  | maxBufferMemory | subscriberQueueLimit =>
      exact ⟨_, map_eq_ok_iff.mpr ⟨_, stoull_decimal fits, rfl⟩, rfl⟩
  | pausedSubscriptionTtl | blockTimeoutMs | defaultMessageTtl | ttlReaperInterval =>
      exact ⟨_, map_eq_ok_iff.mpr ⟨_, toSigned_signedDecimal fits, rfl⟩, rfl⟩

end DaemonOption

-----------------------------------------------------------------------------------------
-- Command lines
-----------------------------------------------------------------------------------------

/-- The settings of the configuration, under these options. -/
def Config.commandLine (config : Config) (options : List DaemonOption) : List ByteString :=
  options.flatMap (fun option => [option.name, (option.setting config).spell])

/-- The options that stand on the line are set as in `target`, the others stay. -/
theorem parseArgs_commandLine {target : Config} (typed : target.Typed)
    (options : List DaemonOption) (config : Config)
    : ∃ next,
        parseArgs config (target.commandLine options) = .ok next
        ∧ next.help = config.help
        ∧ ∀ option : DaemonOption,
            option.setting next
            = if option ∈ options then option.setting target else option.setting config := by
  induction options generalizing config with
  | nil => exact ⟨config, rfl, rfl, fun option => by simp⟩
  | cons first rest ih =>
      obtain ⟨middle, done, own⟩ := DaemonOption.set_spell target typed first config
      obtain ⟨next, parsed, help, settings⟩ := ih middle
      have opened
        : target.commandLine (first :: rest)
          = first.name :: (first.setting target).spell :: target.commandLine rest := rfl
      refine ⟨next, ?_, help.trans (DaemonOption.help_set done), ?_⟩
      · rw [opened, parseArgs_option, done]
        exact parsed
      · intro option
        rw [settings option]
        by_cases later : option ∈ rest
        · rw [if_pos later, if_pos (List.mem_cons_of_mem _ later)]
        · rw [if_neg later]
          by_cases here : option = first
          · subst here
            rw [own, if_pos List.mem_cons_self]
          · rw [DaemonOption.setting_set_ne done here, if_neg]
            simp [here, later]

/-- The parse of a line that is no call for help goes on with the next. -/
theorem parseArgs_append {config before : Config} {earlier : List (ByteString × ByteString)}
    (parsed : parseArgs config (spelled earlier) = .ok before) (started : before.help = false)
    (rest : List ByteString)
    : parseArgs config (spelled earlier ++ rest) = parseArgs before rest := by
  induction earlier generalizing config with
  | nil =>
      cases parsed
      rfl
  | cons entry earlier ih =>
      have opened (more : List ByteString)
          : spelled (entry :: earlier) ++ more
            = entry.1 :: entry.2 :: (spelled earlier ++ more) := rfl
      have alone : spelled (entry :: earlier) = entry.1 :: entry.2 :: spelled earlier := rfl
      rw [alone, parseArgs] at parsed
      rw [opened, parseArgs]
      split at parsed
      · cases parsed
        cases started
      · rename_i noHelp
        rw [if_neg noHelp]
        split at parsed
        · cases parsed
          cases started
        · split at parsed
          · cases parsed
          · exact ih parsed

/-- Every configuration is the outcome of a command line: all its settings written out, in any
order and any number of times, behind whatever else was set before.
-/
theorem start_commandLine {config : Config} (typed : config.Typed)
    (runs : config.help = false) {options : List DaemonOption}
    (complete : ∀ option, option ∈ options)
    {earlier : List (ByteString × ByteString)} {before : Config}
    (parsed : parseArgs {} (spelled earlier) = .ok before) (started : before.help = false)
    (registry : PeerRegistry)
    : start registry (spelled earlier ++ config.commandLine options)
      = .runs config (sidecarService config registry) := by
  obtain ⟨next, done, help, settings⟩ := parseArgs_commandLine typed options before
  have same : next = config := by
    refine Config.ext_setting ?_ ?_
    · rw [help, started, runs]
    · intro option
      rw [settings option, if_pos (complete option)]
  subst same
  have whole : parseArgs {} (spelled earlier ++ next.commandLine options) = .ok next :=
    (parseArgs_append parsed started _).trans done
  rw [start, whole]
  simp [runs]

/-- A daemon that blocks its publishers, given after another port. -/
def blocking : Config where
  clusterId := ascii "lab"
  appPort := 9000
  backpressurePolicy := ascii "block"
  blockTimeoutMs := -1
  pausedSubscriptionTtlMs := 60000

theorem start_blocking
    : ∃ service,
        start { localNodeId := [1] }
            (spelled [(ascii "--app-port", ascii "80")]
              ++ blocking.commandLine DaemonOption.all.reverse)
          = .runs blocking service := by
  have typed : blocking.Typed := by
    intro option
    cases option <;> decide
  have complete : ∀ option, option ∈ DaemonOption.all.reverse := by
    intro option
    cases option <;> decide
  have begun
    : ∃ before,
        parseArgs {} (spelled [(ascii "--app-port", ascii "80")]) = .ok before
        ∧ before.help = false :=
    ⟨_, rfl, rfl⟩
  obtain ⟨before, parsed, started⟩ := begun
  exact ⟨_, start_commandLine typed rfl complete parsed started _⟩

end NexusD.Daemon
