import NexusD.Tools.CommandParser

/-! What PUBLISH as a single command sends.
The topic and the message come as two arguments of the program. They are joined to a line, and
the line is cut into tokens again, so quotes are lost, white space is evened out, and words can
be taken for flags.
-/

namespace NexusD.Tools

open NexusD.Core

theorem parseArguments_publish (config : CliConfig) (topic message : ByteString)
    : parseArguments config [ascii "PUBLISH", topic, message]
      = .ok (.command config (ascii "PUBLISH" ++ 32 :: (topic ++ 32 :: message))) := by
  have options
    : (∀ option ∈ ["-h", "--host", "-p", "--port", "-n", "--json", "--no-connect", "--timeout",
        "--help", "--version"], ascii "PUBLISH" ≠ ascii option)
      ∧ (ascii "PUBLISH").head? ≠ some 45 := by
    decide
  have blank : ascii " " = [32] := rfl
  simp only [List.mem_cons, List.not_mem_nil, or_false, forall_eq_or_imp, forall_eq] at options
  simp [parseArguments, options, fullCommand, blank]

/-- Trimming stops at a byte that is not blank. -/
theorem rdropWhile_append {text : ByteString} (solid : text.rdropWhile isBlank = text)
    (rest : ByteString)
    : (text ++ rest).rdropWhile isBlank = text ++ rest.rdropWhile isBlank := by
  have backwards : text.reverse.dropWhile isBlank = text.reverse :=
    List.reverse_eq_iff.mp solid
  unfold List.rdropWhile
  rw [List.reverse_append, List.dropWhile_append, backwards]
  split
  · rename_i nothing
    simp [List.isEmpty_iff.mp nothing]
  · simp

theorem rdropWhile_blank (rest : ByteString)
    : (32 :: rest).rdropWhile isBlank
      = if rest.rdropWhile isBlank = [] then [] else 32 :: rest.rdropWhile isBlank := by
  unfold List.rdropWhile
  rw [List.reverse_cons, List.dropWhile_append]
  by_cases nothing : rest.reverse.dropWhile isBlank = []
  · simp [nothing, isBlank]
  · simp [nothing]

theorem publish_plain : Plain (ascii "PUBLISH") where
  nonempty := by decide
  content := by
    have letters : (ascii "PUBLISH").all (fun byte => role none byte = .content) = true := rfl
    intro byte member
    exact of_decide_eq_true (List.all_eq_true.mp letters byte member)

theorem tokenize_trim_publish (rest : ByteString)
    : tokenize (trim (ascii "PUBLISH" ++ 32 :: rest))
      = ascii "PUBLISH" :: tokenize (rest.rdropWhile isBlank) := by
  have front (text : ByteString)
    : (ascii "PUBLISH" ++ text).dropWhile isBlank = ascii "PUBLISH" ++ text := rfl
  rw [trim, front, rdropWhile_append (by decide), rdropWhile_blank]
  split
  · rename_i nothing
    rw [nothing, List.append_nil, publish_plain.tokenize_eq]
    rfl
  · exact publish_plain.tokenize_cons _

theorem find?_publish
    : commands.find? (fun info => info.name = ascii "PUBLISH")
      = some { name := ascii "PUBLISH", handler := .publish } := by
  decide

theorem parse_publish (rest : ByteString)
    : parse (ascii "PUBLISH" ++ 32 :: rest)
      = {
          command := ascii "PUBLISH"
          args := tokenize (rest.rdropWhile isBlank)
        } := by
  have upper : toUpper (ascii "PUBLISH") = ascii "PUBLISH" := rfl
  have command : resolveAlias (toUpper (ascii "PUBLISH")) = ascii "PUBLISH" := by decide
  have info
    : getCommandInfo (ascii "PUBLISH")
      = some { name := ascii "PUBLISH", handler := .publish } := by
    rw [getCommandInfo, upper, find?_publish]
  rw [parse, tokenize_trim_publish]
  simp only [command, info]
  cases tokenize (rest.rdropWhile isBlank) with
  | nil => rfl
  | cons first others => simp [splitSubcommand]

/-- The call the arguments lead to. -/
def callOf (args : List ByteString) : Option PublishCall :=
  (publishCmd true { command := ascii "PUBLISH", args }).toOption

theorem publishedBy_eq {config : CliConfig} (connects : config.autoConnect = true)
    (topic message : ByteString)
    : publishedBy config true [ascii "PUBLISH", topic, message]
      = callOf (tokenize ((topic ++ 32 :: message).rdropWhile isBlank)) := by
  have named : ascii "PUBLISH" ≠ [] := by decide
  simp only [publishedBy, parseArguments_publish, runCommand, connects, Bool.and_self, execute,
    parse_publish, named, if_false, find?_publish, callOf]
  cases publishCmd true
    { command := ascii "PUBLISH",
      args := tokenize ((topic ++ 32 :: message).rdropWhile isBlank) } with
  | error text => rfl
  | ok call => rfl

/-- `arg[0] != '-'` -/
def undashed (arg : ByteString) : Bool := arg.head? ≠ some 45

variable {message topic : ByteString} {words args : List ByteString}

theorem buildMessage_append (started : message ≠ []) (nonempty : ∀ word ∈ words, word ≠ [])
    : buildMessage message words
      = message ++ (words.takeWhile undashed).flatMap ([32] ++ ·) := by
  induction words generalizing message with
  | nil => simp [buildMessage]
  | cons word rest ih =>
      obtain ⟨_, others⟩ := List.forall_mem_cons.mp nonempty
      by_cases dash : word.head? = some 45
      · simp [buildMessage, undashed, dash]
      · have longer : message ++ [32] ++ word ≠ [] := by simp
        have later := ih longer others
        simp [buildMessage, undashed, dash, started] at later ⊢
        exact later

/-- The message is the words up to the first dash, with single blanks between them. -/
theorem buildMessage_eq (nonempty : ∀ word ∈ words, word ≠ [])
    : buildMessage [] words = join [32] (words.takeWhile undashed) := by
  cases words with
  | nil => rfl
  | cons word rest =>
      obtain ⟨first, others⟩ := List.forall_mem_cons.mp nonempty
      by_cases dash : word.head? = some 45
      · simp [buildMessage, undashed, dash, join]
      · have later := buildMessage_append first others
        rw [buildMessage, if_neg dash, if_pos rfl, List.nil_append, later,
          List.takeWhile_cons_of_pos (by simp [undashed, dash]), join_cons]

theorem toupper_eq_dash {byte : UInt8} (dash : toupper byte = 45) : byte = 45 := by
  unfold toupper at dash
  split at dash
  · rename_i lower
    simp only [Bool.and_eq_true, decide_eq_true_eq] at lower
    have letter : 97 ≤ byte.toNat := UInt8.le_iff_toNat_le.mp lower.1
    have above : (32 : UInt8) ≤ byte := UInt8.le_trans (by decide) lower.1
    -- a small letter lies more than 32 above the dash
    have read : byte.toNat - 32 = 45 := by
      rw [← show (byte - 32).toNat = byte.toNat - 32 from UInt8.toNat_sub_of_le _ _ above, dash]
      rfl
    omega
  · exact dash

/-- Without a dash of its own, an argument is a flag only if it spells it. -/
theorem isFlag_of_undashed {arg : ByteString} (plain : arg.head? ≠ some 45)
    (flag : ByteString)
    : isFlag flag arg = decide (toUpper arg = toUpper flag) := by
  have never (text : ByteString) : toUpper arg ≠ 45 :: text := by
    intro same
    cases arg with
    | nil => cases same
    | cons first rest =>
        have dash : toupper first = 45 := (List.cons.inj same).1
        exact plain (by rw [toupper_eq_dash dash]; rfl)
  have single : toUpper arg ≠ ascii "-" ++ toUpper flag := never _
  have double : toUpper arg ≠ ascii "--" ++ toUpper flag := never _
  simp [isFlag, single, double]

theorem any_isFlag_eq_false_iff (plain : ∀ arg ∈ args, arg.head? ≠ some 45) (flag : ByteString)
    : args.any (isFlag flag) = false ↔ ∀ arg ∈ args, toUpper arg ≠ toUpper flag := by
  rw [List.any_eq_false]
  apply forall₂_congr
  intro arg member
  rw [isFlag_of_undashed (plain arg member), decide_eq_true_eq]

theorem optionValue_of_undashed (plain : ∀ arg ∈ args, arg.head? ≠ some 45)
    (name defaultVal : ByteString)
    : optionValue name defaultVal args = defaultVal := by
  induction args with
  | nil => rfl
  | cons arg rest ih =>
      cases rest with
      | nil => rfl
      | cons value others =>
          obtain ⟨here, later⟩ := List.forall_mem_cons.mp plain
          have never : ¬ (arg = ascii "-" ++ name ∨ arg = ascii "--" ++ name) := by
            intro option
            rcases option with single | double
            · exact here (by rw [single]; rfl)
            · exact here (by rw [double]; rfl)
          rw [optionValue, if_neg never]
          exact ih later

-----------------------------------------------------------------------------------------
-- What is sent as it was given
-----------------------------------------------------------------------------------------

/-- A word that is neither cut nor taken for a flag. -/
structure Unmarked (word : ByteString) : Prop where
  plain : Plain word
  undashed : word.head? ≠ some 45
  not_retain : toUpper word ≠ ascii "RETAIN"
  not_r : toUpper word ≠ ascii "R"

theorem join_cons_ne_nil (some_word : words ≠ []) (first : ByteString)
    : join [32] (first :: words) = first ++ 32 :: join [32] words := by
  cases words with
  | nil => exact absurd rfl some_word
  | cons word rest => simp [join_cons]

theorem Plain.rdropWhile_eq {word : ByteString} (plain : Plain word)
    : word.rdropWhile isBlank = word := by
  rw [List.rdropWhile_eq_self_iff]
  intro nonempty blank
  have content := plain.content _ (List.getLast_mem nonempty)
  have space : isspace (word.getLast nonempty) = true := by
    simp only [isBlank, Bool.or_eq_true, decide_eq_true_eq] at blank
    rcases blank with ((same | same) | same) | same <;> rw [same] <;> decide
  rw [role_none_eq_content_iff, space] at content
  cases content.2

theorem rdropWhile_join (plain : ∀ word ∈ words, Plain word)
    : (join [32] words).rdropWhile isBlank = join [32] words := by
  induction words with
  | nil => rfl
  | cons word rest ih =>
      obtain ⟨first, others⟩ := List.forall_mem_cons.mp plain
      have later := ih others
      by_cases last : rest = []
      · rw [last]
        exact first.rdropWhile_eq
      · have nonempty : join [32] rest ≠ [] := by
          cases rest with
          | nil => exact absurd rfl last
          | cons next _ =>
              have next_plain := others next List.mem_cons_self
              simp [join_cons, next_plain.nonempty]
        rw [join_cons_ne_nil last, rdropWhile_append first.rdropWhile_eq, rdropWhile_blank,
          later, if_neg nonempty]

theorem callOf_cons (some_word : words ≠ [])
    : callOf (topic :: words)
      = some {
          topic
          payload := buildMessage [] words
          contentType :=
            optionValue (ascii "type")
              (optionValue (ascii "t") (ascii "text/plain") (topic :: words))
              (topic :: words)
          retain :=
            (topic :: words).any (isFlag (ascii "retain"))
              || (topic :: words).any (isFlag (ascii "r"))
        } := by
  cases words with
  | nil => exact absurd rfl some_word
  | cons word rest => rfl

theorem exists_of_callOf {call : PublishCall} (made : callOf args = some call)
    : ∃ topic words, words ≠ [] ∧ args = topic :: words := by
  cases args with
  | nil => cases made
  | cons topic words =>
      cases words with
      | nil => cases made
      | cons word rest => exact ⟨topic, word :: rest, List.cons_ne_nil _ _, rfl⟩

theorem length_join_eq (some_word : words ≠ [])
    : (join [32] words).length + 1 = wordsLength words := by
  cases words with
  | nil => exact absurd rfl some_word
  | cons word rest => exact length_join word rest

/-- A message that comes back whole leaves no room for a byte that was dropped. -/
theorem whole_of_message {input : ByteString} (some_word : words ≠ [])
    (tokens : tokenize input = topic :: words) (cut : input <+: topic ++ 32 :: message)
    (built : join [32] (words.takeWhile undashed) = message)
    : (∀ byte ∈ input, isQuote byte = false) ∧ words.takeWhile undashed = words := by
  have given : input.length ≤ topic.length + (message.length + 1) := by
    have shorter := cut.length_le
    rwa [List.length_append, List.length_cons] at shorter
  have read := wordsLength_tokenize_le input
  rw [tokens, wordsLength] at read
  have parts : wordsLength words
      = wordsLength (words.takeWhile undashed) + wordsLength (words.dropWhile undashed) := by
    rw [← wordsLength_append, List.takeWhile_append_dropWhile]
  by_cases first_dashed : words.takeWhile undashed = []
  · rw [first_dashed] at built
    cases words with
    | nil => exact absurd rfl some_word
    | cons word rest =>
        have nonempty : word ≠ [] := by
          apply tokenize_nonempty input
          rw [tokens]
          exact List.mem_cons_of_mem _ List.mem_cons_self
        have counted := List.length_pos_of_ne_nil nonempty
        have nothing : message.length = 0 := by rw [← built]; rfl
        rw [wordsLength] at read
        omega
  · have counted := length_join_eq first_dashed
    rw [built] at counted
    have rest_empty : words.dropWhile undashed = [] := by
      cases rest : words.dropWhile undashed with
      | nil => rfl
      | cons dashed others =>
          rw [rest, wordsLength] at parts
          omega
    constructor
    · intro byte member
      by_contra quoting
      have lost := wordsLength_tokenize_lt ⟨byte, member, Bool.of_not_eq_false quoting⟩
      rw [tokens, wordsLength] at lost
      omega
    · exact List.takeWhile_eq_self_iff.mpr (List.dropWhile_eq_nil_iff.mp rest_empty)

/-- Unmarked words between single blanks are sent as they stand. -/
theorem callOf_unmarked (some_word : words ≠ [])
    (unmarked : ∀ word ∈ topic :: words, Unmarked word)
    : callOf (topic :: words)
      = some {
          topic
          payload := join [32] words
          contentType := ascii "text/plain"
          retain := false
        } := by
  obtain ⟨_, others⟩ := List.forall_mem_cons.mp unmarked
  have undashed_words : ∀ word ∈ topic :: words, word.head? ≠ some 45 :=
    fun word member => (unmarked word member).undashed
  have whole : words.takeWhile undashed = words := by
    rw [List.takeWhile_eq_self_iff]
    intro word member
    exact decide_eq_true (others word member).undashed
  have nonempty : ∀ word ∈ words, word ≠ [] :=
    fun word member => (others word member).plain.nonempty
  have not_retain := (any_isFlag_eq_false_iff undashed_words (ascii "retain")).mpr
    (fun word member => (unmarked word member).not_retain)
  have not_r := (any_isFlag_eq_false_iff undashed_words (ascii "r")).mpr
    (fun word member => (unmarked word member).not_r)
  rw [callOf_cons some_word, buildMessage_eq nonempty, whole,
    optionValue_of_undashed undashed_words, optionValue_of_undashed undashed_words,
    not_retain, not_r]
  rfl

/-- If the message is sent whole and not retained, its words are unmarked. -/
theorem unmarked_of_callOf {input : ByteString} {call : PublishCall}
    (undashed_topic : topic.head? ≠ some 45) (cut : input <+: topic ++ 32 :: message)
    (made : callOf (tokenize input) = some call) (same_topic : call.topic = topic)
    (sent : call.payload = message) (not_retained : call.retain = false)
    : ∃ words, words ≠ [] ∧ message = join [32] words
      ∧ ∀ word ∈ topic :: words, Unmarked word := by
  obtain ⟨first, words, some_word, tokens⟩ := exists_of_callOf made
  rw [tokens, callOf_cons some_word] at made
  cases made
  dsimp only at same_topic sent not_retained
  subst same_topic
  have nonempty : ∀ word ∈ words, word ≠ [] := by
    intro word member
    apply tokenize_nonempty input
    rw [tokens]
    exact List.mem_cons_of_mem _ member
  rw [buildMessage_eq nonempty] at sent
  obtain ⟨unquoted, no_dash⟩ := whole_of_message some_word tokens cut sent
  have plain := tokenize_plain unquoted
  rw [tokens] at plain
  rw [no_dash] at sent
  have undashed_words : ∀ word ∈ first :: words, word.head? ≠ some 45 := by
    intro word member
    rcases List.mem_cons.mp member with same | within
    · rwa [same]
    · exact of_decide_eq_true (List.takeWhile_eq_self_iff.mp no_dash word within)
  rw [Bool.or_eq_false_iff, any_isFlag_eq_false_iff undashed_words,
    any_isFlag_eq_false_iff undashed_words] at not_retained
  refine ⟨words, some_word, sent.symm, ?_⟩
  intro word member
  exact ⟨plain word member, undashed_words word member, not_retained.1 word member,
    not_retained.2 word member⟩

/-- PUBLISH sends what the shell passed exactly when the topic is a plain word and the message
plain words with single blanks between them, none with a dash in front and none of them, the
topic included, spelling the retain flag.
-/
theorem publishes_verbatim_iff {config : CliConfig} (connects : config.autoConnect = true)
    {topic : ByteString} (undashed_topic : topic.head? ≠ some 45) (message : ByteString)
    : publishedBy config true [ascii "PUBLISH", topic, message]
        = some {
            topic
            payload := message
            contentType := ascii "text/plain"
            retain := false
          }
      ↔ ∃ words, words ≠ [] ∧ message = join [32] words
        ∧ ∀ word ∈ topic :: words, Unmarked word := by
  rw [publishedBy_eq connects]
  constructor
  · intro made
    have cut := List.rdropWhile_prefix isBlank (topic ++ 32 :: message)
    exact unmarked_of_callOf undashed_topic cut made rfl rfl rfl
  · intro verbatim
    obtain ⟨words, some_word, rfl, unmarked⟩ := verbatim
    have plain : ∀ word ∈ topic :: words, Plain word :=
      fun word member => (unmarked word member).plain
    rw [← join_cons_ne_nil some_word, rdropWhile_join plain, tokenize_join_plain plain,
      callOf_unmarked some_word unmarked]

/-- `nexusd-cli PUBLISH sensors/temp hello` -/
theorem publishes_verbatim_hello
    : ({} : CliConfig).autoConnect = true
      ∧ (ascii "sensors/temp").head? ≠ some 45
      ∧ (publishedBy {} true [ascii "PUBLISH", ascii "sensors/temp", ascii "hello"]
          = some {
              topic := ascii "sensors/temp"
              payload := ascii "hello"
              contentType := ascii "text/plain"
              retain := false
            }
        ↔ ∃ words, words ≠ [] ∧ ascii "hello" = join [32] words
          ∧ ∀ word ∈ ascii "sensors/temp" :: words, Unmarked word) :=
  ⟨rfl, by decide, publishes_verbatim_iff rfl (by decide) (ascii "hello")⟩

/-- The quotes of a JSON text are lost, and a topic called `r` asks for the message to be
retained.
-/
theorem publishes_changed
    : publishedBy {} true
          [ascii "PUBLISH", ascii "sensors/temp", ascii "\x7b\"value\": 23.5\x7d"]
        = some {
            topic := ascii "sensors/temp"
            payload := ascii "\x7bvalue: 23.5\x7d"
            contentType := ascii "text/plain"
            retain := false
          }
      ∧ publishedBy {} true [ascii "PUBLISH", ascii "r", ascii "hello"]
        = some {
            topic := ascii "r"
            payload := ascii "hello"
            contentType := ascii "text/plain"
            retain := true
          } := by
  decide

end NexusD.Tools
