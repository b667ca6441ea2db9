import NexusD.Core.TextConversion

/-! How the command line tool cuts a line into tokens.
Quotes of either kind protect white space and the other kind; they are dropped themselves.
-/

namespace NexusD.Tools

open NexusD.Core

/-- A double or a single quote. -/
def isQuote (byte : UInt8) : Bool := byte = 34 || byte = 39

/-- The locals of `tokenize`; `quote` is `quote_char` while `in_quotes`. -/
structure Scanner where
  tokens : List ByteString := []
  current : ByteString := []
  quote : Option UInt8 := none
deriving DecidableEq, Repr

/-- One round of the loop. -/
def scanByte (scanner : Scanner) (byte : UInt8) : Scanner :=
  if scanner.quote = none ∧ isQuote byte then
    { scanner with quote := some byte }
  else if scanner.quote = some byte then
    { scanner with quote := none }
  else if scanner.quote = none ∧ isspace byte then
    if scanner.current = [] then scanner
    else { scanner with tokens := scanner.tokens ++ [scanner.current], current := [] }
  else
    { scanner with current := scanner.current ++ [byte] }

def scan (scanner : Scanner) (input : ByteString) : Scanner :=
  input.foldl scanByte scanner

/-- The tokens once the input is at its end. -/
def Scanner.finish (scanner : Scanner) : List ByteString :=
  if scanner.current = [] then scanner.tokens else scanner.tokens ++ [scanner.current]

def tokenize (input : ByteString) : List ByteString :=
  (scan {} input).finish

/-- `join(parts, delimiter)` -/
def join (delimiter : ByteString) : List ByteString → ByteString
  | [] => []
  | first :: rest => rest.foldl (fun result part => result ++ (delimiter ++ part)) first

theorem join_cons (delimiter first : ByteString) (rest : List ByteString)
    : join delimiter (first :: rest) = first ++ rest.flatMap (delimiter ++ ·) := by
  rw [join]
  induction rest generalizing first with
  | nil => simp
  | cons part rest ih => simp [ih]

/-- What a byte is to the tokenizer. -/
inductive Role where
  | delimiter
  | separator
  | content
deriving DecidableEq, Repr

/-- The role of a byte inside `quote`. -/
def role (quote : Option UInt8) (byte : UInt8) : Role :=
  match quote with
  | none =>
      if isQuote byte then .delimiter else if isspace byte then .separator else .content
  | some opened => if byte = opened then .delimiter else .content

theorem role_none_eq_content_iff (byte : UInt8)
    : role none byte = .content ↔ isQuote byte = false ∧ isspace byte = false := by
  by_cases quoting : isQuote byte = true
  · simp [role, quoting]
  · by_cases space : isspace byte = true
    · simp [role, quoting, space]
    · simp [role, quoting, space]

/-- The quote the byte after it stands in. -/
def quoteAfter (quote : Option UInt8) (byte : UInt8) : Option UInt8 :=
  match quote with
  | none => if isQuote byte then some byte else none
  | some opened => if byte = opened then none else some opened

/-- The bytes that are neither quote delimiters nor unquoted white space. -/
def kept (quote : Option UInt8) : ByteString → ByteString
  | [] => []
  | byte :: rest =>
      if role quote byte = .content then byte :: kept (quoteAfter quote byte) rest
      else kept (quoteAfter quote byte) rest

theorem scanByte_eq (scanner : Scanner) (byte : UInt8)
    : scanByte scanner byte
      = match role scanner.quote byte with
        | .delimiter => { scanner with quote := quoteAfter scanner.quote byte }
        | .separator => { scanner with tokens := scanner.finish, current := [] }
        | .content => { scanner with current := scanner.current ++ [byte] } := by
  cases scanner with
  | mk tokens current quote =>
      cases quote with
      | none =>
          by_cases quoting : isQuote byte
          · simp [scanByte, role, quoteAfter, quoting]
          · by_cases space : isspace byte
            · by_cases empty : current = []
              · simp [scanByte, role, quoting, space, empty, Scanner.finish]
              · simp [scanByte, role, quoting, space, empty, Scanner.finish]
            · simp [scanByte, role, quoting, space]
      | some opened =>
          by_cases closing : byte = opened
          · simp [scanByte, role, quoteAfter, closing]
          · have other : opened ≠ byte := fun same => closing same.symm
            simp [scanByte, role, closing, other]

theorem scanByte_quote (scanner : Scanner) (byte : UInt8)
    : (scanByte scanner byte).quote = quoteAfter scanner.quote byte := by
  rw [scanByte_eq]
  cases quote : scanner.quote with
  | none =>
      by_cases quoting : isQuote byte
      · simp [role, quoting]
      · by_cases space : isspace byte
        · simp [role, quoteAfter, quoting, space]
        · simp [role, quoteAfter, quoting, space]
  | some opened =>
      by_cases closing : byte = opened
      · simp [role, closing]
      · simp [role, quoteAfter, closing]

theorem Scanner.finish_flatten (scanner : Scanner)
    : scanner.finish.flatten = scanner.tokens.flatten ++ scanner.current := by
  unfold finish
  split
  · rename_i empty
    simp [empty]
  · simp

theorem scan_flatten (scanner : Scanner) (input : ByteString)
    : (scan scanner input).finish.flatten
      = scanner.finish.flatten ++ kept scanner.quote input := by
  induction input generalizing scanner with
  | nil => simp [scan, kept]
  | cons byte rest ih =>
      rw [scan, List.foldl_cons, ← scan, ih, scanByte_quote, kept, scanByte_eq]
      cases role scanner.quote byte with
      | delimiter => simp [Scanner.finish_flatten]
      | separator => simp [Scanner.finish_flatten]
      | content => simp [Scanner.finish_flatten]

theorem tokenize_flatten (input : ByteString) : (tokenize input).flatten = kept none input :=
  scan_flatten {} input

-----------------------------------------------------------------------------------------
-- Reading back
-----------------------------------------------------------------------------------------

theorem scan_append (scanner : Scanner) (first second : ByteString)
    : scan scanner (first ++ second) = scan (scan scanner first) second :=
  List.foldl_append

/-- The scanner behind tokens it has already found. -/
def Scanner.after (scanner : Scanner) (earlier : List ByteString) : Scanner :=
  { scanner with tokens := earlier ++ scanner.tokens }

theorem Scanner.finish_after (scanner : Scanner) (earlier : List ByteString)
    : (scanner.after earlier).finish = earlier ++ scanner.finish := by
  unfold finish after
  split <;> simp

theorem scan_after (scanner : Scanner) (earlier : List ByteString) (input : ByteString)
    : scan (scanner.after earlier) input = (scan scanner input).after earlier := by
  induction input generalizing scanner with
  | nil => rfl
  | cons byte rest ih =>
      have here
        : scanByte (scanner.after earlier) byte = (scanByte scanner byte).after earlier := by
        rw [scanByte_eq, scanByte_eq, Scanner.finish_after]
        rw [show (scanner.after earlier).quote = scanner.quote from rfl]
        cases role scanner.quote byte <;> rfl
      rw [scan, List.foldl_cons, here]
      exact ih (scanByte scanner byte)

/-- Bytes without a special meaning go into the current token. -/
theorem scan_content {quote : Option UInt8} {text : ByteString}
    (plain : ∀ byte ∈ text, role quote byte = .content) (tokens : List ByteString)
    (current : ByteString)
    : scan ⟨tokens, current, quote⟩ text = ⟨tokens, current ++ text, quote⟩ := by
  induction text generalizing current with
  | nil => simp [scan]
  | cons byte rest ih =>
      obtain ⟨here, later⟩ := List.forall_mem_cons.mp plain
      rw [scan, List.foldl_cons, ← scan, scanByte_eq, here, ih later]
      simp

/-- Between two tokens, `text` stands for `word`. -/
def Reads (text word : ByteString) : Prop :=
  ∀ tokens, scan ⟨tokens, [], none⟩ text = ⟨tokens, word, none⟩

theorem scan_blank (tokens : List ByteString) (current : ByteString)
    : scanByte ⟨tokens, current, none⟩ 32
      = ⟨(⟨tokens, current, none⟩ : Scanner).finish, [], none⟩ := by
  rw [scanByte_eq]
  rfl

theorem finish_filter (tokens : List ByteString) (current : ByteString)
    (quote : Option UInt8)
    : (⟨tokens, current, quote⟩ : Scanner).finish
      = tokens ++ [current].filter (fun word => word ≠ []) := by
  unfold Scanner.finish
  by_cases empty : current = []
  · simp [empty]
  · simp [empty]

/-- Texts between blanks are read one by one, and empty ones leave no trace. -/
theorem scan_words {spell : ByteString → ByteString} {words : List ByteString}
    (reads : ∀ word ∈ words, Reads (spell word) word) (tokens : List ByteString)
    (current : ByteString)
    : (scan ⟨tokens, current, none⟩ ((words.map spell).flatMap ([32] ++ ·))).finish
      = tokens ++ (current :: words).filter (fun word => word ≠ []) := by
  induction words generalizing tokens current with
  | nil => exact finish_filter tokens current none
  | cons word rest ih =>
      obtain ⟨here, later⟩ := List.forall_mem_cons.mp reads
      have blank : scan ⟨tokens, current, none⟩ [32]
          = ⟨tokens ++ [current].filter (fun word => word ≠ []), [], none⟩ := by
        rw [← finish_filter tokens current none]
        exact scan_blank tokens current
      rw [List.map_cons, List.flatMap_cons, List.append_assoc, scan_append, scan_append,
        blank, here, ih later, List.append_assoc, ← List.filter_append]
      rfl

/-- Words that are spelled so that each is read back, between single blanks. -/
theorem tokenize_join {spell : ByteString → ByteString} {words : List ByteString}
    (reads : ∀ word ∈ words, Reads (spell word) word)
    : tokenize (join [32] (words.map spell)) = words.filter (fun word => word ≠ []) := by
  cases words with
  | nil => rfl
  | cons word rest =>
      obtain ⟨here, later⟩ := List.forall_mem_cons.mp reads
      rw [List.map_cons, join_cons, tokenize, scan_append, here, scan_words later]
      rfl

-----------------------------------------------------------------------------------------
-- Quoting
-----------------------------------------------------------------------------------------

/-- A string in double quotes. -/
def quoted (text : ByteString) : ByteString := 34 :: (text ++ [34])

theorem reads_quoted {text : ByteString} (unquoted : 34 ∉ text)
    : Reads (quoted text) text := by
  intro tokens
  have body : ∀ byte ∈ text, role (some 34) byte = .content := by
    intro byte member
    have other : byte ≠ 34 := fun same => unquoted (same ▸ member)
    simp [role, other]
  have opening : scanByte ⟨tokens, [], none⟩ 34 = ⟨tokens, [], some 34⟩ := rfl
  have closing : scanByte ⟨tokens, text, some 34⟩ 34 = ⟨tokens, text, none⟩ := by
    simp [scanByte]
  rw [quoted, scan, List.foldl_cons, ← scan, opening, scan_append,
    scan_content body tokens [], List.nil_append]
  exact closing

theorem tokenize_quoted {strings : List ByteString} (unquoted : ∀ text ∈ strings, 34 ∉ text)
    : tokenize (join [32] (strings.map quoted))
      = strings.filter (fun word => word ≠ []) :=
  tokenize_join (fun text member => reads_quoted (unquoted text member))

/-- Quoting keeps every string but the empty one; and no byte of any input is lost, doubled
or moved, but for quote delimiters and unquoted white space.
-/
theorem tokenize_quoted_iff {strings : List ByteString}
    (unquoted : ∀ text ∈ strings, 34 ∉ text)
    : (tokenize (join [32] (strings.map quoted)) = strings ↔ ∀ text ∈ strings, text ≠ [])
      ∧ ∀ input, (tokenize input).flatten = kept none input := by
  constructor
  · rw [tokenize_quoted unquoted, List.filter_eq_self]
    simp only [decide_eq_true_eq]
  · exact tokenize_flatten

theorem tokenize_quoted_command
    : (∀ text ∈ [ascii "SET", ascii "it's a test"], (34 : UInt8) ∉ text)
      ∧ ((tokenize (join [32] ([ascii "SET", ascii "it's a test"].map quoted))
            = [ascii "SET", ascii "it's a test"]
          ↔ ∀ text ∈ [ascii "SET", ascii "it's a test"], text ≠ [])
        ∧ ∀ input, (tokenize input).flatten = kept none input) :=
  ⟨by decide, tokenize_quoted_iff (by decide)⟩

/-- `"key" "" "value"` loses its second argument. -/
theorem tokenize_drops_empty
    : tokenize (join [32] ([ascii "key", [], ascii "value"].map quoted))
        = [ascii "key", ascii "value"]
      ∧ tokenize (join [32] ([ascii "key", [], ascii "value"].map quoted))
        ≠ [ascii "key", [], ascii "value"] := by
  decide

/-- The bytes of the words, each with a blank in front. -/
def wordsLength : List ByteString → Nat
  | [] => 0
  | word :: rest => 1 + word.length + wordsLength rest

theorem wordsLength_append (first second : List ByteString)
    : wordsLength (first ++ second) = wordsLength first + wordsLength second := by
  induction first with
  | nil => simp [wordsLength]
  | cons word rest ih =>
      simp only [List.cons_append, wordsLength, ih]
      omega

theorem length_join (word : ByteString) (rest : List ByteString)
    : (join [32] (word :: rest)).length + 1 = wordsLength (word :: rest) := by
  have blanks : (rest.flatMap ([32] ++ ·)).length = wordsLength rest := by
    induction rest with
    | nil => rfl
    | cons word rest ih =>
        rw [List.flatMap_cons, List.length_append, ih, wordsLength, List.length_append]
        rfl
  rw [join_cons, List.length_append, blanks, wordsLength]
  omega

def Scanner.size (scanner : Scanner) : Nat :=
  wordsLength scanner.tokens + scanner.current.length

theorem Scanner.wordsLength_finish_le (scanner : Scanner)
    : wordsLength scanner.finish ≤ scanner.size + 1 := by
  unfold finish size
  split
  · omega
  · rw [wordsLength_append, wordsLength, wordsLength]
    omega

theorem scanByte_size_le (scanner : Scanner) (byte : UInt8)
    : (scanByte scanner byte).size ≤ scanner.size + 1 := by
  rw [scanByte_eq]
  cases role scanner.quote byte with
  | delimiter => simp [Scanner.size]
  | separator => exact scanner.wordsLength_finish_le
  | content => simp [Scanner.size, Nat.add_assoc]

theorem scan_size_le (scanner : Scanner) (input : ByteString)
    : (scan scanner input).size ≤ scanner.size + input.length := by
  induction input generalizing scanner with
  | nil => exact Nat.le_refl _
  | cons byte rest ih =>
      have here := scanByte_size_le scanner byte
      have later := ih (scanByte scanner byte)
      rw [scan, List.foldl_cons, ← scan, List.length_cons]
      omega

/-- The first quote of an input is dropped. -/
theorem scan_size_lt {scanner : Scanner} (outside : scanner.quote = none) {input : ByteString}
    (quotes : ∃ byte ∈ input, isQuote byte = true)
    : (scan scanner input).size < scanner.size + input.length := by
  induction input generalizing scanner with
  | nil =>
      obtain ⟨byte, member, _⟩ := quotes
      cases member
  | cons byte rest ih =>
      rw [scan, List.foldl_cons, ← scan, List.length_cons]
      by_cases quoting : isQuote byte = true
      · have same : (scanByte scanner byte).size = scanner.size := by
          simp [scanByte_eq, outside, role, quoting, Scanner.size]
        have later := scan_size_le (scanByte scanner byte) rest
        omega
      · have still : (scanByte scanner byte).quote = none := by
          simp [scanByte_quote, outside, quoteAfter, quoting]
        have more : ∃ other ∈ rest, isQuote other = true := by
          obtain ⟨other, member, quote⟩ := quotes
          rcases List.mem_cons.mp member with same | later
          · exact absurd (same ▸ quote) quoting
          · exact ⟨other, later, quote⟩
        have here := scanByte_size_le scanner byte
        have later := ih still more
        omega

theorem wordsLength_tokenize_le (input : ByteString)
    : wordsLength (tokenize input) ≤ input.length + 1 := by
  have start : ({} : Scanner).size = 0 := rfl
  have scanned := scan_size_le {} input
  have finished := (scan {} input).wordsLength_finish_le
  unfold tokenize
  omega

theorem wordsLength_tokenize_lt {input : ByteString}
    (quotes : ∃ byte ∈ input, isQuote byte = true)
    : wordsLength (tokenize input) ≤ input.length := by
  have start : ({} : Scanner).size = 0 := rfl
  have outside : ({} : Scanner).quote = none := rfl
  have scanned := scan_size_lt outside quotes
  have finished := (scan {} input).wordsLength_finish_le
  unfold tokenize
  omega

/-- Not empty, and without quotes and white space. -/
structure Plain (word : ByteString) : Prop where
  nonempty : word ≠ []
  content : ∀ byte ∈ word, role none byte = .content

theorem Plain.reads {word : ByteString} (plain : Plain word) : Reads word word :=
  fun tokens => scan_content plain.content tokens []

/-- Plain words between single blanks are read as they stand. -/
theorem tokenize_join_plain {words : List ByteString} (plain : ∀ word ∈ words, Plain word)
    : tokenize (join [32] words) = words := by
  have reads : ∀ word ∈ words, Reads (id word) word := by
    intro word member
    exact (plain word member).reads
  rw [← List.map_id words, tokenize_join reads, List.map_id, List.filter_eq_self]
  intro word member
  exact decide_eq_true (plain word member).nonempty

/-- A plain word and a blank in front of anything. -/
theorem Plain.tokenize_cons {word : ByteString} (plain : Plain word) (rest : ByteString)
    : tokenize (word ++ 32 :: rest) = word :: tokenize rest := by
  have first : scan {} word = ⟨[], word, none⟩ := plain.reads []
  have blank
    : scanByte ⟨[], word, none⟩ 32 = ({} : Scanner).after [word] := by
    rw [scan_blank, finish_filter]
    simp [plain.nonempty, Scanner.after]
  rw [tokenize, scan_append, first, scan, List.foldl_cons, blank, ← scan, scan_after,
    Scanner.finish_after]
  rfl

theorem Plain.tokenize_eq {word : ByteString} (plain : Plain word)
    : tokenize word = [word] := by
  have single : ∀ other ∈ [word], Plain other := by
    intro other member
    rwa [List.mem_singleton.mp member]
  exact tokenize_join_plain single

theorem finish_nonempty {scanner : Scanner} (nonempty : ∀ token ∈ scanner.tokens, token ≠ [])
    : ∀ token ∈ scanner.finish, token ≠ [] := by
  unfold Scanner.finish
  split
  · exact nonempty
  · rename_i started
    intro token member
    rcases List.mem_append.mp member with earlier | last
    · exact nonempty token earlier
    · rw [List.mem_singleton.mp last]
      exact started

theorem scan_nonempty {scanner : Scanner} (nonempty : ∀ token ∈ scanner.tokens, token ≠ [])
    (input : ByteString)
    : ∀ token ∈ (scan scanner input).tokens, token ≠ [] := by
  induction input generalizing scanner with
  | nil => exact nonempty
  | cons byte rest ih =>
      apply ih
      rw [scanByte_eq]
      cases role scanner.quote byte with
      | delimiter => exact nonempty
      | separator => exact finish_nonempty nonempty
      | content => exact nonempty

theorem tokenize_nonempty (input : ByteString) : ∀ token ∈ tokenize input, token ≠ [] := by
  have start : ∀ token ∈ ({} : Scanner).tokens, token ≠ [] := by
    intro token member
    cases member
  exact finish_nonempty (scan_nonempty start input)

theorem kept_content {input : ByteString} (unquoted : ∀ byte ∈ input, isQuote byte = false)
    : ∀ byte ∈ kept none input, role none byte = .content := by
  induction input with
  | nil =>
      intro byte member
      cases member
  | cons first rest ih =>
      obtain ⟨here, others⟩ := List.forall_mem_cons.mp unquoted
      have later := ih others
      have outside : quoteAfter none first = none := by simp [quoteAfter, here]
      rw [kept, outside]
      split
      · rename_i content
        intro byte member
        rcases List.mem_cons.mp member with same | within
        · rw [same, content]
        · exact later byte within
      · exact later

/-- Without quotes all tokens are plain words. -/
theorem tokenize_plain {input : ByteString} (unquoted : ∀ byte ∈ input, isQuote byte = false)
    : ∀ token ∈ tokenize input, Plain token := by
  intro token member
  refine ⟨tokenize_nonempty input token member, ?_⟩
  intro byte within
  apply kept_content unquoted
  rw [← tokenize_flatten]
  exact List.mem_flatten.mpr ⟨token, member, within⟩

end NexusD.Tools
