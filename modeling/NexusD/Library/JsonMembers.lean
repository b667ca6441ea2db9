import NexusD.Library.JsonParser

/-! Members of an object whose names and values are written as they are, without escapes. -/

namespace NexusD.Library.Json

def PlainText (text : List UInt8) : Prop := ∀ byte ∈ text, isPlain byte = true

variable {text : List UInt8} {units : List CharUnit}

theorem PlainText.chars (plain : PlainText text)
    : Chars text (text.map .byte) := by
  induction text with
  | nil => exact .nil
  | cons byte rest ih =>
      obtain ⟨here, later⟩ := List.forall_mem_cons.mp plain
      exact .plain here (ih later)

theorem assemble_map_byte (bytes : List UInt8) : assemble (bytes.map .byte) = some bytes := by
  induction bytes with
  | nil => rfl
  | cons byte rest ih => rw [List.map_cons, assemble, ih, Option.map_some]

theorem length_utf8_le (code : Nat) : (utf8 code).length ≤ 4 := by
  unfold utf8
  split
  · simp
  · split
    · simp
    · split
      · simp
      · simp

/-- No unit stands for more bytes than that. -/
def CharUnit.size : CharUnit → Nat
  | .byte _ => 1
  | .code _ => 4

theorem length_assemble_le {bytes : List UInt8} (means : assemble units = some bytes)
    : bytes.length ≤ (units.map CharUnit.size).sum := by
  fun_induction assemble units generalizing bytes with
  | case1 =>
      cases means
      simp
  | case2 value rest ih =>
      obtain ⟨others, later, rfl⟩ := Option.map_eq_some_iff.mp means
      have bound := ih later
      simp only [List.length_cons, List.map_cons, List.sum_cons, CharUnit.size]
      omega
  | case3 value rest _ ih =>
      obtain ⟨others, later, rfl⟩ := Option.map_eq_some_iff.mp means
      have bound := ih later
      have code := length_utf8_le value
      simp only [List.length_append, List.map_cons, List.sum_cons, CharUnit.size]
      omega
  | case4 value _ low rest _ ih =>
      obtain ⟨others, later, rfl⟩ := Option.map_eq_some_iff.mp means
      have bound := ih later
      have code := length_utf8_le (0x10000 + (value - 0xD800) * 0x400 + (low - 0xDC00))
      simp only [List.length_append, List.map_cons, List.sum_cons, CharUnit.size]
      omega
  | case5 | case6 => cases means

theorem Chars.size_le (chars : Chars text units)
    : (units.map CharUnit.size).sum ≤ text.length := by
  induction chars with
  | nil => exact Nat.le_refl _
  | plain _ _ ih | escape _ _ ih | code _ _ ih =>
      simp only [List.map_cons, List.sum_cons, List.length_cons, CharUnit.size]
      omega

/-- An escape is longer than what it stands for. -/
theorem Chars.plain_or_longer (chars : Chars text units)
    : units = text.map .byte ∧ PlainText text
      ∨ (units.map CharUnit.size).sum < text.length := by
  induction chars with
  | nil => exact .inl ⟨rfl, List.forall_mem_nil _⟩
  | plain raw rest ih =>
      rcases ih with ⟨same, plain⟩ | longer
      · exact .inl ⟨by rw [same, List.map_cons], List.forall_mem_cons.mpr ⟨raw, plain⟩⟩
      · refine .inr ?_
        simp only [List.map_cons, List.sum_cons, List.length_cons, CharUnit.size]
        omega
  | escape short rest ih =>
      have bound := rest.size_le
      refine .inr ?_
      simp only [List.map_cons, List.sum_cons, List.length_cons, CharUnit.size]
      omega
  | code hex rest ih =>
      have bound := rest.size_le
      refine .inr ?_
      simp only [List.map_cons, List.sum_cons, List.length_cons, CharUnit.size]
      omega

/-- Only a text without escapes stands for as many bytes as it has, and then for itself. -/
theorem Chars.eq_of_length_le {bytes : List UInt8} (chars : Chars text units)
    (means : assemble units = some bytes) (whole : text.length ≤ bytes.length)
    : bytes = text ∧ PlainText text := by
  rcases chars.plain_or_longer with ⟨same, plain⟩ | longer
  · rw [same, assemble_map_byte] at means
    exact ⟨(Option.some.inj means).symm, plain⟩
  · have bound := length_assemble_le means
    omega

theorem codeUnit?_ne_quote {a b c d : UInt8} {value : Nat}
    (hex : codeUnit? a b c d = some value)
    : 34 ∉ [92, 117, a, b, c, d] := by
  obtain ⟨_, first, hex⟩ := Option.bind_eq_some_iff.mp hex
  obtain ⟨_, second, hex⟩ := Option.bind_eq_some_iff.mp hex
  obtain ⟨_, third, hex⟩ := Option.bind_eq_some_iff.mp hex
  obtain ⟨_, fourth, _⟩ := Option.map_eq_some_iff.mp hex
  have no_quote {byte : UInt8} {digit : Nat} (found : hexDigit? byte = some digit)
    : (34 : UInt8) ≠ byte := by
    intro quote
    rw [← quote] at found
    cases found
  simp [no_quote first, no_quote second, no_quote third, no_quote fourth]

/-- The first quotation mark is not in front of a text that has none. -/
theorem exists_of_append_quote {piece before after : List UInt8} (none : 34 ∉ piece)
    (split : piece ++ text = before ++ 34 :: after)
    : ∃ rest, before = piece ++ rest ∧ text = rest ++ 34 :: after := by
  rcases List.append_eq_append_iff.mp split with ⟨rest, front, back⟩ | ⟨rest, front, back⟩
  · exact ⟨rest, front, back⟩
  · cases rest with
    | nil => exact ⟨[], by simpa using front.symm, back.symm⟩
    | cons byte rest =>
        obtain ⟨quote, _⟩ := List.cons.inj back
        exact absurd (by simp [front, quote]) none

/-- In a string a quotation mark stands behind a backslash. -/
theorem Chars.getLast?_before_quote {before after : List UInt8} (chars : Chars text units)
    (split : text = before ++ 34 :: after)
    : before.getLast? = some 92 := by
  induction chars generalizing before with
  | nil => simp at split
  | plain raw rest ih =>
      rename_i byte text units
      have none : 34 ∉ [byte] := by
        intro member
        rw [← List.mem_singleton.mp member] at raw
        cases raw
      obtain ⟨front, rfl, later⟩ := exists_of_append_quote none split
      rw [List.getLast?_append, ih later, Option.some_or]
  | escape short rest ih =>
      have none : (34 : UInt8) ∉ [92] := by decide
      obtain ⟨front, rfl, later⟩ := exists_of_append_quote none split
      cases front with
      | nil => rfl
      | cons mark front =>
          rw [List.getLast?_append, List.getLast?_cons, ih (List.cons.inj later).2]
          rfl
  | code hex rest ih =>
      obtain ⟨front, rfl, later⟩ := exists_of_append_quote (codeUnit?_ne_quote hex) split
      rw [List.getLast?_append, ih later, Option.some_or]

/-- A text that stands for an element or a member, with nothing around its parts. -/
def WritesEntry (kind : Kind) (text : List UInt8) (entry : List UInt8 × Json) : Prop :=
  ∃ label body, text = label ++ body ∧ Label kind label entry.1
    ∧ Derives body (.value entry.2)

section Written

variable {kind : Kind} {text rest : List UInt8} {entry : List UInt8 × Json}
  (written : WritesEntry kind text entry)

include written

theorem WritesEntry.derives : Derives text (.entries kind [entry]) := by
  obtain ⟨label, body, rfl, labelled, derived⟩ := written
  have last := Derives.last blank_nil labelled blank_nil derived blank_nil
  rw [List.nil_append, List.nil_append, List.append_nil] at last
  exact last

theorem WritesEntry.derives_cons {others : List (List UInt8 × Json)}
    (more : Derives rest (.entries kind others))
    : Derives (text ++ 44 :: rest) (.entries kind (entry :: others)) := by
  obtain ⟨label, body, rfl, labelled, derived⟩ := written
  have entry := Derives.entry blank_nil labelled blank_nil derived blank_nil more
  simpa using entry

/-- Nothing else can be read at the start of the entries. -/
theorem WritesEntry.exists_of_derives {entries : List (List UInt8 × Json)}
    (derived : Derives (text ++ 44 :: rest) (.entries kind entries))
    : ∃ others, entries = entry :: others ∧ Derives rest (.entries kind others) := by
  have read := derived.accepted ((text ++ 44 :: rest).length + 1) [] (Nat.lt_succ_self _)
  obtain ⟨label, body, rfl, labelled, value⟩ := written
  have enough : body.length ≤ (label ++ body ++ 44 :: rest).length := by
    simp only [List.length_append]
    omega
  have comma : isTokenByte 44 = false := rfl
  have round := readEntries_succ blank_nil labelled blank_nil value blank_nil value.accepted
    enough comma rfl (rest ++ [kind.closing])
  simp only [List.nil_append, List.append_assoc, List.cons_append] at read round
  rw [round, if_pos trivial] at read
  obtain ⟨⟨others, left⟩, later, same⟩ := Option.map_eq_some_iff.mp read
  cases same
  obtain ⟨inner, more, ends⟩ := (sound _).entries later
  have whole : rest = inner := List.append_cancel_right ends
  rw [whole]
  exact ⟨others, rfl, more⟩

theorem WritesEntry.derives_cons_iff {entries : List (List UInt8 × Json)}
    : Derives (text ++ 44 :: rest) (.entries kind entries)
      ↔ ∃ others, entries = entry :: others ∧ Derives rest (.entries kind others) := by
  constructor
  · exact written.exists_of_derives
  · intro split
    obtain ⟨others, rfl, more⟩ := split
    exact written.derives_cons more

end Written

theorem WritesEntry.head?_object {text : List UInt8} {entry : List UInt8 × Json}
    (written : WritesEntry .object text entry)
    : text.head? = some 34 := by
  obtain ⟨label, body, rfl, labelled, _⟩ := written
  cases labelled with
  | name => rfl

-----------------------------------------------------------------------------------------
-- An object in a line
-----------------------------------------------------------------------------------------

theorem closing_unique {body text left after : List UInt8} (trailing : Blank after)
    (space : Blank left) (same : body ++ 125 :: after = text ++ 125 :: left)
    : body = text := by
  have no_brace {blank front back : List UInt8} (white : Blank blank)
    : 125 :: blank ≠ 125 :: front ++ 125 :: back := by
    intro split
    have member : 125 ∈ blank := by simp [(List.cons.inj split).2]
    exact absurd (white 125 member) (by decide)
  rcases List.append_eq_append_iff.mp same with ⟨rest, front, back⟩ | ⟨rest, front, back⟩
  · cases rest with
    | nil => simpa using front.symm
    | cons byte rest =>
        obtain ⟨rfl, _⟩ := List.cons.inj back
        exact absurd back (no_brace trailing)
  · cases rest with
    | nil => simpa using front
    | cons byte rest =>
        obtain ⟨rfl, _⟩ := List.cons.inj back
        exact absurd back (no_brace space)

variable {members : List (List UInt8 × Json)} {key value : List UInt8}

/-- An object is its members, when there are some. -/
theorem parse_object_iff {body after : List UInt8} (some_member : body.head? = some 34)
    (trailing : Blank after)
    : parse (123 :: (body ++ 125 :: after)) = some (.object members)
      ↔ Derives body (.entries .object members) := by
  constructor
  · intro parsed
    obtain ⟨rest, rfl⟩ := List.head?_eq_some_iff.mp some_member
    obtain ⟨⟨value, left⟩, read, ends⟩ := Option.bind_eq_some_iff.mp parsed
    have opens : Kind.ofOpening 123 = some .object := rfl
    have open_brace
      : ((skipBlank (34 :: rest ++ 125 :: after)).head? = some Kind.object.closing) = False := by
      rw [List.cons_append, skipBlank_cons rfl]
      simp [Kind.closing]
    rw [skipBlank_cons rfl, List.length_cons, readValue, if_neg (by decide)] at read
    simp only [opens, open_brace, if_false] at read
    obtain ⟨⟨entries, left'⟩, found, same⟩ := Option.map_eq_some_iff.mp read
    cases same
    dsimp only at ends
    split at ends
    · rename_i nothing
      cases ends
      obtain ⟨text, derived, split⟩ := (sound _).entries found
      rw [closing_unique trailing (skipBlank_eq_nil_iff.mp nothing) split]
      exact derived
    · cases ends
  · intro derived
    have document := Document.text blank_nil (Derives.brackets derived) trailing
    simpa [Kind.opening, Kind.closing, Kind.build] using parse_eq_some_iff.mpr document

-----------------------------------------------------------------------------------------
-- Unescaped members
-----------------------------------------------------------------------------------------

/-- A name and a string between quotation marks. -/
def rawMember (key value : List UInt8) : List UInt8 :=
  34 :: (key ++ 34 :: 58 :: 34 :: (value ++ [34]))

theorem label_of_plainText (plain : PlainText key)
    : Label .object (34 :: (key ++ 34 :: ([] ++ [58]))) key :=
  .name plain.chars (assemble_map_byte key) blank_nil

theorem writesEntry_rawMember (name : PlainText key) (plain : PlainText value)
    : WritesEntry .object (rawMember key value) (key, .string value) := by
  refine ⟨_, _, ?_, label_of_plainText name, .string plain.chars (assemble_map_byte value)⟩
  simp [rawMember]

/-- A string that runs past its closing quotation mark ends at the next one. -/
theorem isPrefix_or_of_quote {text left rest : List UInt8} {units : List CharUnit}
    (chars : Chars text units) (split : value ++ 34 :: 44 :: 34 :: rest = text ++ 34 :: left)
    : text <+: value ∨ left = rest := by
  rcases List.append_eq_append_iff.mp split with ⟨more, front, back⟩ | ⟨more, front, _⟩
  · match more with
    | [] => exact .inl (by simp [front])
    | [_] => cases back
    | [_, _] =>
        simp only [List.cons_append, List.nil_append, List.cons.injEq] at back
        exact .inr back.2.2.2.symm
    | a :: b :: c :: more =>
        simp only [List.cons_append, List.cons.injEq] at back
        obtain ⟨rfl, rfl, rfl, _⟩ := back
        have before : text = (value ++ [34, 44]) ++ 34 :: more := by simp [front]
        have backslash := chars.getLast?_before_quote before
        simp at backslash
  · exact .inl ⟨more, front.symm⟩

/-- What is read as the value of an unescaped member in front of another one. -/
theorem exists_of_rawMember {rest : List UInt8} {letter : UInt8} (name : PlainText key)
    (token : isTokenByte letter = true)
    (derived : Derives (rawMember key value ++ 44 :: 34 :: letter :: rest)
      (.entries .object members))
    : ∃ text units bytes others, Chars text units ∧ assemble units = some bytes
      ∧ text <+: value
      ∧ members = (key, .string bytes) :: others := by
  have read := derived.accepted _ [] (Nat.lt_succ_self _)
  have quote : isBlank 34 = false := rfl
  obtain ⟨middle, labelled, skipped⟩ := (label_of_plainText name).read blank_nil blank_nil
    quote (value ++ 34 :: 44 :: 34 :: letter :: (rest ++ [Kind.object.closing]))
  rw [readEntries] at read
  have shape
    : rawMember key value ++ 44 :: 34 :: letter :: rest ++ [Kind.object.closing]
      = [] ++ (34 :: (key ++ 34 :: ([] ++ [58])) ++ ([] ++ 34
          :: (value ++ 34 :: 44 :: 34 :: letter :: (rest ++ [Kind.object.closing])))) := by
    simp [rawMember]
  rw [shape, labelled, Option.bind_some] at read
  obtain ⟨⟨json, left⟩, value_read, read⟩ := Option.bind_eq_some_iff.mp read
  rw [skipped, rawMember, List.cons_append, List.length_cons, readValue, if_pos rfl] at value_read
  obtain ⟨⟨bytes, left⟩, found, same⟩ := Option.map_eq_some_iff.mp value_read
  cases same
  obtain ⟨text, units, chars, means, split⟩ := exists_of_readString found
  rcases isPrefix_or_of_quote chars split with inside | past
  · dsimp only at read
    split at read
    · cases read
    · split at read
      · obtain ⟨⟨others, final⟩, _, same⟩ := Option.map_eq_some_iff.mp read
        cases same
        exact ⟨text, units, bytes, others, chars, means, inside, rfl⟩
      · split at read
        · cases read
          exact ⟨text, units, bytes, [], chars, means, inside, rfl⟩
        · cases read
  · -- the letter can neither separate the members nor close the object
    obtain ⟨solid, _, no_comma, _, _, _, _, no_brace⟩ := (isTokenByte_iff letter).mp token
    have none_left : letter ≠ Kind.object.closing := no_brace
    simp [past, skipBlank_cons solid, no_comma, none_left] at read

/-- The values of all members of that name. -/
def valuesOf (key : List UInt8) (members : List (List UInt8 × Json)) : List Json :=
  (members.filter (fun member => member.1 = key)).map Prod.snd

@[simp]
theorem valuesOf_cons_self (key : List UInt8) (value : Json)
    (others : List (List UInt8 × Json))
    : valuesOf key ((key, value) :: others) = value :: valuesOf key others := by
  simp [valuesOf]

theorem valuesOf_cons_ne {member : List UInt8 × Json} (other : member.1 ≠ key)
    (others : List (List UInt8 × Json))
    : valuesOf key (member :: others) = valuesOf key others := by
  simp [valuesOf, other]

/-- Another member, with a letter at the start of its name. -/
def NextMember (text : List UInt8) : Prop :=
  ∃ letter rest, text = 34 :: letter :: rest ∧ isTokenByte letter = true

theorem nextMember_rawMember {letter : UInt8} (starts : key.head? = some letter)
    (token : isTokenByte letter = true) (value : List UInt8)
    : NextMember (rawMember key value) := by
  obtain ⟨rest, rfl⟩ := List.head?_eq_some_iff.mp starts
  exact ⟨letter, _, rfl, token⟩

theorem NextMember.append {text : List UInt8} (next : NextMember text) (after : List UInt8)
    : NextMember (text ++ after) := by
  obtain ⟨letter, rest, rfl, token⟩ := next
  exact ⟨letter, rest ++ after, rfl, token⟩

/-- In front of another member, an unescaped one is read as it is written only if there was
nothing to escape.
-/
theorem exists_of_rawMember_itself {rest : List UInt8} (name : PlainText key)
    (next : NextMember rest)
    (derived : Derives (rawMember key value ++ 44 :: rest) (.entries .object members))
    (itself : ∀ json ∈ valuesOf key members, json = .string value)
    : PlainText value
      ∧ ∃ others, members = (key, .string value) :: others
        ∧ Derives rest (.entries .object others) := by
  obtain ⟨letter, tail, rfl, token⟩ := next
  obtain ⟨text, units, bytes, others, chars, means, inside, first⟩ :=
    exists_of_rawMember name token derived
  rw [first, valuesOf_cons_self] at itself
  obtain rfl : bytes = value := Json.string.inj (itself _ List.mem_cons_self)
  obtain ⟨same, plain⟩ := chars.eq_of_length_le means inside.length_le
  rw [← same] at plain
  exact ⟨plain, (writesEntry_rawMember name plain).exists_of_derives derived⟩

end NexusD.Library.Json
