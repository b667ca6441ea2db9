import NexusD.Library.Json

/-! The parser accepts what the grammar derives, and nothing else. -/

namespace NexusD.Library.Json

theorem blank_nil : Blank [] := by
  intro byte member
  cases member

variable {byte : UInt8} {rest text input label key before between : List UInt8} {value : Json}
  {units : List CharUnit} {kind : Kind} {fuel : Nat}

theorem skipBlank_cons (solid : isBlank byte = false) (rest : List UInt8)
    : skipBlank (byte :: rest) = byte :: rest := by
  simp [skipBlank, solid]

theorem skipBlank_append {blank : List UInt8} (space : Blank blank) (rest : List UInt8)
    : skipBlank (blank ++ rest) = skipBlank rest :=
  List.dropWhile_append_of_pos space

theorem skipBlank_eq_nil_iff {text : List UInt8} : skipBlank text = [] ↔ Blank text :=
  List.dropWhile_eq_nil_iff

/-- What is skipped is white space. -/
theorem exists_blank (input : List UInt8)
    : ∃ blank, Blank blank ∧ input = blank ++ skipBlank input :=
  ⟨input.takeWhile isBlank, fun _ member => List.mem_takeWhile_imp member,
    List.takeWhile_append_dropWhile.symm⟩

/-- The first byte of a token is no white space, no quotation mark and no bracket. -/
theorem isTokenByte_iff (byte : UInt8)
    : isTokenByte byte = true
      ↔ isBlank byte = false ∧ byte ≠ 34 ∧ byte ≠ 44 ∧ byte ≠ 58 ∧ byte ≠ 91 ∧ byte ≠ 93
        ∧ byte ≠ 123 ∧ byte ≠ 125 := by
  simp [isTokenByte, and_assoc]

/-- What may follow a value. -/
def Follow (rest : List UInt8) : Prop := ∀ byte ∈ rest.head?, isTokenByte byte = false

theorem follow_blank {blank : List UInt8} (space : Blank blank) : Follow blank := by
  intro byte first
  have white := space byte (List.mem_of_mem_head? first)
  simp [isTokenByte, white]

theorem follow_append {blank : List UInt8} (space : Blank blank)
    (ending : isTokenByte byte = false)
    : Follow (blank ++ byte :: rest) := by
  cases blank with
  | nil =>
      intro first head
      cases head
      exact ending
  | cons white others =>
      intro first head
      cases head
      have here := space white List.mem_cons_self
      simp [isTokenByte, here]

theorem readChars_quote (rest : List UInt8) : readChars (34 :: rest) = some ([], rest) := by
  rw [readChars.eq_def]
  rfl

theorem readChars_plain (raw : isPlain byte = true) (rest : List UInt8)
    : readChars (byte :: rest)
      = (readChars rest).map (fun (units, left) => (.byte byte :: units, left)) := by
  have ordinary : byte ≠ 34 ∧ byte ≠ 92 := by
    simp only [isPlain, Bool.and_eq_true, decide_eq_true_eq] at raw
    exact ⟨raw.1.2, raw.2⟩
  rw [readChars.eq_def]
  simp only [ordinary.1, ordinary.2, if_false, raw, if_true]

theorem readChars_escape {mark : UInt8} (short : escaped? mark = some byte) (rest : List UInt8)
    : readChars (92 :: mark :: rest)
      = (readChars rest).map (fun (units, left) => (.byte byte :: units, left)) := by
  have letter : mark ≠ 117 := by
    intro same
    simp [same, escaped?] at short
  rw [readChars.eq_def]
  simp [letter, short]

theorem readChars_code {a b c d : UInt8} {value : Nat} (hex : codeUnit? a b c d = some value)
    (rest : List UInt8)
    : readChars (92 :: 117 :: a :: b :: c :: d :: rest)
      = (readChars rest).map (fun (units, left) => (.code value :: units, left)) := by
  rw [readChars.eq_def]
  simp [hex]

theorem readChars_append (chars : Chars text units) (rest : List UInt8)
    : readChars (text ++ 34 :: rest) = some (units, rest) := by
  induction chars with
  | nil => exact readChars_quote rest
  | plain raw _ ih => rw [List.cons_append, readChars_plain raw, ih, Option.map_some]
  | escape short _ ih =>
      rw [List.cons_append, List.cons_append, readChars_escape short, ih, Option.map_some]
  | code hex _ ih => simp [readChars_code hex, ih]

theorem exists_of_readChars (read : readChars input = some (units, rest))
    : ∃ text, Chars text units ∧ input = text ++ 34 :: rest := by
  fun_induction readChars input generalizing units rest with
  | case2 left =>
      cases read
      exact ⟨[], .nil, rfl⟩
  | case5 a b c d left value hex _ ih =>
      obtain ⟨⟨others, behind⟩, later, same⟩ := Option.map_eq_some_iff.mp read
      cases same
      obtain ⟨text, chars, split⟩ := ih later
      exact ⟨92 :: 117 :: a :: b :: c :: d :: text, .code hex chars, by rw [split]; rfl⟩
  | case8 mark left _ value short _ ih =>
      obtain ⟨⟨others, behind⟩, later, same⟩ := Option.map_eq_some_iff.mp read
      cases same
      obtain ⟨text, chars, split⟩ := ih later
      exact ⟨92 :: mark :: text, .escape short chars, by rw [split]; rfl⟩
  | case9 byte left _ _ raw ih =>
      obtain ⟨⟨others, behind⟩, later, same⟩ := Option.map_eq_some_iff.mp read
      cases same
      obtain ⟨text, chars, split⟩ := ih later
      exact ⟨byte :: text, .plain raw chars, by rw [split]; rfl⟩
  | case1 | case3 | case4 | case6 | case7 | case10 => cases read

theorem readString_append {bytes : List UInt8} (chars : Chars text units)
    (means : assemble units = some bytes) (rest : List UInt8)
    : readString (text ++ 34 :: rest) = some (bytes, rest) := by
  simp [readString, readChars_append chars, means]

theorem exists_of_readString {bytes : List UInt8}
    (read : readString input = some (bytes, rest))
    : ∃ text units, Chars text units ∧ assemble units = some bytes
        ∧ input = text ++ 34 :: rest := by
  obtain ⟨⟨units, behind⟩, found, made⟩ := Option.bind_eq_some_iff.mp read
  obtain ⟨bytes, means, same⟩ := Option.map_eq_some_iff.mp made
  cases same
  obtain ⟨text, chars, split⟩ := exists_of_readChars found
  exact ⟨text, units, chars, means, split⟩

/-- The label is read with the white space on both sides of it. -/
theorem Label.read (labelled : Label kind label key) (leading : Blank before)
    (space : Blank between) {first : UInt8} (solid : isBlank first = false) (rest : List UInt8)
    : ∃ middle,
        kind.readLabel (skipBlank (before ++ (label ++ (between ++ first :: rest))))
          = some (key, middle)
        ∧ skipBlank middle = first :: rest := by
  rw [skipBlank_append leading]
  cases labelled with
  | element =>
      refine ⟨_, rfl, ?_⟩
      rw [List.nil_append, skipBlank_append space, skipBlank_cons solid, skipBlank_cons solid]
  | name chars means blank =>
      rename_i text units white
      refine ⟨between ++ first :: rest, ?_, ?_⟩
      · have colon : skipBlank (white ++ 58 :: (between ++ first :: rest))
            = 58 :: (between ++ first :: rest) := by
          rw [skipBlank_append blank, skipBlank_cons rfl]
        rw [List.cons_append, skipBlank_cons rfl, Kind.readLabel, if_pos rfl,
          List.append_assoc, List.cons_append, List.append_assoc, List.singleton_append,
          readString_append chars means, Option.bind_some]
        simp only [colon, if_true]
      · rw [skipBlank_append space, skipBlank_cons solid]

theorem exists_of_readLabel (read : kind.readLabel input = some (key, rest))
    : ∃ label, Label kind label key ∧ input = label ++ rest := by
  cases kind with
  | array =>
      cases read
      exact ⟨[], .element, rfl⟩
  | object =>
      cases input with
      | nil => cases read
      | cons byte input =>
          rw [Kind.readLabel] at read
          split at read
          · rename_i quote
            obtain ⟨⟨key', behind⟩, found, colon⟩ := Option.bind_eq_some_iff.mp read
            obtain ⟨text, units, chars, means, rfl⟩ := exists_of_readString found
            obtain ⟨blank, space, white⟩ := exists_blank behind
            dsimp only at colon
            split at colon
            · cases colon
            · rename_i mark left skipped
              split at colon
              · rename_i is_colon
                cases colon
                refine ⟨34 :: (text ++ 34 :: (blank ++ [58])), .name chars means space, ?_⟩
                rw [quote, white, skipped, is_colon]
                simp
              · cases colon
          · cases read

-----------------------------------------------------------------------------------------
-- Values
-----------------------------------------------------------------------------------------

/-- A byte that a value can start with. -/
def Starts (byte : UInt8) : Prop := isBlank byte = false ∧ byte ≠ 93

theorem Kind.starts_opening (kind : Kind) : Starts kind.opening := by
  cases kind <;> exact ⟨rfl, by decide⟩

theorem Derives.exists_cons (derived : Derives text (.value value))
    : ∃ first rest, text = first :: rest ∧ Starts first := by
  cases derived with
  | scalar token means =>
      cases text with
      | nil => cases means
      | cons first rest =>
          have here := (isTokenByte_iff first).mp (token first List.mem_cons_self)
          exact ⟨first, rest, rfl, here.1, here.2.2.2.2.2.1⟩
  | string => exact ⟨34, _, rfl, rfl, by decide⟩
  | empty kind => exact ⟨kind.opening, _, rfl, kind.starts_opening⟩
  | brackets inner => exact ⟨_, _, rfl, Kind.starts_opening _⟩

theorem Kind.closing_ends (kind : Kind) : isTokenByte kind.closing = false := by
  cases kind <;> rfl

theorem Kind.solid_closing (kind : Kind) : isBlank kind.closing = false := by
  cases kind <;> rfl

theorem Kind.ofOpening_opening (kind : Kind) : Kind.ofOpening kind.opening = some kind := by
  cases kind <;> rfl

theorem Kind.opening_ne_quote (kind : Kind) : kind.opening ≠ 34 := by
  cases kind <;> decide

theorem Kind.opening_of_ofOpening (opens : Kind.ofOpening byte = some kind)
    : byte = kind.opening := by
  unfold Kind.ofOpening at opens
  split at opens
  · cases opens
    assumption
  · split at opens
    · cases opens
      assumption
    · cases opens

/-- In front of an entry the brackets cannot be closed. -/
theorem Label.head_ne_closing (labelled : Label kind label key) (leading : Blank before)
    (space : Blank between) {first : UInt8} (starts : Starts first) (rest : List UInt8)
    : (skipBlank (before ++ (label ++ (between ++ first :: rest)))).head?
      ≠ some kind.closing := by
  rw [skipBlank_append leading]
  cases labelled with
  | element =>
      rw [List.nil_append, skipBlank_append space, skipBlank_cons starts.1]
      intro same
      exact starts.2 (Option.some.inj same)
  | name =>
      rw [List.cons_append, skipBlank_cons rfl]
      exact fun same => absurd (Option.some.inj same) (by decide)

theorem Derives.head_ne_closing {entries : List (List UInt8 × Json)}
    (derived : Derives text (.entries kind entries)) (rest : List UInt8)
    : (skipBlank (text ++ rest)).head? ≠ some kind.closing := by
  cases derived with
  | last leading labelled space value _ =>
      obtain ⟨first, others, rfl, starts⟩ := value.exists_cons
      simp only [List.append_assoc, List.cons_append]
      exact labelled.head_ne_closing leading space starts _
  | entry leading labelled space value _ _ =>
      obtain ⟨first, others, rfl, starts⟩ := value.exists_cons
      simp only [List.append_assoc, List.cons_append]
      exact labelled.head_ne_closing leading space starts _

theorem readScalar_append (token : ∀ byte ∈ text, isTokenByte byte = true)
    (means : scalar? text = some value) (follow : Follow rest)
    : readScalar (text ++ rest) = some (value, rest) := by
  have stops : rest.takeWhile isTokenByte = [] ∧ rest.dropWhile isTokenByte = rest := by
    cases rest with
    | nil => exact ⟨rfl, rfl⟩
    | cons byte others =>
        have ending : isTokenByte byte = false := follow byte rfl
        simp [ending]
  rw [readScalar, List.takeWhile_append_of_pos token, List.dropWhile_append_of_pos token,
    stops.1, stops.2, List.append_nil, means, Option.map_some]

/-- What the parser makes of a derived text, with `fuel` to spare. -/
def Accepted (text : List UInt8) : Phrase → Prop
  | .value value =>
      ∀ fuel rest, text.length ≤ fuel → Follow rest
        → readValue fuel (text ++ rest) = some (value, rest)
  | .entries kind entries =>
      ∀ fuel rest, text.length < fuel
        → readEntries fuel kind (text ++ kind.closing :: rest) = some (entries, rest)

/-- One round of the loop: the label, the value and the white space around them. -/
theorem readEntries_succ {after : List UInt8} (leading : Blank before)
    (labelled : Label kind label key) (space : Blank between)
    (derived : Derives text (.value value)) (trailing : Blank after)
    (accepted : Accepted text (.value value)) (enough : text.length ≤ fuel)
    (ending : isTokenByte byte = false) (solid : isBlank byte = false) (rest : List UInt8)
    : readEntries (fuel + 1) kind
        (before ++ (label ++ (between ++ (text ++ (after ++ byte :: rest)))))
      = if byte = 44 then
          (readEntries fuel kind rest).map (fun (entries, left) =>
            ((key, value) :: entries, left))
        else if byte = kind.closing then some ([(key, value)], rest)
        else none := by
  have read := accepted fuel (after ++ byte :: rest) enough (follow_append trailing ending)
  obtain ⟨first, others, rfl, starts⟩ := derived.exists_cons
  obtain ⟨middle, found, skipped⟩ :=
    labelled.read leading space starts.1 (others ++ (after ++ byte :: rest))
  rw [List.cons_append] at read ⊢
  rw [readEntries, found, Option.bind_some]
  simp only [skipped, read, Option.bind_some, skipBlank_append trailing, skipBlank_cons solid]

/-- By induction on the derivation; the fuel is measured by the length of the text. -/
theorem Derives.accepted {phrase : Phrase} (derived : Derives text phrase)
    : Accepted text phrase := by
  induction derived with
  | scalar token means =>
      rename_i text value
      intro fuel rest enough follow
      cases text with
      | nil => cases means
      | cons byte others =>
          cases fuel with
          | zero => simp at enough
          | succ fuel =>
              have here := (isTokenByte_iff byte).mp (token byte List.mem_cons_self)
              obtain ⟨_, no_quote, _, _, no_array, _, no_object, _⟩ := here
              have scalar := readScalar_append token means follow
              rw [List.cons_append] at scalar ⊢
              simp [readValue, no_quote, Kind.ofOpening, no_array, no_object, scalar]
  | string chars means =>
      intro fuel rest enough _
      cases fuel with
      | zero => simp at enough
      | succ fuel =>
          rw [List.cons_append, List.append_assoc, List.singleton_append, readValue,
            if_pos rfl, readString_append chars means, Option.map_some]
  | empty kind space =>
      intro fuel rest enough _
      cases fuel with
      | zero => simp at enough
      | succ fuel =>
          rw [List.cons_append, List.append_assoc, List.singleton_append, readValue,
            if_neg kind.opening_ne_quote, kind.ofOpening_opening]
          simp [skipBlank_append space, skipBlank_cons kind.solid_closing]
  | brackets inner ih =>
      rename_i kind text entries
      intro fuel rest enough _
      cases fuel with
      | zero => simp at enough
      | succ fuel =>
          have shorter : text.length < fuel := by
            simp only [List.length_cons, List.length_append, List.length_nil] at enough
            omega
          rw [List.cons_append, List.append_assoc, List.singleton_append, readValue,
            if_neg kind.opening_ne_quote, kind.ofOpening_opening]
          simp only [if_neg (inner.head_ne_closing (kind.closing :: rest)),
            ih fuel rest shorter, Option.map_some]
  | last leading labelled space value trailing ih =>
      rename_i kind before label key between text json after
      intro fuel rest enough
      cases fuel with
      | zero => simp at enough
      | succ fuel =>
          have shorter : text.length ≤ fuel := by
            simp only [List.length_append] at enough
            omega
          have closing : kind.closing ≠ 44 := by cases kind <;> decide
          simp only [List.append_assoc]
          rw [readEntries_succ leading labelled space value trailing ih shorter
            kind.closing_ends kind.solid_closing, if_neg closing, if_pos rfl]
  | entry leading labelled space value trailing more ih others_ih =>
      rename_i kind before label key between text json after others entries
      intro fuel rest enough
      cases fuel with
      | zero => simp at enough
      | succ fuel =>
          simp only [List.length_append, List.length_cons] at enough
          have later := others_ih fuel rest (by omega)
          simp only [List.append_assoc, List.cons_append]
          rw [readEntries_succ leading labelled space value trailing ih (by omega) rfl rfl,
            if_pos rfl, later, Option.map_some]

/-- What is read with `fuel` is derived by the grammar. -/
structure Sound (fuel : Nat) : Prop where
  value
    : ∀ {input value rest}, readValue fuel input = some (value, rest)
      → ∃ text, Derives text (.value value) ∧ input = text ++ rest
  entries
    : ∀ {kind input entries rest}, readEntries fuel kind input = some (entries, rest)
      → ∃ text, Derives text (.entries kind entries) ∧ input = text ++ kind.closing :: rest

theorem Sound.brackets (sound : Sound fuel)
    (read
      : (if (skipBlank input).head? = some kind.closing then
          some (kind.build [], (skipBlank input).tail)
        else
          (readEntries fuel kind input).map (fun (entries, left) => (kind.build entries, left)))
        = some (value, rest))
    : ∃ text, Derives text (.value value) ∧ kind.opening :: input = text ++ rest := by
  split at read
  · rename_i closed
    cases read
    obtain ⟨blank, space, white⟩ := exists_blank input
    obtain ⟨left, skipped⟩ := List.head?_eq_some_iff.mp closed
    refine ⟨_, .empty kind space, ?_⟩
    rw [skipped] at white ⊢
    simp [white]
  · obtain ⟨⟨entries, left⟩, found, same⟩ := Option.map_eq_some_iff.mp read
    cases same
    obtain ⟨text, derived, split⟩ := sound.entries found
    exact ⟨_, .brackets derived, by simp [split]⟩

theorem Sound.readValue (sound : Sound fuel)
    (read : readValue (fuel + 1) input = some (value, rest))
    : ∃ text, Derives text (.value value) ∧ input = text ++ rest := by
  cases input with
  | nil => cases read
  | cons byte input =>
      rw [Json.readValue] at read
      split at read
      · rename_i quote
        obtain ⟨⟨bytes, left⟩, found, same⟩ := Option.map_eq_some_iff.mp read
        cases same
        obtain ⟨text, units, chars, means, rfl⟩ := exists_of_readString found
        exact ⟨_, .string chars means, by simp [quote]⟩
      · split at read
        · obtain ⟨json, means, same⟩ := Option.map_eq_some_iff.mp read
          cases same
          exact ⟨_, .scalar (fun _ member => List.mem_takeWhile_imp member) means,
            List.takeWhile_append_dropWhile.symm⟩
        · rename_i kind opens
          rw [Kind.opening_of_ofOpening opens]
          exact sound.brackets read

theorem Sound.readEntries (sound : Sound fuel) {entries : List (List UInt8 × Json)}
    (read : readEntries (fuel + 1) kind input = some (entries, rest))
    : ∃ text, Derives text (.entries kind entries)
      ∧ input = text ++ kind.closing :: rest := by
  rw [Json.readEntries] at read
  obtain ⟨⟨key, behind⟩, found, read⟩ := Option.bind_eq_some_iff.mp read
  obtain ⟨⟨value, left⟩, value_read, read⟩ := Option.bind_eq_some_iff.mp read
  obtain ⟨before, leading, to_label⟩ := exists_blank input
  obtain ⟨label, labelled, to_space⟩ := exists_of_readLabel found
  obtain ⟨between, space, to_value⟩ := exists_blank behind
  obtain ⟨text, derived, to_rest⟩ := sound.value value_read
  obtain ⟨after, trailing, to_end⟩ := exists_blank left
  have shape
    : input = before ++ (label ++ (between ++ (text ++ (after ++ skipBlank left)))) := by
    rw [← to_end, ← to_rest, ← to_value, ← to_space, ← to_label]
  dsimp only at read
  split at read
  · cases read
  · rename_i byte others skipped
    rw [skipped] at shape
    split at read
    · rename_i comma
      obtain ⟨⟨more, final⟩, more_read, same⟩ := Option.map_eq_some_iff.mp read
      cases same
      obtain ⟨others, more_derived, rfl⟩ := sound.entries more_read
      refine ⟨_, .entry leading labelled space derived trailing more_derived, ?_⟩
      rw [shape, comma]
      simp
    · split at read
      · rename_i closes
        cases read
        refine ⟨_, .last leading labelled space derived trailing, ?_⟩
        rw [shape, closes]
        simp
      · cases read

theorem sound (fuel : Nat) : Sound fuel := by
  induction fuel with
  | zero =>
      constructor
      · intro input value rest read
        cases read
      · intro kind input entries rest read
        cases read
  | succ fuel ih => exact ⟨ih.readValue, ih.readEntries⟩

/-- The parser decides the grammar. -/
theorem parse_eq_some_iff
    : parse text = some value ↔ Document text value := by
  constructor
  · intro parsed
    obtain ⟨⟨json, rest⟩, read, ends⟩ := Option.bind_eq_some_iff.mp parsed
    dsimp only at ends
    split at ends
    · rename_i nothing
      cases ends
      obtain ⟨before, leading, white⟩ := exists_blank text
      obtain ⟨inner, derived, split⟩ := (sound _).value read
      rw [white, split]
      exact .text leading derived (skipBlank_eq_nil_iff.mp nothing)
    · cases ends
  · intro document
    cases document with
    | text leading derived trailing =>
        rename_i before inner after
        have accepted := derived.accepted (before ++ (inner ++ after)).length after
          (by simp only [List.length_append]; omega) (follow_blank trailing)
        obtain ⟨first, others, rfl, starts⟩ := derived.exists_cons
        rw [parse, skipBlank_append leading, List.cons_append, skipBlank_cons starts.1,
          ← List.cons_append, accepted, Option.bind_some]
        exact if_pos (skipBlank_eq_nil_iff.mpr trailing)

end NexusD.Library.Json
