import NexusD.Library.JsonMembers

/-! Streams of JSON texts, one on each line.
A reader cuts the stream at the line feeds, so a text may not contain one. Strings never do:
between quotation marks a line feed has to be escaped.
-/

namespace NexusD.Library.Json

/-- The values of the lines to come; `pending` is what has been read of the line. -/
def readLines (pending : List UInt8) : List UInt8 → Option (List Json)
  | [] => if pending.isEmpty then some [] else none
  | byte :: rest =>
      if byte = 10 then
        (parse pending).bind (fun value => (readLines [] rest).map (value :: ·))
      else
        readLines (pending ++ [byte]) rest

def parseLines (text : List UInt8) : Option (List Json) := readLines [] text

theorem readLines_line {line : List UInt8} (unbroken : 10 ∉ line)
    (pending rest : List UInt8)
    : readLines pending (line ++ 10 :: rest)
      = (parse (pending ++ line)).bind (fun value =>
          (parseLines rest).map (value :: ·)) := by
  induction line generalizing pending with
  | nil => simp [readLines, parseLines]
  | cons byte line ih =>
      obtain ⟨here, later⟩ := List.ne_and_not_mem_of_not_mem_cons unbroken
      rw [List.cons_append, readLines, if_neg (Ne.symm here), ih later,
        List.append_assoc, List.singleton_append]

/-- A text on a line of its own. -/
structure OneLine (text : List UInt8) (value : Json) : Prop where
  derived : Derives text (.value value)
  unbroken : 10 ∉ text

theorem Derives.parse {text : List UInt8} {value : Json}
    (derived : Derives text (.value value))
    : parse text = some value := by
  have document := Document.text blank_nil derived blank_nil
  rw [List.nil_append, List.append_nil] at document
  exact parse_eq_some_iff.mpr document

theorem OneLine.parseLines {text : List UInt8} {value : Json} (line : OneLine text value)
    (rest : List UInt8)
    : parseLines (text ++ 10 :: rest) = (parseLines rest).map (value :: ·) := by
  rw [Json.parseLines, readLines_line line.unbroken, List.nil_append, line.derived.parse,
    Option.bind_some]

theorem hexDigit?_newline : hexDigit? 10 = none := by
  rfl

theorem ne_newline_of_hexDigit? {byte : UInt8} {digit : Nat}
    (hex : hexDigit? byte = some digit)
    : 10 ≠ byte := by
  intro same
  rw [← same, hexDigit?_newline] at hex
  cases hex

/-- A string body has no line feed in it. -/
theorem Chars.unbroken {text : List UInt8} {units : List CharUnit} (chars : Chars text units)
    : 10 ∉ text := by
  induction chars with
  | nil => exact List.not_mem_nil
  | plain raw _ ih =>
      refine List.not_mem_cons_of_ne_of_not_mem ?_ ih
      intro same
      rw [← same] at raw
      cases raw
  | escape short _ ih =>
      refine List.not_mem_cons_of_ne_of_not_mem (by decide)
        (List.not_mem_cons_of_ne_of_not_mem ?_ ih)
      intro same
      rw [← same] at short
      cases short
  | code hex _ ih =>
      simp only [codeUnit?, Option.bind_eq_some_iff, Option.map_eq_some_iff] at hex
      obtain ⟨_, first, _, second, _, third, _, fourth, _⟩ := hex
      simp only [List.mem_cons, not_or]
      exact ⟨by decide, by decide, ne_newline_of_hexDigit? first,
        ne_newline_of_hexDigit? second, ne_newline_of_hexDigit? third,
        ne_newline_of_hexDigit? fourth, ih⟩

theorem unbroken_of_token {text : List UInt8}
    (token : ∀ byte ∈ text, isTokenByte byte = true)
    : 10 ∉ text := by
  intro member
  have accepted := token 10 member
  cases accepted

end NexusD.Library.Json
