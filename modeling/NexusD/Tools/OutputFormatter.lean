import Mathlib.Data.Nat.Digits.Lemmas
import NexusD.Core.TextConversion
import NexusD.Core.TextFormat
import NexusD.Library.JsonMembers
import NexusD.Library.ListFacts
import NexusD.Tools.Tokenizer

/-! The command line tool's JSON output, read back by the grammar. -/

namespace NexusD.Tools

open NexusD.Core NexusD.Library

/-- `JsonObject`, a variant with containers of itself. A map is its keys in order and the values
that belong to them.
-/
inductive JsonObject (Double : Type) where
  | null
  | bool (value : Bool)
  | int64 (value : Int64)
  | double (value : Double)
  | string (value : ByteString)
  | vector (size : Nat) (items : Fin size → JsonObject Double)
  | map (size : Nat) (keys : Fin size → ByteString)
      (sorted : ∀ i j, i < j → keys i < keys j) (values : Fin size → JsonObject Double)

/-- The cases of the `switch` in `escape_json_string`: what stands behind the backslash. -/
def escapeLetter (c : UInt8) : Option UInt8 :=
  if c = 34 then some 34
  else if c = 92 then some 92
  else if c = 8 then some 98
  else if c = 12 then some 102
  else if c = 10 then some 110
  else if c = 13 then some 114
  else if c = 9 then some 116
  else none

/-- One round of `escape_json_string`. -/
def escapeByte (c : UInt8) : ByteString :=
  match escapeLetter c with
  | some letter => [92, letter]
  | none => if c < 0x20 then ascii "\\u" ++ paddedHex 4 c.toNat else [c]

def escapeJsonString (s : ByteString) : ByteString := s.flatMap escapeByte

/-- `"\"" + escape_json_string(s) + "\""` -/
def jsonString (s : ByteString) : ByteString := 34 :: (escapeJsonString s ++ [34])

/-- `escape_json_string(key)` and what is printed for the value, with a colon between them. -/
def jsonMember (key text : ByteString) : ByteString := jsonString key ++ 58 :: text

/-- `json_stringify`. What a stream prints for a double is `printDouble`. -/
def jsonStringify {Double : Type} (printDouble : Double → ByteString)
    : JsonObject Double → ByteString
  | .null => ascii "null"
  | .bool value => if value then ascii "true" else ascii "false"
  | .int64 value => signedDecimal value.toInt
  | .double value => printDouble value
  | .string value => jsonString value
  | .vector size items =>
      if size = 0 then ascii "[]"
      else
        91 :: (join [44] (List.ofFn (fun i => jsonStringify printDouble (items i))) ++ [93])
  | .map size keys _ values =>
      if size = 0 then [123, 125]
      else
        123 :: (join [44] (List.ofFn (fun i =>
          jsonMember (keys i) (jsonStringify printDouble (values i)))) ++ [125])

/-- `print_array` in JSON mode. -/
def printArray (items : List ByteString) : ByteString :=
  91 :: (join [44] (items.map jsonString) ++ [93, 10])

/-- `print_key_values` in JSON mode. -/
def printKeyValues (pairs : List (ByteString × ByteString)) : ByteString :=
  123 :: (join [44] (pairs.map (fun pair => jsonMember pair.1 (jsonString pair.2))) ++ [125, 10])

theorem escaped?_escapeLetter {c letter : UInt8} (found : escapeLetter c = some letter)
    : Json.escaped? letter = some c := by
  unfold escapeLetter at found
  repeat' split at found
  all_goals grind [Json.escaped?]

theorem codeUnit?_paddedHex {code : Nat} (small : code < 32)
    : ∃ a b c d, paddedHex 4 code = [a, b, c, d]
      ∧ Json.codeUnit? a b c d = some code := by
  have all
    : ∀ code < 32,
        Json.codeUnit? (hexDigit (code / 16 / 16 / 16 % 16)) (hexDigit (code / 16 / 16 % 16))
            (hexDigit (code / 16 % 16)) (hexDigit (code % 16))
          = some code := by
    decide
  exact ⟨_, _, _, _, paddedHex_eq (by omega), all code small⟩

/-- Every byte becomes one unit of the string, and the unit stands for the byte. -/
theorem chars_escapeByte (c : UInt8) {text : ByteString} {units : List Json.CharUnit}
    (rest : Json.Chars text units)
    : ∃ unit, Json.Chars (escapeByte c ++ text) (unit :: units)
      ∧ Json.assemble (unit :: units) = (Json.assemble units).map (c :: ·) := by
  unfold escapeByte
  split
  · rename_i letter found
    exact ⟨.byte c, .escape (escaped?_escapeLetter found) rest, rfl⟩
  · rename_i ordinary
    split
    · rename_i control
      have small : c.toNat < 32 := UInt8.lt_iff_toNat_lt.mp control
      obtain ⟨a, b, c₁, d, digits, hex⟩ := codeUnit?_paddedHex small
      refine ⟨.code c.toNat, ?_, ?_⟩
      · rw [digits]
        exact .code hex rest
      · have low : c.toNat < 0xD800 := by omega
        have single : Json.utf8 c.toNat = [c] := by
          rw [Json.utf8, if_pos (by omega), UInt8.ofNat_toNat]
        rw [Json.assemble.eq_def]
        simp [low, single]
    · rename_i printable
      have raw : Json.isPlain c = true := by
        have no_quote : c ≠ 34 := by
          intro same
          simp [same, escapeLetter] at ordinary
        have no_backslash : c ≠ 92 := by
          intro same
          simp [same, escapeLetter] at ordinary
        simp [Json.isPlain, no_quote, no_backslash, UInt8.not_lt.mp printable]
      exact ⟨.byte c, .plain raw rest, rfl⟩

theorem chars_escapeJsonString (s : ByteString)
    : ∃ units, Json.Chars (escapeJsonString s) units ∧ Json.assemble units = some s := by
  induction s with
  | nil => exact ⟨[], .nil, rfl⟩
  | cons c rest ih =>
      obtain ⟨units, chars, means⟩ := ih
      obtain ⟨unit, more, meaning⟩ := chars_escapeByte c chars
      refine ⟨unit :: units, more, ?_⟩
      rw [meaning, means, Option.map_some]

theorem derives_jsonString (s : ByteString)
    : Json.Derives (jsonString s) (.value (.string s)) := by
  obtain ⟨units, chars, means⟩ := chars_escapeJsonString s
  exact .string chars means

theorem head?_decimal_ne_zero {value : Nat} (positive : value ≠ 0)
    : (decimal value).head? ≠ some 48 := by
  have some_digit : Nat.digits 10 value ≠ [] := Nat.digits_ne_nil_iff_ne_zero.mpr positive
  have leading := Nat.getLast_digit_ne_zero 10 positive
  have small : (Nat.digits 10 value).getLast some_digit < 10 :=
    Nat.digits_lt_base (by decide) (List.getLast_mem some_digit)
  rw [decimal, if_neg positive, List.head?_map, List.head?_reverse,
    List.getLast?_eq_some_getLast some_digit, Option.map_some]
  intro zero
  have read := congrArg UInt8.toNat (Option.some.inj zero)
  rw [toNat_ofNat_digit small] at read
  have forty_eight : (48 : UInt8).toNat = 48 := rfl
  omega

theorem unsigned?_decimal (value : Nat) : Json.unsigned? (decimal value) = some (value, 0) := by
  have digits : ∀ byte ∈ decimal value, Json.isDigit byte = true :=
    fun byte member => decimal_isdigit member
  have whole : (decimal value).takeWhile Json.isDigit = decimal value :=
    List.takeWhile_eq_self_iff.mpr digits
  have nothing : (decimal value).dropWhile Json.isDigit = [] :=
    List.dropWhile_eq_nil_iff.mpr digits
  have proper
    : ¬ (decimal value = [] ∨ (decimal value).head? = some 48 ∧ 1 < (decimal value).length) := by
    intro wrong
    rcases wrong with empty | ⟨zero, long⟩
    · exact decimal_ne_nil value empty
    · by_cases none : value = 0
      · rw [none] at long
        exact absurd long (by decide)
      · exact head?_decimal_ne_zero none zero
  have read : Json.digitsValue (decimal value) = value := decimalValue_decimal value
  simp [Json.unsigned?, whole, nothing, proper, Json.fraction, Json.exponent, read]

theorem isTokenByte_of_isdigit {byte : UInt8} (digit : isdigit byte = true)
    : Json.isTokenByte byte = true := by
  rw [isdigit_iff] at digit
  rw [Json.isTokenByte_iff]
  have apart {other : UInt8} (outside : other.toNat < 48 ∨ 57 < other.toNat) : byte ≠ other := by
    intro same
    rw [same] at digit
    omega
  have solid : Json.isBlank byte = false := by
    simp [Json.isBlank, apart]
  exact ⟨solid, apart (by decide), apart (by decide), apart (by decide), apart (by decide),
    apart (by decide), apart (by decide), apart (by decide)⟩

theorem head?_decimal {value : Nat} {byte : UInt8} (first : (decimal value).head? = some byte)
    : isdigit byte = true :=
  decimal_isdigit (List.mem_of_mem_head? first)

theorem number?_signedDecimal (value : Int)
    : Json.number? (signedDecimal value) = some (.number value 0) := by
  unfold signedDecimal
  split
  · have back : -(value.natAbs : Int) = value := by omega
    rw [Json.number?, List.head?_cons, if_pos rfl, List.tail_cons, unsigned?_decimal]
    exact congrArg (fun number => some (Json.number number 0)) back
  · have back : (value.natAbs : Int) = value := by omega
    have unsigned : (decimal value.natAbs).head? ≠ some 45 :=
      fun minus => absurd (head?_decimal minus) (by decide)
    rw [Json.number?, if_neg unsigned, unsigned?_decimal]
    exact congrArg (fun number => some (Json.number number 0)) back

theorem head?_signedDecimal {value : Int} {byte : UInt8}
    (first : (signedDecimal value).head? = some byte)
    : byte = 45 ∨ isdigit byte = true := by
  unfold signedDecimal at first
  split at first
  · exact .inl (Option.some.inj first).symm
  · exact .inr (head?_decimal first)

theorem scalar?_signedDecimal (value : Int)
    : Json.scalar? (signedDecimal value) = some (.number value 0) := by
  have no_word {word : ByteString} {letter : UInt8} (starts : word.head? = some letter)
      (other : letter ≠ 45 ∧ isdigit letter = false)
      : signedDecimal value ≠ word := by
    intro same
    rw [← same] at starts
    rcases head?_signedDecimal starts with minus | digit
    · exact other.1 minus
    · simp [digit] at other
  rw [Json.scalar?, if_neg (no_word rfl (by decide)), if_neg (no_word rfl (by decide)),
    if_neg (no_word rfl (by decide)), number?_signedDecimal]

theorem derives_signedDecimal (value : Int)
    : Json.Derives (signedDecimal value) (.value (.number value 0)) := by
  have digits : ∀ byte ∈ decimal value.natAbs, Json.isTokenByte byte = true :=
    fun byte member => isTokenByte_of_isdigit (decimal_isdigit member)
  refine .scalar ?_ (scalar?_signedDecimal value)
  unfold signedDecimal
  split
  · exact List.forall_mem_cons.mpr ⟨rfl, digits⟩
  · exact digits

-----------------------------------------------------------------------------------------
-- Arrays and objects
-----------------------------------------------------------------------------------------

theorem writesEntry_element {text : ByteString} {value : Json}
    (derived : Json.Derives text (.value value))
    : Json.WritesEntry .array text ([], value) :=
  ⟨[], text, rfl, .element, derived⟩

theorem writesEntry_jsonMember {text : ByteString} {value : Json} (key : ByteString)
    (derived : Json.Derives text (.value value))
    : Json.WritesEntry .object (jsonMember key text) (key, value) := by
  obtain ⟨units, chars, means⟩ := chars_escapeJsonString key
  refine ⟨_, text, ?_, .name chars means Json.blank_nil, derived⟩
  simp [jsonMember, jsonString]

theorem derives_entries {kind : Json.Kind} {text : ByteString} {entry : ByteString × Json}
    {texts : List ByteString} {entries : List (ByteString × Json)}
    (written : Json.WritesEntry kind text entry)
    (others : List.Forall₂ (Json.WritesEntry kind) texts entries)
    : Json.Derives (join [44] (text :: texts)) (.entries kind (entry :: entries)) := by
  induction others generalizing text entry with
  | nil => exact written.derives
  | cons next _ ih =>
      have more := written.derives_cons (ih next)
      simpa [join_cons] using more

/-- Entries with commas between them, in brackets. -/
theorem derives_brackets {kind : Json.Kind} {texts : List ByteString}
    {entries : List (ByteString × Json)}
    (written : List.Forall₂ (Json.WritesEntry kind) texts entries)
    : Json.Derives (kind.opening :: (join [44] texts ++ [kind.closing]))
        (.value (kind.build entries)) := by
  cases written with
  | nil => exact .empty kind Json.blank_nil
  | cons first others => exact .brackets (derives_entries first others)

/-- The empty container is no special case. -/
theorem brackets_ofFn {size : Nat} (texts : Fin size → ByteString) (opening closing : UInt8)
    : (if size = 0 then [opening, closing]
        else opening :: (join [44] (List.ofFn texts) ++ [closing]))
      = opening :: (join [44] (List.ofFn texts) ++ [closing]) := by
  split
  · rename_i none
    subst none
    rfl
  · rfl

/-- The value a tree stands for, given what its doubles stand for. -/
def JsonObject.toJson {Double : Type} (valueOf : Double → Json) : JsonObject Double → Json
  | .null => .null
  | .bool value => .bool value
  | .int64 value => .number value.toInt 0
  | .double value => valueOf value
  | .string value => .string value
  | .vector _ items => .array (List.ofFn (fun i => (items i).toJson valueOf))
  | .map _ keys _ values => .object (List.ofFn (fun i => (keys i, (values i).toJson valueOf)))

theorem derives_literal {text : ByteString} {value : Json}
    (means : Json.scalar? text = some value) (token : text.all Json.isTokenByte = true)
    : Json.Derives text (.value value) :=
  .scalar (List.all_eq_true.mp token) means

/-- Numbers without a fraction and an exponent stand for themselves, so do all other leaves; what
is left is what the stream prints for a double.
-/
theorem derives_jsonStringify {Double : Type} {printDouble : Double → ByteString}
    {valueOf : Double → Json}
    (doubles : ∀ value, Json.Derives (printDouble value) (.value (valueOf value)))
    (tree : JsonObject Double)
    : Json.Derives (jsonStringify printDouble tree) (.value (tree.toJson valueOf)) := by
  induction tree with
  | null => exact derives_literal rfl rfl
  | bool value =>
      cases value with
      | false => exact derives_literal rfl rfl
      | true => exact derives_literal rfl rfl
  | int64 value => exact derives_signedDecimal value.toInt
  | double value => exact doubles value
  | string value => exact derives_jsonString value
  | vector size items ih =>
      have entries := derives_brackets (forall₂_ofFn (fun i => writesEntry_element (ih i)))
      rw [Json.Kind.build, List.map_ofFn] at entries
      rw [jsonStringify, show ascii "[]" = [91, 93] from rfl, brackets_ofFn]
      exact entries
  | map size keys sorted values ih =>
      have entries :=
        derives_brackets (forall₂_ofFn (fun i => writesEntry_jsonMember (keys i) (ih i)))
      rw [jsonStringify, brackets_ofFn]
      exact entries

theorem parse_jsonStringify {Double : Type} {printDouble : Double → ByteString}
    {valueOf : Double → Json}
    (doubles : ∀ value, Json.Derives (printDouble value) (.value (valueOf value)))
    (tree : JsonObject Double)
    : Json.parse (jsonStringify printDouble tree) = some (tree.toJson valueOf) := by
  have document :=
    Json.Document.text Json.blank_nil (derives_jsonStringify doubles tree) Json.blank_nil
  rw [List.nil_append, List.append_nil] at document
  exact Json.parse_eq_some_iff.mpr document

theorem parse_line {text : ByteString} {value : Json} (derived : Json.Derives text (.value value))
    : Json.parse (text ++ [10]) = some value := by
  have newline : Json.Blank [10] := List.forall_mem_singleton.mpr rfl
  exact Json.parse_eq_some_iff.mpr (.text Json.blank_nil derived newline)

theorem parse_printArray (items : List ByteString)
    : Json.parse (printArray items) = some (.array (items.map .string)) := by
  have written
    : List.Forall₂ (Json.WritesEntry .array) (items.map jsonString)
        (items.map (fun item => ([], .string item))) := by
    rw [List.forall₂_map_left_iff, List.forall₂_map_right_iff, List.forall₂_same]
    exact fun item _ => writesEntry_element (derives_jsonString item)
  have line := parse_line (derives_brackets written)
  rw [Json.Kind.build, List.map_map, List.cons_append, List.append_assoc] at line
  exact line

theorem parse_printKeyValues (pairs : List (ByteString × ByteString))
    : Json.parse (printKeyValues pairs)
      = some (.object (pairs.map (fun pair => (pair.1, .string pair.2)))) := by
  have written
    : List.Forall₂ (Json.WritesEntry .object)
        (pairs.map (fun pair => jsonMember pair.1 (jsonString pair.2)))
        (pairs.map (fun pair => (pair.1, .string pair.2))) := by
    rw [List.forall₂_map_left_iff, List.forall₂_map_right_iff, List.forall₂_same]
    exact fun pair _ => writesEntry_jsonMember pair.1 (derives_jsonString pair.2)
  have line := parse_line (derives_brackets written)
  rw [List.cons_append, List.append_assoc] at line
  exact line

/-- Trees without doubles that stand for the same value are the same. -/
theorem JsonObject.toJson_inj {a b : JsonObject Empty}
    (same : a.toJson Empty.elim = b.toJson Empty.elim)
    : a = b := by
  induction a generalizing b with
  | null =>
      cases b with
      | null => rfl
      | double value => exact value.elim
      | _ => simp [toJson] at same
  | bool value =>
      cases b with
      | bool value' =>
          rw [toJson, toJson, Json.bool.injEq] at same
          rw [same]
      | double value => exact value.elim
      | _ => simp [toJson] at same
  | int64 value =>
      cases b with
      | int64 value' =>
          rw [toJson, toJson, Json.number.injEq] at same
          rw [Int64.toInt_inj.mp same.1]
      | double value => exact value.elim
      | _ => simp [toJson] at same
  | double value => exact value.elim
  | string value =>
      cases b with
      | string value' =>
          rw [toJson, toJson, Json.string.injEq] at same
          rw [same]
      | double value => exact value.elim
      | _ => simp [toJson] at same
  | vector size items ih =>
      cases b with
      | vector size' items' =>
          rw [toJson, toJson, Json.array.injEq] at same
          obtain rfl : size = size' := by simpa using congrArg List.length same
          have values := congrFun (List.ofFn_injective same)
          have equal : items = items' := funext (fun i => ih i (values i))
          rw [equal]
      | double value => exact value.elim
      | _ => simp [toJson] at same
  | map size keys sorted values ih =>
      cases b with
      | map size' keys' sorted' values' =>
          rw [toJson, toJson, Json.object.injEq] at same
          obtain rfl : size = size' := by simpa using congrArg List.length same
          have members := congrFun (List.ofFn_injective same)
          obtain rfl : keys = keys' := funext (fun i => (Prod.mk.inj (members i)).1)
          have equal : values = values' := funext (fun i => ih i (Prod.mk.inj (members i)).2)
          rw [equal]
      | double value => exact value.elim
      | _ => simp [toJson] at same

/-- What is printed for a tree without doubles, and only that, is read back as the tree. -/
theorem jsonStringify_roundTrip (tree : JsonObject Empty) (items : List ByteString)
    (pairs : List (ByteString × ByteString))
    : (∀ other : JsonObject Empty,
        Json.parse (jsonStringify Empty.elim tree) = some (other.toJson Empty.elim)
          ↔ other = tree)
      ∧ (∀ other : JsonObject Empty,
          jsonStringify Empty.elim other = jsonStringify Empty.elim tree ↔ other = tree)
      ∧ Json.parse (printArray items) = some (.array (items.map .string))
      ∧ Json.parse (printKeyValues pairs)
        = some (.object (pairs.map (fun pair => (pair.1, .string pair.2)))) := by
  have reads (tree : JsonObject Empty)
    : Json.parse (jsonStringify Empty.elim tree) = some (tree.toJson Empty.elim) :=
    parse_jsonStringify (fun value => value.elim) tree
  refine ⟨?_, ?_, parse_printArray items, parse_printKeyValues pairs⟩
  · intro other
    rw [reads tree, Option.some_inj]
    exact ⟨fun same => JsonObject.toJson_inj same.symm, fun same => by rw [same]⟩
  · intro other
    constructor
    · intro alike
      have same := reads other
      rw [alike, reads tree, Option.some_inj] at same
      exact JsonObject.toJson_inj same.symm
    · intro same
      rw [same]

end NexusD.Tools
