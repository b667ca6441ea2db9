import Mathlib.Data.List.TakeWhile
import Mathlib.Data.Nat.Digits.Defs

/-! JSON texts over bytes: the grammar as a relation, and a parser.
Strings are byte sequences. Bytes from 128 on stand for themselves, and code points that are
given by their number stand for their UTF-8 encoding.
-/

namespace NexusD.Library

/-- The value of a JSON text. A number is `mantissa * 10 ^ exponent`. -/
inductive Json where
  | null
  | bool (value : Bool)
  | number (mantissa exponent : Int)
  | string (bytes : List UInt8)
  | array (items : List Json)
  | object (members : List (List UInt8 × Json))

namespace Json

/-- `ws` -/
def isBlank (byte : UInt8) : Bool := byte = 32 || byte = 9 || byte = 10 || byte = 13

def isDigit (byte : UInt8) : Bool := 48 ≤ byte && byte ≤ 57

/-- Neither white space nor a quotation mark nor one of the six structural characters. -/
def isTokenByte (byte : UInt8) : Bool :=
  !(isBlank byte || byte = 34 || byte = 44 || byte = 58 || byte = 91 || byte = 93
    || byte = 123 || byte = 125)

/-- `unescaped` -/
def isPlain (byte : UInt8) : Bool := 32 ≤ byte && byte ≠ 34 && byte ≠ 92

def Blank (text : List UInt8) : Prop := ∀ byte ∈ text, isBlank byte = true

def digitsValue (digits : List UInt8) : Nat :=
  Nat.ofDigits 10 (digits.reverse.map (fun digit => digit.toNat - 48))

/-- `[ frac ]`: its digits, and what follows. -/
def fraction (text : List UInt8) : Option (List UInt8 × List UInt8) :=
  if text.head? = some 46 then
    let digits := text.tail.takeWhile isDigit
    if digits = [] then none else some (digits, text.tail.dropWhile isDigit)
  else
    some ([], text)

/-- `[ minus / plus ]` -/
def exponentSign : List UInt8 → Int × List UInt8
  | [] => (1, [])
  | byte :: rest =>
      if byte = 45 then (-1, rest) else if byte = 43 then (1, rest) else (1, byte :: rest)

/-- `[ exp ]`, with nothing behind it. -/
def exponent : List UInt8 → Option Int
  | [] => some 0
  | mark :: rest =>
      if mark = 101 ∨ mark = 69 then
        let (sign, digits) := exponentSign rest
        if digits = [] ∨ digits.all isDigit = false then none
        else some (sign * digitsValue digits)
      else
        none

/-- `int [ frac ] [ exp ]` -/
def unsigned? (text : List UInt8) : Option (Nat × Int) :=
  let int := text.takeWhile isDigit
  if int = [] ∨ (int.head? = some 48 ∧ 1 < int.length) then
    none
  else
    (fraction (text.dropWhile isDigit)).bind (fun (frac, rest) =>
      (exponent rest).map (fun power =>
        (digitsValue (int ++ frac), power - frac.length)))

/-- `number` -/
def number? (text : List UInt8) : Option Json :=
  if text.head? = some 45 then
    (unsigned? text.tail).map (fun (mantissa, power) => .number (-mantissa) power)
  else
    (unsigned? text).map (fun (mantissa, power) => .number mantissa power)

/-- The value of a literal or a number. -/
def scalar? (token : List UInt8) : Option Json :=
  if token = [110, 117, 108, 108] then some .null
  else if token = [116, 114, 117, 101] then some (.bool true)
  else if token = [102, 97, 108, 115, 101] then some (.bool false)
  else number? token

/-- A byte of a string, or a UTF-16 code unit given by its number. -/
inductive CharUnit where
  | byte (value : UInt8)
  | code (value : Nat)

def hexDigit? (byte : UInt8) : Option Nat :=
  if 48 ≤ byte && byte ≤ 57 then some (byte.toNat - 48)
  else if 97 ≤ byte && byte ≤ 102 then some (byte.toNat - 87)
  else if 65 ≤ byte && byte ≤ 70 then some (byte.toNat - 55)
  else none

/-- `4HEXDIG` -/
def codeUnit? (a b c d : UInt8) : Option Nat :=
  (hexDigit? a).bind (fun a => (hexDigit? b).bind (fun b => (hexDigit? c).bind (fun c =>
    (hexDigit? d).map (fun d => ((a * 16 + b) * 16 + c) * 16 + d))))

/-- The byte behind a backslash, and what the two stand for. -/
def escaped? (mark : UInt8) : Option UInt8 :=
  if mark = 34 ∨ mark = 92 ∨ mark = 47 then some mark
  else if mark = 98 then some 8
  else if mark = 102 then some 12
  else if mark = 110 then some 10
  else if mark = 114 then some 13
  else if mark = 116 then some 9
  else none

/-- `*char`: a text between quotation marks, and its units. -/
inductive Chars : List UInt8 → List CharUnit → Prop where
  | nil : Chars [] []
  | plain {byte text units} (raw : isPlain byte = true) (rest : Chars text units)
      : Chars (byte :: text) (.byte byte :: units)
  | escape {mark byte text units} (short : escaped? mark = some byte)
      (rest : Chars text units)
      : Chars (92 :: mark :: text) (.byte byte :: units)
  | code {a b c d value text units} (hex : codeUnit? a b c d = some value)
      (rest : Chars text units)
      : Chars (92 :: 117 :: a :: b :: c :: d :: text) (.code value :: units)

/-- The UTF-8 encoding of a code point. -/
def utf8 (code : Nat) : List UInt8 :=
  if code < 0x80 then [.ofNat code]
  else if code < 0x800 then [.ofNat (0xC0 + code / 64), .ofNat (0x80 + code % 64)]
  else if code < 0x10000 then
    [.ofNat (0xE0 + code / 4096), .ofNat (0x80 + code / 64 % 64), .ofNat (0x80 + code % 64)]
  else
    [.ofNat (0xF0 + code / 262144), .ofNat (0x80 + code / 4096 % 64),
      .ofNat (0x80 + code / 64 % 64), .ofNat (0x80 + code % 64)]

/-- The bytes the units stand for. Half of a surrogate pair stands for nothing. -/
def assemble : List CharUnit → Option (List UInt8)
  | [] => some []
  | .byte value :: rest => (assemble rest).map (value :: ·)
  | .code value :: rest =>
      if value < 0xD800 ∨ 0xE000 ≤ value then
        (assemble rest).map (utf8 value ++ ·)
      else
        match rest with
        | .code low :: rest =>
            if value < 0xDC00 ∧ 0xDC00 ≤ low ∧ low < 0xE000 then
              (assemble rest).map
                (utf8 (0x10000 + (value - 0xD800) * 0x400 + (low - 0xDC00)) ++ ·)
            else
              none
        | _ => none

-----------------------------------------------------------------------------------------
-- The grammar
-----------------------------------------------------------------------------------------

/-- The two kinds of brackets. -/
inductive Kind where
  | array
  | object

namespace Kind

def opening : Kind → UInt8
  | array => 91
  | object => 123

def closing : Kind → UInt8
  | array => 93
  | object => 125

/-- The value of what stands in the brackets. Elements of an array have empty labels. -/
def build : Kind → List (List UInt8 × Json) → Json
  | array, entries => .array (entries.map Prod.snd)
  | object, entries => .object entries

end Kind

/-- What stands in front of a value in brackets: nothing, or `string name-separator`. -/
inductive Label : Kind → List UInt8 → List UInt8 → Prop where
  | element : Label .array [] []
  | name {text units key blank} (chars : Chars text units) (means : assemble units = some key)
      (space : Blank blank)
      : Label .object (34 :: (text ++ 34 :: (blank ++ [58]))) key

/-- What a part of a text stands for. -/
inductive Phrase where
  | value (value : Json)
  | entries (kind : Kind) (entries : List (List UInt8 × Json))

/-- `value`, and `value *( value-separator value )` or `member *( value-separator member )`
between brackets.
-/
inductive Derives : List UInt8 → Phrase → Prop where
  | scalar {text value} (token : ∀ byte ∈ text, isTokenByte byte = true)
      (means : scalar? text = some value)
      : Derives text (.value value)
  | string {text units bytes} (chars : Chars text units)
      (means : assemble units = some bytes)
      : Derives (34 :: (text ++ [34])) (.value (.string bytes))
  | empty {blank} (kind : Kind) (space : Blank blank)
      : Derives (kind.opening :: (blank ++ [kind.closing])) (.value (kind.build []))
  | brackets {kind text entries} (inner : Derives text (.entries kind entries))
      : Derives (kind.opening :: (text ++ [kind.closing])) (.value (kind.build entries))
  | last {kind before label key between text value after} (leading : Blank before)
      (labelled : Label kind label key) (space : Blank between)
      (derived : Derives text (.value value)) (trailing : Blank after)
      : Derives (before ++ (label ++ (between ++ (text ++ after))))
          (.entries kind [(key, value)])
  | entry {kind before label key between text value after others entries}
      (leading : Blank before) (labelled : Label kind label key) (space : Blank between)
      (derived : Derives text (.value value)) (trailing : Blank after)
      (more : Derives others (.entries kind entries))
      : Derives (before ++ (label ++ (between ++ (text ++ (after ++ 44 :: others)))))
          (.entries kind ((key, value) :: entries))

/-- `JSON-text` -/
inductive Document : List UInt8 → Json → Prop where
  | text {before text value after} (leading : Blank before)
      (derived : Derives text (.value value)) (trailing : Blank after)
      : Document (before ++ (text ++ after)) value

-----------------------------------------------------------------------------------------
-- The parser
-----------------------------------------------------------------------------------------

def skipBlank (input : List UInt8) : List UInt8 := input.dropWhile isBlank

/-- Behind an opening quotation mark: the units up to the closing one, and what follows. -/
def readChars : List UInt8 → Option (List CharUnit × List UInt8)
  | [] => none
  | byte :: rest =>
      if byte = 34 then
        some ([], rest)
      else if byte = 92 then
        match rest with
        | [] => none
        | mark :: rest =>
            if mark = 117 then
              match rest with
              | a :: b :: c :: d :: rest =>
                  match codeUnit? a b c d with
                  | none => none
                  | some value =>
                      (readChars rest).map (fun (units, left) => (.code value :: units, left))
              | _ => none
            else
              match escaped? mark with
              | none => none
              | some value =>
                  (readChars rest).map (fun (units, left) => (.byte value :: units, left))
      else if isPlain byte then
        (readChars rest).map (fun (units, left) => (.byte byte :: units, left))
      else
        none

def readString (input : List UInt8) : Option (List UInt8 × List UInt8) :=
  (readChars input).bind (fun (units, rest) =>
    (assemble units).map (fun bytes => (bytes, rest)))

def Kind.readLabel : Kind → List UInt8 → Option (List UInt8 × List UInt8)
  | .array, input => some ([], input)
  | .object, [] => none
  | .object, byte :: rest =>
      if byte = 34 then
        (readString rest).bind (fun (key, rest) =>
          match skipBlank rest with
          | [] => none
          | byte :: rest => if byte = 58 then some (key, rest) else none)
      else
        none

def readScalar (input : List UInt8) : Option (Json × List UInt8) :=
  (scalar? (input.takeWhile isTokenByte)).map (fun value =>
    (value, input.dropWhile isTokenByte))

def Kind.ofOpening (byte : UInt8) : Option Kind :=
  if byte = 91 then some .array else if byte = 123 then some .object else none

mutual

/-- A value at the start of the input, and what follows it. -/
def readValue : Nat → List UInt8 → Option (Json × List UInt8)
  | 0, _ => none
  | _ + 1, [] => none
  | fuel + 1, byte :: rest =>
      if byte = 34 then
        (readString rest).map (fun (bytes, left) => (.string bytes, left))
      else
        match Kind.ofOpening byte with
        | none => readScalar (byte :: rest)
        | some kind =>
            if (skipBlank rest).head? = some kind.closing then
              some (kind.build [], (skipBlank rest).tail)
            else
              (readEntries fuel kind rest).map (fun (entries, left) =>
                (kind.build entries, left))

/-- Entries up to the closing bracket, and what follows it. -/
def readEntries : Nat → Kind → List UInt8 → Option (List (List UInt8 × Json) × List UInt8)
  | 0, _, _ => none
  | fuel + 1, kind, input =>
      (kind.readLabel (skipBlank input)).bind (fun (key, rest) =>
        (readValue fuel (skipBlank rest)).bind (fun (value, rest) =>
          match skipBlank rest with
          | [] => none
          | byte :: rest =>
              if byte = 44 then
                (readEntries fuel kind rest).map (fun (entries, left) =>
                  ((key, value) :: entries, left))
              else if byte = kind.closing then
                some ([(key, value)], rest)
              else
                none))

end

/-- The value of a text, if it is one JSON text. The brackets in it are not nested deeper than
it is long.
-/
def parse (text : List UInt8) : Option Json :=
  (readValue text.length (skipBlank text)).bind (fun (value, rest) =>
    if skipBlank rest = [] then some value else none)

end Json

end NexusD.Library
