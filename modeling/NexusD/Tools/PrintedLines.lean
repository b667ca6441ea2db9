import NexusD.Library.JsonLines
import NexusD.Tools.OutputFormatter

/-! What a sequence of calls of the formatter leaves on the terminal.
In JSON mode each call prints a text without line feeds and ends the line, so the output can be
read back line by line. In text mode the tables line up.
-/

namespace NexusD.Tools

open NexusD.Core NexusD.Library

inductive PrintCall (Double : Type) where
  | ok
  | okMessage (message : ByteString)
  | error (message : ByteString)
  | nil
  | integer (value : Int64)
  | string (value : ByteString)
  | bulkString (value : ByteString)
  | array (items : List ByteString)
  | keyValue (key value : ByteString)
  | keyValues (pairs : List (ByteString × ByteString))
  | table (headers : List ByteString) (rows : List (List ByteString))
  | json (obj : JsonObject Double)
  | sectionTitle (title : ByteString)
  | separator
  | raw (text : ByteString)
  | line (text : ByteString)

/-- `std::cout` and `std::cerr`. -/
structure Terminal where
  stdout : ByteString := []
  stderr : ByteString := []
  /-- `std::left` stays in force once it was set -/
  left : Bool := false

namespace Terminal

def print (terminal : Terminal) (text : ByteString) : Terminal :=
  { terminal with stdout := terminal.stdout ++ text }

/-- `std::setw(width) << text`, with the alignment in force. -/
def column (terminal : Terminal) (width : Nat) (text : ByteString) : ByteString :=
  if terminal.left then text.rightpad width 32 else text.leftpad width 32

/-- `std::left << std::setw(width) << text` -/
def columnLeft (width : Nat) (text : ByteString) : ByteString := text.rightpad width 32

end Terminal

/-- An object of `print_table`; the loop ends with the shorter of the two lists. -/
def tableObject (headers row : List ByteString) : ByteString :=
  123 :: (join [44] ((headers.zip row).map (fun cell =>
    jsonMember cell.1 (jsonString cell.2))) ++ [125])

/-- What a call prints in JSON mode. -/
def jsonText {Double : Type} (printDouble : Double → ByteString)
    : PrintCall Double → ByteString
  | .ok => ascii "\x7b\"status\":\"OK\"\x7d\n"
  | .okMessage message =>
      ascii "\x7b\"status\":\"OK\",\"message\":\"" ++ escapeJsonString message
        ++ ascii "\"\x7d\n"
  | .error message =>
      ascii "\x7b\"error\":\"" ++ escapeJsonString message ++ ascii "\"\x7d\n"
  | .nil => ascii "null\n"
  | .integer value => signedDecimal value.toInt ++ ascii "\n"
  | .string value | .bulkString value => jsonString value ++ ascii "\n"
  | .array items => printArray items
  | .keyValue key value =>
      ascii "\x7b\"" ++ escapeJsonString key ++ ascii "\":\"" ++ escapeJsonString value
        ++ ascii "\"\x7d\n"
  | .keyValues pairs => printKeyValues pairs
  | .table headers rows => 91 :: (join [44] (rows.map (tableObject headers)) ++ [93, 10])
  | .json obj => jsonStringify printDouble obj ++ ascii "\n"
  | .sectionTitle _ | .separator => []
  | .raw text => text
  | .line text => text ++ ascii "\n"

/-- The inner loop of `calculate_column_widths`: the widths with a row. -/
def widen : List Nat → List ByteString → List Nat
  | [], _ => []
  | widths, [] => widths
  | width :: widths, cell :: cells => max width cell.length :: widen widths cells

def calculateColumnWidths (headers : List ByteString) (rows : List (List ByteString))
    : List Nat :=
  rows.foldl widen (headers.map List.length)

/-- The cells of a row, or the headers, each in its column. -/
def tableRow (widths : List Nat) (row : List ByteString) : ByteString :=
  (row.zip widths).flatMap (fun cell => Terminal.columnLeft (cell.2 + 2) cell.1)

def tableSeparator (widths : List Nat) : ByteString :=
  widths.flatMap (fun width => List.replicate width 45 ++ [32, 32])

/-- `print_table` in text mode, for at least one row. -/
def tableText (headers : List ByteString) (rows : List (List ByteString)) : ByteString :=
  let widths := calculateColumnWidths headers rows
  tableRow widths headers ++ [10] ++ tableSeparator widths ++ [10]
    ++ rows.flatMap (fun row => tableRow widths row ++ [10])

def arrayText (terminal : Terminal) (items : List ByteString) : ByteString :=
  items.zipIdx.flatMap (fun item =>
    terminal.column 3 (decimal (item.2 + 1)) ++ ascii ") " ++ item.1 ++ [10])

def keyValuesText (pairs : List (ByteString × ByteString)) : ByteString :=
  let maxKeyLen := pairs.foldl (fun longest pair => max longest pair.1.length) 0
  pairs.flatMap (fun pair =>
    Terminal.columnLeft (maxKeyLen + 1) (pair.1 ++ ascii ":") ++ ascii " " ++ pair.2 ++ [10])

/-- A call in text mode. -/
def printText {Double : Type} (printDouble : Double → ByteString) (terminal : Terminal)
    : PrintCall Double → Terminal
  | .ok => terminal.print (ascii "OK\n")
  | .okMessage message => terminal.print (ascii "OK: " ++ message ++ ascii "\n")
  | .error message =>
      { terminal with
        stderr := terminal.stderr ++ (ascii "(error) " ++ message ++ ascii "\n") }
  | .nil => terminal.print (ascii "(nil)\n")
  | .integer value =>
      terminal.print (ascii "(integer) " ++ signedDecimal value.toInt ++ ascii "\n")
  | .string value => terminal.print (ascii "\"" ++ value ++ ascii "\"\n")
  | .bulkString value => terminal.print (value ++ ascii "\n")
  | .array items =>
      if items.isEmpty then terminal.print (ascii "(empty array)\n")
      else terminal.print (arrayText terminal items)
  | .keyValue key value => terminal.print (key ++ ascii ": " ++ value ++ ascii "\n")
  | .keyValues pairs =>
      { terminal.print (keyValuesText pairs) with left := terminal.left || !pairs.isEmpty }
  | .table headers rows =>
      if rows.isEmpty then terminal.print (ascii "(empty list)\n")
      else
        { terminal.print (tableText headers rows) with
          left := terminal.left || !headers.isEmpty }
  | .json obj => terminal.print (jsonStringify printDouble obj ++ ascii "\n")
  | .sectionTitle title => terminal.print (ascii "\n# " ++ title ++ ascii "\n")
  | .separator => terminal.print (ascii "\n")
  | .raw text => terminal.print text
  | .line text => terminal.print (text ++ ascii "\n")

/-- A call of the formatter. -/
def OutputFormatter.call {Double : Type} (jsonMode : Bool)
    (printDouble : Double → ByteString) (terminal : Terminal) (call : PrintCall Double)
    : Terminal :=
  if jsonMode then terminal.print (jsonText printDouble call)
  else printText printDouble terminal call

/-- One call after the other. -/
def OutputFormatter.session {Double : Type} (jsonMode : Bool)
    (printDouble : Double → ByteString) (calls : List (PrintCall Double))
    : Terminal :=
  calls.foldl (OutputFormatter.call jsonMode printDouble) {}

-----------------------------------------------------------------------------------------
-- Reading the lines
-----------------------------------------------------------------------------------------

namespace PrintCall

variable {Double : Type}

/-- The call prints what it is given without quoting it. -/
def verbatim : PrintCall Double → Bool
  | .raw _ | .line _ => true
  | _ => false

/-- The value a call prints in JSON mode, given what the doubles stand for. -/
def value? (valueOf : Double → Json) : PrintCall Double → Option Json
  | .ok => some (.object [(ascii "status", .string (ascii "OK"))])
  | .okMessage message =>
      some (.object
        [(ascii "status", .string (ascii "OK")), (ascii "message", .string message)])
  | .error message => some (.object [(ascii "error", .string message)])
  | .nil => some .null
  | .integer value => some (.number value.toInt 0)
  | .string value | .bulkString value => some (.string value)
  | .array items => some (.array (items.map .string))
  | .keyValue key value => some (.object [(key, .string value)])
  | .keyValues pairs => some (.object (pairs.map (fun pair => (pair.1, .string pair.2))))
  | .table headers rows =>
      some (.array (rows.map (fun row =>
        .object ((headers.zip row).map (fun cell => (cell.1, .string cell.2))))))
  | .json obj => some (obj.toJson valueOf)
  | .sectionTitle _ | .separator | .raw _ | .line _ => none

end PrintCall

theorem unbroken_jsonString (s : ByteString) : 10 ∉ jsonString s := by
  obtain ⟨units, chars, _⟩ := chars_escapeJsonString s
  simp [jsonString, chars.unbroken]

theorem unbroken_join {texts : List ByteString} (unbroken : ∀ text ∈ texts, 10 ∉ text)
    : 10 ∉ join [44] texts := by
  cases texts with
  | nil => exact List.not_mem_nil
  | cons first rest =>
      rw [join_cons]
      simp only [List.mem_append, List.mem_flatMap, not_or, not_exists, not_and]
      refine ⟨unbroken first List.mem_cons_self, ?_⟩
      intro text member
      simp [unbroken text (List.mem_cons_of_mem _ member)]

/-- Entries that are each on one line make a container on one line. -/
theorem oneLine_brackets {kind : Json.Kind} {texts : List ByteString}
    {entries : List (ByteString × Json)}
    (written : List.Forall₂ (Json.WritesEntry kind) texts entries)
    (unbroken : ∀ text ∈ texts, 10 ∉ text)
    : Json.OneLine (kind.opening :: (join [44] texts ++ [kind.closing])) (kind.build entries) := by
  refine ⟨derives_brackets written, ?_⟩
  have inner := unbroken_join unbroken
  cases kind <;> simp [Json.Kind.opening, Json.Kind.closing, inner]

theorem oneLine_string (s : ByteString) : Json.OneLine (jsonString s) (.string s) :=
  ⟨derives_jsonString s, unbroken_jsonString s⟩

theorem unbroken_decimal (value : Nat) : 10 ∉ decimal value :=
  Json.unbroken_of_token (fun _ member => isTokenByte_of_isdigit (decimal_isdigit member))

theorem oneLine_integer (value : Int)
    : Json.OneLine (signedDecimal value) (.number value 0) := by
  refine ⟨derives_signedDecimal value, ?_⟩
  unfold signedDecimal
  split <;> simp [unbroken_decimal]

/-- An object whose members are strings. -/
theorem oneLine_object (pairs : List (ByteString × ByteString))
    : Json.OneLine
        (123 :: (join [44] (pairs.map (fun pair => jsonMember pair.1 (jsonString pair.2)))
          ++ [125]))
        (.object (pairs.map (fun pair => (pair.1, .string pair.2)))) := by
  have written
    : List.Forall₂ (Json.WritesEntry .object)
        (pairs.map (fun pair => jsonMember pair.1 (jsonString pair.2)))
        (pairs.map (fun pair => (pair.1, .string pair.2))) := by
    rw [List.forall₂_map_left_iff, List.forall₂_map_right_iff, List.forall₂_same]
    exact fun pair _ => writesEntry_jsonMember pair.1 (derives_jsonString pair.2)
  refine oneLine_brackets written ?_
  intro text member
  obtain ⟨pair, _, rfl⟩ := List.mem_map.mp member
  simp [jsonMember, unbroken_jsonString]

/-- An array of texts that are each on one line. -/
theorem oneLine_array {Item : Type} (items : List Item) {text : Item → ByteString}
    {value : Item → Json} (line : ∀ item ∈ items, Json.OneLine (text item) (value item))
    : Json.OneLine (91 :: (join [44] (items.map text) ++ [93])) (.array (items.map value)) := by
  have written
    : List.Forall₂ (Json.WritesEntry .array) (items.map text)
        (items.map (fun item => ([], value item))) := by
    rw [List.forall₂_map_left_iff, List.forall₂_map_right_iff, List.forall₂_same]
    exact fun item member => writesEntry_element (line item member).derived
  have whole := oneLine_brackets written (fun one member => by
    obtain ⟨item, listed, rfl⟩ := List.mem_map.mp member
    exact (line item listed).unbroken)
  rw [Json.Kind.build, List.map_map] at whole
  exact whole

theorem unbroken_jsonStringify {Double : Type} {printDouble : Double → ByteString}
    (doubles : ∀ value, 10 ∉ printDouble value) (tree : JsonObject Double)
    : 10 ∉ jsonStringify printDouble tree := by
  induction tree with
  | null =>
      change 10 ∉ ascii "null"
      decide
  | bool value =>
      change 10 ∉ if value then ascii "true" else ascii "false"
      cases value <;> decide
  | int64 value => exact (oneLine_integer value.toInt).unbroken
  | double value => exact doubles value
  | string value => exact unbroken_jsonString value
  | vector size items ih =>
      have inner : 10 ∉ join [44] (List.ofFn (fun i => jsonStringify printDouble (items i))) := by
        apply unbroken_join
        intro text member
        obtain ⟨i, rfl⟩ := List.mem_ofFn.mp member
        exact ih i
      rw [jsonStringify, show ascii "[]" = [91, 93] from rfl, brackets_ofFn]
      simp [inner]
  | map size keys sorted values ih =>
      have inner
        : 10 ∉ join [44] (List.ofFn (fun i =>
            jsonMember (keys i) (jsonStringify printDouble (values i)))) := by
        apply unbroken_join
        intro text member
        obtain ⟨i, rfl⟩ := List.mem_ofFn.mp member
        simp [jsonMember, unbroken_jsonString, ih i]
      rw [jsonStringify, brackets_ofFn]
      simp [inner]

/-- What the stream prints for a double is a number, and no line feed. -/
def PrintsDoubles {Double : Type} (printDouble : Double → ByteString)
    (valueOf : Double → Json)
    : Prop :=
  ∀ value, Json.OneLine (printDouble value) (valueOf value)

section Lines

variable {Double : Type} {printDouble : Double → ByteString} {valueOf : Double → Json}

/-- A call that quotes its arguments prints its value on a line, or nothing. -/
theorem jsonText_line (doubles : PrintsDoubles printDouble valueOf) (call : PrintCall Double)
    (quoted : call.verbatim = false)
    : match call.value? valueOf with
      | none => jsonText printDouble call = []
      | some value =>
          ∃ text, jsonText printDouble call = text ++ [10] ∧ Json.OneLine text value := by
  cases call with
  | ok => exact ⟨_, rfl, oneLine_object [(ascii "status", ascii "OK")]⟩
  | okMessage message =>
      refine ⟨_, ?_, oneLine_object [(ascii "status", ascii "OK"), (ascii "message", message)]⟩
      simp [jsonText, join, jsonMember, jsonString]
      rfl
  | error message =>
      refine ⟨_, ?_, oneLine_object [(ascii "error", message)]⟩
      simp [jsonText, join, jsonMember, jsonString]
      rfl
  | nil => exact ⟨ascii "null", rfl, derives_literal rfl rfl, by decide⟩
  | integer value => exact ⟨_, rfl, oneLine_integer value.toInt⟩
  | string value | bulkString value => exact ⟨_, rfl, oneLine_string value⟩
  | array items =>
      refine ⟨_, ?_, oneLine_array items (fun item _ => oneLine_string item)⟩
      simp [jsonText, printArray]
  | keyValue key value =>
      refine ⟨_, ?_, oneLine_object [(key, value)]⟩
      simp [jsonText, join, jsonMember, jsonString]
      rfl
  | keyValues pairs =>
      refine ⟨_, ?_, oneLine_object pairs⟩
      simp [jsonText, printKeyValues]
  | table headers rows =>
      refine ⟨_, ?_, oneLine_array rows (fun row _ => oneLine_object (headers.zip row))⟩
      simp [jsonText]
      rfl
  | json obj =>
      exact ⟨_, rfl, derives_jsonStringify (fun value => (doubles value).derived) obj,
        unbroken_jsonStringify (fun value => (doubles value).unbroken) obj⟩
  | sectionTitle title => rfl
  | separator => rfl
  | raw text | line text => cases quoted

theorem stdout_foldl_call (calls : List (PrintCall Double)) (terminal : Terminal)
    : (calls.foldl (OutputFormatter.call true printDouble) terminal).stdout
      = terminal.stdout ++ calls.flatMap (jsonText printDouble) := by
  induction calls generalizing terminal with
  | nil => simp
  | cons call rest ih =>
      rw [List.foldl_cons, ih]
      simp [OutputFormatter.call, Terminal.print]

/-- In JSON mode the output of any calls of the formatter that quote what they print can be
read back: it has one line for each call that prints a value, in the order of the calls.
-/
theorem parseLines_session (doubles : PrintsDoubles printDouble valueOf)
    {calls : List (PrintCall Double)} (quoted : ∀ call ∈ calls, call.verbatim = false)
    : Json.parseLines (OutputFormatter.session true printDouble calls).stdout
      = some (calls.filterMap (PrintCall.value? valueOf)) := by
  rw [OutputFormatter.session, stdout_foldl_call, List.nil_append]
  induction calls with
  | nil => rfl
  | cons call rest ih =>
      obtain ⟨here, later⟩ := List.forall_mem_cons.mp quoted
      have printed := jsonText_line doubles call here
      rw [List.flatMap_cons]
      cases meant : call.value? valueOf with
      | none =>
          rw [meant] at printed
          rw [printed, List.nil_append, List.filterMap_cons_none meant, ih later]
      | some value =>
          rw [meant] at printed
          obtain ⟨text, is, line⟩ := printed
          rw [is, List.append_assoc, List.singleton_append, line.parseLines, ih later,
            List.filterMap_cons_some meant, Option.map_some]

end Lines

/-- A quotation mark in an error and a line feed in a cell. -/
def awkwardCalls : List (PrintCall Empty) :=
  [ .error [34],
    .sectionTitle (ascii "Peers"),
    .table [ascii "id", ascii "status"] [[[10], ascii "alive", ascii "ignored"], [[97]]],
    .nil ]

theorem parseLines_awkwardCalls
    : Json.parseLines (OutputFormatter.session true Empty.elim awkwardCalls).stdout
      = some
          [ .object [(ascii "error", .string [34])],
            .array
              [ .object [(ascii "id", .string [10]), (ascii "status", .string (ascii "alive"))],
                .object [(ascii "id", .string [97])] ],
            .null ] := by
  have doubles : PrintsDoubles Empty.elim Empty.elim := fun value => value.elim
  exact parseLines_session doubles (by decide)

-----------------------------------------------------------------------------------------
-- Tables
-----------------------------------------------------------------------------------------

/-- Where a column begins: each one before it takes its width and two blanks. -/
def columnOffset (widths : List Nat) (column : Nat) : Nat :=
  ((widths.take column).map (· + 2)).sum

/-- The part of a line that belongs to a column. -/
def columnText (widths : List Nat) (column : Nat) (line : ByteString) : ByteString :=
  (line.drop (columnOffset widths column)).take (widths.getD column 0 + 2)

/-- The widths suffice for the cells that are printed. -/
def Covers (widths : List Nat) (row : List ByteString) : Prop :=
  ∀ (column : Nat) (cell : ByteString) (width : Nat),
    row[column]? = some cell → widths[column]? = some width → cell.length ≤ width

theorem Covers.tail {width : Nat} {widths : List Nat} {cell : ByteString}
    {row : List ByteString} (covers : Covers (width :: widths) (cell :: row))
    : Covers widths row :=
  fun column => covers (column + 1)

theorem length_columnLeft {width : Nat} {text : ByteString} (fits : text.length ≤ width)
    : (Terminal.columnLeft width text).length = width := by
  simp [Terminal.columnLeft, List.rightpad, fits]

theorem tableRow_cons (width : Nat) (widths : List Nat) (cell : ByteString)
    (row : List ByteString)
    : tableRow (width :: widths) (cell :: row)
      = Terminal.columnLeft (width + 2) cell ++ tableRow widths row :=
  rfl

/-- A cell stands in its column, wherever the cells before it end. -/
theorem columnText_tableRow {widths : List Nat} {row : List ByteString}
    (covers : Covers widths row) {column : Nat} {cell : ByteString} {width : Nat}
    (is : row[column]? = some cell) (has : widths[column]? = some width)
    : columnText widths column (tableRow widths row)
      = Terminal.columnLeft (width + 2) cell := by
  induction column generalizing widths row with
  | zero =>
      cases row with
      | nil => cases is
      | cons first cells =>
          cases widths with
          | nil => cases has
          | cons head rest =>
              cases is
              cases has
              have short : cell.length ≤ width := covers 0 cell width rfl rfl
              have field := length_columnLeft (Nat.le_add_right_of_le (k := 2) short)
              rw [tableRow_cons]
              exact List.take_left' field
  | succ column ih =>
      cases row with
      | nil => cases is
      | cons first cells =>
          cases widths with
          | nil => cases has
          | cons head rest =>
              have short : first.length ≤ head := covers 0 first head rfl rfl
              have field := length_columnLeft (Nat.le_add_right_of_le (k := 2) short)
              have offset
                : columnOffset (head :: rest) (column + 1)
                  = (Terminal.columnLeft (head + 2) first).length
                    + columnOffset rest column := by
                rw [field]
                simp [columnOffset]
              rw [← ih covers.tail is has, columnText, offset, tableRow_cons,
                List.drop_length_add_append]
              rfl

theorem getElem?_widen (widths : List Nat) (row : List ByteString) (column : Nat)
    : (widen widths row)[column]?
      = widths[column]?.map (fun width => max width ((row[column]?.map List.length).getD 0)) := by
  induction widths generalizing row column with
  | nil => simp [widen]
  | cons width widths ih =>
      cases row with
      | nil => simp [widen]
      | cons cell cells =>
          cases column with
          | zero => simp [widen]
          | succ column => simpa [widen] using ih cells column

theorem length_widen (widths : List Nat) (row : List ByteString)
    : (widen widths row).length = widths.length := by
  induction widths generalizing row with
  | nil => rfl
  | cons width widths ih =>
      cases row with
      | nil => rfl
      | cons cell cells => simp [widen, ih]

theorem covers_widen (widths : List Nat) (row : List ByteString)
    : Covers (widen widths row) row := by
  intro column cell width is has
  rw [getElem?_widen, is] at has
  obtain ⟨old, _, rfl⟩ := Option.map_eq_some_iff.mp has
  exact le_max_right _ _

theorem Covers.widen {widths : List Nat} {row : List ByteString} (covers : Covers widths row)
    (other : List ByteString)
    : Covers (widen widths other) row := by
  intro column cell width is has
  rw [getElem?_widen] at has
  obtain ⟨old, was, rfl⟩ := Option.map_eq_some_iff.mp has
  exact (covers column cell old is was).trans (le_max_left _ _)

/-- The widths of a table suffice for its headers and all its rows. -/
theorem covers_foldl_widen {rows : List (List ByteString)} {widths : List Nat}
    {row : List ByteString} (listed : Covers widths row ∨ row ∈ rows)
    : Covers (rows.foldl Tools.widen widths) row := by
  induction rows generalizing widths with
  | nil => exact listed.resolve_right List.not_mem_nil
  | cons first rest ih =>
      apply ih
      rcases listed with before | member
      · exact .inl (before.widen first)
      · rcases List.mem_cons.mp member with rfl | later
        · exact .inl (covers_widen widths row)
        · exact .inr later

theorem covers_headers (headers : List ByteString) : Covers (headers.map List.length) headers := by
  intro column cell width is has
  rw [List.getElem?_map, is, Option.map_some, Option.some.injEq] at has
  exact has.le

theorem length_calculateColumnWidths (headers : List ByteString)
    (rows : List (List ByteString))
    : (calculateColumnWidths headers rows).length = headers.length := by
  have kept (widths : List Nat) : (rows.foldl widen widths).length = widths.length := by
    induction rows generalizing widths with
    | nil => rfl
    | cons row rest ih => rw [List.foldl_cons, ih, length_widen]
  rw [calculateColumnWidths, kept, List.length_map]

/-- In text mode a table lines up: in the line of the headers and in that of every row, each
column begins at the same place, holds the whole cell, and ends with at least two blanks.
-/
theorem table_aligned {Double : Type} (printDouble : Double → ByteString)
    (terminal : Terminal) (headers first : List ByteString) (others : List (List ByteString))
    : ∃ widths : List Nat,
        widths.length = headers.length
        ∧ (OutputFormatter.call false printDouble terminal
            (.table headers (first :: others))).stdout
          = terminal.stdout
            ++ (tableRow widths headers ++ [10] ++ tableSeparator widths ++ [10]
              ++ (first :: others).flatMap (fun row => tableRow widths row ++ [10]))
        ∧ ∀ row ∈ headers :: first :: others, ∀ column < headers.length, ∀ cell,
            row[column]? = some cell
            → ∃ blanks, 2 ≤ blanks
              ∧ columnText widths column (tableRow widths row)
                = cell ++ List.replicate blanks 32 := by
  have sized := length_calculateColumnWidths headers (first :: others)
  refine ⟨calculateColumnWidths headers (first :: others), sized, rfl, ?_⟩
  intro row member column inside cell is
  have covers : Covers (calculateColumnWidths headers (first :: others)) row := by
    apply covers_foldl_widen
    rcases List.mem_cons.mp member with rfl | later
    · exact .inl (covers_headers row)
    · exact .inr later
  have has := List.getElem?_eq_getElem (sized ▸ inside)
  refine ⟨_, ?_, (columnText_tableRow covers is has).trans rfl⟩
  have short := covers column cell _ is has
  omega

end NexusD.Tools
